import Voucher.Uuid

/-!
Failures of the service that are no rejections: something is missing, a parameter is wrong, or a
backend failed. Clients see the wording of the first two only.
-/
namespace Voucher

inductive ServiceError where
  | redemptionNotFound (id : Uuid)
  | validation (text : String)
  /-- The wording is the database's own and is not kept. -/
  | database
  /-- The wording is the reader's own and is not kept. -/
  | serialization
  /-- The wording is there only if it is the service's own. -/
  | redis (text : Option String)
  | lock (text : String)
  | internal (text : String)
  deriving DecidableEq, Inhabited

namespace ServiceError

def code : ServiceError → String
  | redemptionNotFound _ => "NOT_FOUND"
  | validation _ => "VALIDATION_ERROR"
  | database => "DATABASE_ERROR"
  | serialization => "SERIALIZATION_ERROR"
  | redis _ => "REDIS_ERROR"
  | lock _ => "LOCK_ERROR"
  | internal _ => "INTERNAL_ERROR"

/-- The message, where its wording is the service's own. -/
def message? : ServiceError → Option String
  | redemptionNotFound id => some ("兑换记录不存在: " ++ id.text)
  | validation text => some ("参数校验失败: " ++ text)
  | database => none
  | serialization => none
  | redis text => text.map ("Redis 错误: " ++ ·)
  | lock text => some ("锁错误: " ++ text)
  | internal text => some ("内部错误: " ++ text)

/-- Trying again may help. -/
def isRetryable : ServiceError → Bool
  | database | redis _ | lock _ => true
  | _ => false

/-- The client is at fault. -/
def isBusiness : ServiceError → Bool
  | redemptionNotFound _ | validation _ => true
  | _ => false

end ServiceError

/-- Failures of the backends that services share. -/
inductive BackendError where
  | database
  | notFound (entity id : String)
  | redis
  | serialization
  | lockConflict (resource : String)
  | settings (text : String)
  | internal (text : String)
  deriving DecidableEq, Inhabited

namespace BackendError

def code : BackendError → String
  | database => "DATABASE_ERROR"
  | notFound .. => "NOT_FOUND"
  | redis => "REDIS_ERROR"
  | serialization => "SERIALIZATION_ERROR"
  | lockConflict _ => "LOCK_CONFLICT"
  | settings _ => "CONFIG_ERROR"
  | internal _ => "INTERNAL_ERROR"

def message? : BackendError → Option String
  | database | redis | serialization => none
  | notFound entity id => some ("记录未找到: " ++ entity ++ " id=" ++ id)
  | lockConflict resource => some ("资源已被锁定: " ++ resource)
  | settings text => some ("配置错误: " ++ text)
  | internal text => some ("内部错误: " ++ text)

def isRetryable : BackendError → Bool
  | database | redis | lockConflict _ => true
  | _ => false

/-- The failure of the service that a failed backend causes. -/
def toServiceError (e : BackendError) : ServiceError :=
  match e with
  | database => .database
  | redis => .redis none
  | serialization => .serialization
  | lockConflict resource => .lock resource
  | other => .internal (other.message?.getD "")

end BackendError

/-- What an interface tells its clients about a failure. -/
inductive ApiError where
  | validation (text : String)
  | notFound (text : String)
  | database
  | redis
  | internal
  deriving DecidableEq, Inhabited

namespace ApiError

def ofServiceError : ServiceError → ApiError
  | .redemptionNotFound _ => .notFound "Redemption not found"
  | .validation text => .validation text
  | .database => .database
  | .redis _ => .redis
  | .serialization | .lock _ | .internal _ => .internal

/-- The name of the kind of error. -/
def label : ApiError → String
  | validation _ => "Validation"
  | notFound _ => "NotFound"
  | database => "Database"
  | redis => "Redis"
  | internal => "Internal"

def status : ApiError → Nat
  | validation _ => 400
  | notFound _ => 404
  | database | redis | internal => 500

def code : ApiError → String
  | validation _ => "VALIDATION_ERROR"
  | notFound _ => "NOT_FOUND"
  | database | redis | internal => "INTERNAL_ERROR"

/-- Failures of backends are not told apart. -/
def message : ApiError → String
  | validation text => text
  | notFound text => text
  | database | redis | internal => "服务内部错误，请稍后重试"

def body (e : ApiError) : Json :=
  .obj [("status", .str "KO"), ("error_code", .str e.code), ("error_message", .str e.message)]

end ApiError

end Voucher
