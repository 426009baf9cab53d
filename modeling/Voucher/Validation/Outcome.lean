import Voucher.Layout.Wire
import Voucher.Rule.Basic
import Voucher.Validation.Rejection

/-!
Outcomes of a validation: an acceptance, which describes what the code is good for, or a rejection.
As JSON both are one object with the tag `status`, which is `OK` or `KO`.
-/
namespace Voucher

/-- A thing by its identifier and its name. -/
structure NamedRef where
  id : Uuid
  name : String
  deriving DecidableEq, Inhabited

namespace NamedRef

def toJson (r : NamedRef) : Json := .obj [("id", .ofUuid r.id), ("name", .str r.name)]

def ofJson? (j : Json) : Option NamedRef := do
  let f ← Record.ofJson? ["id", "name"] j
  let id ← f.required "id" Json.readUuid?
  let name ← f.required "name" Json.asString?
  pure ⟨id, name⟩

end NamedRef

structure Acceptance where
  /-- The code as it was typed. -/
  code : String
  codeNormalized : String
  project : NamedRef
  rule : NamedRef
  productInfo : Option Document
  campaignInfo : Option Document
  pointsValue : Option Int32
  redeemedAt : Option Instant
  redemptionId : Option String
  redemptionCount : Option Int32
  sandbox : Bool

namespace Acceptance

/-- The fields after the tag; optional results are left out when absent. -/
def members (a : Acceptance) : List (String × Json) :=
  [("code", .str a.code),
    ("code_normalized", .str a.codeNormalized),
    ("project", a.project.toJson),
    ("code_rule", a.rule.toJson),
    ("product_info", .ofOption .ofDocument a.productInfo),
    ("campaign_info", .ofOption .ofDocument a.campaignInfo)] ++
  Json.memberIfSome "points_value" .ofInt32 a.pointsValue ++
  Json.memberIfSome "redeemed_at" .ofInstant a.redeemedAt ++
  Json.memberIfSome "redemption_id" .str a.redemptionId ++
  Json.memberIfSome "redemption_count" .ofInt32 a.redemptionCount ++
  (if a.sandbox then [("sandbox", .bool true)] else [])

def fieldNames : List String :=
  ["code", "code_normalized", "project", "code_rule", "product_info", "campaign_info",
    "points_value", "redeemed_at", "redemption_id", "redemption_count", "sandbox"]

def ofRecord? (f : Record) : Option Acceptance := do
  let code ← f.required "code" Json.asString?
  let codeNormalized ← f.required "code_normalized" Json.asString?
  let project ← f.required "project" NamedRef.ofJson?
  let rule ← f.required "code_rule" NamedRef.ofJson?
  let productInfo ← f.optional "product_info" Json.readDocument?
  let campaignInfo ← f.optional "campaign_info" Json.readDocument?
  let pointsValue ← f.omissible "points_value" Json.readInt32?
  let redeemedAt ← f.omissible "redeemed_at" Json.readInstant?
  let redemptionId ← f.omissible "redemption_id" Json.asString?
  let redemptionCount ← f.omissible "redemption_count" Json.readInt32?
  let sandbox ← f.orDefault "sandbox" false Json.asBool?
  pure { code, codeNormalized, project, rule, productInfo, campaignInfo, pointsValue, redeemedAt,
         redemptionId, redemptionCount, sandbox }

end Acceptance

namespace Rejection

def members (r : Rejection) : List (String × Json) :=
  [("error_code", r.code.toJson), ("error_message", .str r.message)] ++
  Json.memberIfSome "details" .ofDocument r.details

def fieldNames : List String := ["error_code", "error_message", "details"]

def ofRecord? (f : Record) : Option Rejection := do
  let code ← f.required "error_code" ErrorCode.ofJson?
  let message ← f.required "error_message" Json.asString?
  let details ← f.omissible "details" Json.readDocument?
  pure ⟨code, message, details⟩

end Rejection

inductive Outcome where
  | accepted (a : Acceptance)
  | rejected (r : Rejection)

namespace Outcome

def isAccepted : Outcome → Bool
  | accepted _ => true
  | rejected _ => false

def errorCode? : Outcome → Option ErrorCode
  | accepted _ => none
  | rejected r => some r.code

def toJson : Outcome → Json
  | accepted a => .obj (("status", .str "OK") :: a.members)
  | rejected r => .obj (("status", .str "KO") :: r.members)

/-- The record after the tag: the same object, or the rest of an array. -/
def body? : Json → Option (String × Json)
  | .obj members => do
    match Json.valuesOf "status" members with
    | [.str tag] => pure (tag, .obj members)
    | _ => none
  | .arr (.str tag :: rest) => some (tag, .arr rest)
  | _ => none

def ofJson? (j : Json) : Option Outcome := do
  let (tag, body) ← body? j
  match tag with
  | "OK" => do
    let f ← Record.ofJson? Acceptance.fieldNames body
    pure (.accepted (← Acceptance.ofRecord? f))
  | "KO" => do
    let f ← Record.ofJson? Rejection.fieldNames body
    pure (.rejected (← Rejection.ofRecord? f))
  | _ => none

/-- The status with which an outcome is answered. -/
def status : Outcome → Nat
  | accepted _ => 200
  | rejected r => r.code.status

end Outcome

end Voucher
