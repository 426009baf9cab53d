import Voucher.Rule.Basic

/-!
Requests to validate a code. The client's address is never read from a request; the service fills it
in from the connection.
-/
namespace Voucher

/-- How a validation is carried out: with or without redeeming the code. -/
inductive Mode where
  | live
  | dryRun
  | sandbox
  deriving DecidableEq, Inhabited

namespace Mode

/-- A sandbox wins over a dry run. -/
def ofFlags (dryRun sandbox : Bool) : Mode :=
  if sandbox then .sandbox else if dryRun then .dryRun else .live

def name : Mode → String
  | live => "live"
  | dryRun => "dry_run"
  | sandbox => "sandbox"

/-- Only a live validation redeems. -/
def persists (m : Mode) : Bool := m == live

end Mode

structure Request where
  code : String
  projectId : Uuid
  userId : Option String
  transactionId : Option String
  ipAddress : Option String
  country : Option String
  metadata : Option Document
  dryRun : Bool
  sandbox : Bool
  deriving Inhabited

namespace Request

def mode (r : Request) : Mode := .ofFlags r.dryRun r.sandbox

def toJson (r : Request) : Json :=
  .obj
    [("code", .str r.code),
      ("project_id", .ofUuid r.projectId),
      ("ow_user_id", .ofStringOption r.userId),
      ("ow_transaction_id", .ofStringOption r.transactionId),
      ("ip_address", .ofStringOption r.ipAddress),
      ("country", .ofStringOption r.country),
      ("metadata", .ofOption .ofDocument r.metadata),
      ("dry_run", .bool r.dryRun),
      ("sandbox", .bool r.sandbox)]

/-- The fields that are read. -/
def fieldNames : List String :=
  ["code", "project_id", "ow_user_id", "ow_transaction_id", "country", "metadata", "dry_run",
    "sandbox"]

def ofJson? (j : Json) : Option Request := do
  let f ← Record.ofJson? fieldNames j
  let code ← f.required "code" Json.asString?
  let projectId ← f.required "project_id" Json.readUuid?
  let userId ← f.omissible "ow_user_id" Json.asString?
  let transactionId ← f.omissible "ow_transaction_id" Json.asString?
  let country ← f.omissible "country" Json.asString?
  let metadata ← f.omissible "metadata" Json.readDocument?
  let dryRun ← f.orDefault "dry_run" false Json.asBool?
  let sandbox ← f.orDefault "sandbox" false Json.asBool?
  pure ⟨code, projectId, userId, transactionId, none, country, metadata, dryRun, sandbox⟩

end Request

end Voucher
