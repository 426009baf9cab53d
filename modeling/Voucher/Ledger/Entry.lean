import Voucher.Rule.Basic

/-!
Entries of the redemption ledger. An entry belongs to a rule and the hash of a normalized code; it
is made at the first redemption and counts the later ones. Queries see an entry with the names of
its rule and project.
-/
namespace Voucher.Ledger

structure Entry where
  id : Uuid
  ruleId : Uuid
  codeHash : String
  codePlain : Option String
  userId : Option String
  transactionId : Option String
  ipAddress : Option String
  metadata : Option Document
  count : Int32
  redeemedAt : Instant
  deriving Inhabited

namespace Entry

def members (e : Entry) : List (String × Json) :=
  [("id", .ofUuid e.id),
    ("codeRuleId", .ofUuid e.ruleId),
    ("codeHash", .str e.codeHash),
    ("codePlain", .ofStringOption e.codePlain),
    ("owUserId", .ofStringOption e.userId),
    ("owTransactionId", .ofStringOption e.transactionId),
    ("ipAddress", .ofStringOption e.ipAddress),
    ("metadata", .ofOption .ofDocument e.metadata),
    ("redemptionCount", .ofInt32 e.count),
    ("redeemedAt", .ofInstant e.redeemedAt)]

def toJson (e : Entry) : Json := .obj e.members

end Entry

/-- What is known of a first redemption before the ledger gives it an identifier and a time. -/
structure Draft where
  ruleId : Uuid
  codeHash : String
  codePlain : Option String
  userId : Option String
  transactionId : Option String
  ipAddress : Option String
  metadata : Option Document
  deriving Inhabited

/-- A draft written as an object. -/
def Draft.ofJson? (j : Json) : Option Draft := do
  pure ⟨← j.readMember? "rule_id" Json.readUuid?, (j.textMember? "hash").getD "",
    j.textMember? "code_plain", j.textMember? "ow_user_id", j.textMember? "ow_transaction_id",
    j.textMember? "ip_address", j.documentMember? "metadata"⟩

/-- The entry of a first redemption. -/
def Draft.entry (d : Draft) (id : Uuid) (time : Instant) : Entry where
  id := id
  ruleId := d.ruleId
  codeHash := d.codeHash
  codePlain := d.codePlain
  userId := d.userId
  transactionId := d.transactionId
  ipAddress := d.ipAddress
  metadata := d.metadata
  count := 1
  redeemedAt := time

/-- An entry with the names of its rule and project. -/
structure Detail where
  entry : Entry
  ruleName : String
  projectId : Uuid
  projectName : String
  deriving Inhabited

namespace Detail

def toJson (d : Detail) : Json :=
  .obj (d.entry.members ++
    [("rule_name", .str d.ruleName), ("project_id", .ofUuid d.projectId),
      ("project_name", .str d.projectName)])

end Detail

/-- Which entries a listing shows, and which page of them; both bounds belong to the stretch. -/
structure Filter where
  projectId : Option Uuid
  since : Option Instant
  upTo : Option Instant
  page : Int64
  limit : Int64
  deriving Inhabited

namespace Filter

/-- A filter written as an object. -/
def ofJson? (j : Json) : Option Filter := do
  pure ⟨← j.readOptional? "project_id" Json.readUuid?, ← j.readOptional? "from" Json.readInstant?,
    ← j.readOptional? "to" Json.readInstant?, ← j.readMember? "page" Json.readInt64?,
    ← j.readMember? "limit" Json.readInt64?⟩

/-- The exact number of entries before the page; pages below one count as one and
negative limits as zero. -/
def exactOffset (f : Filter) : Int :=
  (max f.page.toInt 1 - 1) * max f.limit.toInt 0

/-- The number of entries before the page, if it fits into a signed word. -/
def offset? (f : Filter) : Option Int :=
  if f.exactOffset < 9223372036854775808 then some f.exactOffset else none

/-- The number of entries before the page, or the largest signed word. -/
def offset (f : Filter) : Int := f.offset?.getD 9223372036854775807

/-- The filter shows an entry of a project. -/
def admits (f : Filter) (d : Detail) : Bool :=
  (match f.projectId with
    | some p => d.projectId == p
    | none => true) &&
  (match f.since with
    | some t => t.le d.entry.redeemedAt
    | none => true) &&
  (match f.upTo with
    | some t => d.entry.redeemedAt.le t
    | none => true)

end Filter

structure RuleCount where
  ruleId : Uuid
  ruleName : String
  count : Int
  deriving DecidableEq, Inhabited

structure DayCount where
  day : Int
  count : Int
  deriving DecidableEq, Inhabited

/-- How a project's codes have been redeemed. -/
structure Statistics where
  projectId : Uuid
  total : Int
  users : Int
  byRule : List RuleCount
  byDay : List DayCount
  deriving DecidableEq, Inhabited

namespace Statistics

def empty (projectId : Uuid) : Statistics := ⟨projectId, 0, 0, [], []⟩

def toJson (s : Statistics) : Json :=
  .obj
    [("project_id", .ofUuid s.projectId),
      ("total_redemptions", .int s.total),
      ("unique_users", .int s.users),
      ("by_rule", .arr (s.byRule.map fun r =>
        .obj [("rule_id", .ofUuid r.ruleId), ("rule_name", .str r.ruleName),
          ("count", .int r.count)])),
      ("by_day", .arr (s.byDay.map fun d =>
        .obj [("date", .str (Instant.dayText d.day)), ("count", .int d.count)]))]

end Statistics

end Voucher.Ledger
