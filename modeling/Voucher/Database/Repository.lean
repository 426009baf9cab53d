import Voucher.Database.Query
import Voucher.Rule.Wire

/-!
Projects, rules and the ledger in a database. A row that lacks a value fails the call. A rule whose
row is complete but makes no sense is left out, so that one bad rule does not stop a project.
-/
namespace Voucher.Database

/-- What a call gives, or the failure of the database. -/
abbrev Found (α : Type) := Except Unit α

def project? (r : Row) : Option Project := do
  let id ← r.uuid? "id"
  let tenantId ← r.uuid? "tenant_id"
  let name ← r.text? "name"
  let isActive ← r.flag? "is_active"
  let createdAt ← r.instant? "created_at"
  pure ⟨id, tenantId, name, r.text? "description", r.instant? "starts_at", r.instant? "ends_at",
    isActive, r.document? "metadata", createdAt⟩

/-- A rule without what only makes sense later. -/
structure RuleRow where
  rule : Rule
  totalLength : Int32
  layout : Document
  algorithm : Option String

def ruleRow? (r : Row) : Option RuleRow := do
  let id ← r.uuid? "id"
  let projectId ← r.uuid? "project_id"
  let name ← r.text? "name"
  let totalLength ← r.int32? "total_length"
  let charset ← ← r.named? "charset" Charset.ofName?
  let hasCheckDigit ← r.flag? "has_check_digit"
  let checkPosition ← r.named? "check_digit_position" CheckDigit.Position.ofName?
  let layout ← r.document? "structure_def"
  let caseSensitive ← r.flag? "case_sensitive"
  let maxRedemptions ← r.int32? "max_redemptions"
  let allowedCountries ← r.texts? "allowed_countries"
  let isActive ← r.flag? "is_active"
  let createdAt ← r.instant? "created_at"
  let rule : Rule :=
    { id, projectId, name, charset, hasCheckDigit, checkPosition, caseSensitive, maxRedemptions,
      allowedCountries, isActive, createdAt
      skuReference := r.text? "sku_reference"
      totalLength := 0
      customCharset := r.text? "custom_charset"
      checkAlgorithm := none
      layout := ⟨[]⟩
      separator := r.text? "separator"
      codePrefix := r.text? "prefix"
      customCheck := r.document? "custom_check_function"
      productInfo := r.document? "product_info"
      campaignInfo := r.document? "campaign_info"
      pointsValue := r.int32? "points_value" }
  pure ⟨rule, totalLength, layout, r.text? "check_algorithm"⟩

/-- The algorithm that a row names; an empty name is none. -/
def algorithm? (name : Option String) : Option (Option CheckDigit.Algorithm) :=
  match name.filter (!·.isEmpty) with
  | none => some none
  | some s => (CheckDigit.Algorithm.ofText? s).map some

/-- The rule of a row that makes sense. -/
def RuleRow.rule? (r : RuleRow) : Option Rule := do
  let layout ← Layout.ofJson? r.layout.value
  if layout.total?.isNone then none
  let algorithm ← algorithm? r.algorithm
  if r.totalLength < 0 then none
  pure { r.rule with
    layout := layout
    checkAlgorithm := algorithm
    totalLength := UInt64.ofNat r.totalLength.toInt.toNat }

def entry? (r : Row) : Option Ledger.Entry := do
  let id ← r.uuid? "id"
  let ruleId ← r.uuid? "code_rule_id"
  let codeHash ← r.text? "code_hash"
  let count ← r.int32? "redemption_count"
  let redeemedAt ← r.instant? "redeemed_at"
  pure ⟨id, ruleId, codeHash, r.text? "code_plain", r.text? "ow_user_id",
    r.text? "ow_transaction_id", r.text? "ip_address", r.document? "metadata", count, redeemedAt⟩

def detail? (r : Row) : Option Ledger.Detail := do
  let entry ← entry? r
  let ruleName ← r.text? "rule_name"
  let projectId ← r.uuid? "project_id"
  let projectName ← r.text? "project_name"
  pure ⟨entry, ruleName, projectId, projectName⟩

/-- All rows, each of which must have what is read from it. -/
def all {α : Type} (q : Query) (read : Row → Option α) : Action (Found (List α)) := do
  match ← ask q with
  | .error e => pure (.error e)
  | .ok rows =>
    match rows.mapM read with
    | some found => pure (.ok found)
    | none => pure (.error ())

/-- The first row, if there is one. -/
def first {α : Type} (q : Query) (read : Row → Option α) : Action (Found (Option α)) := do
  match ← ask q with
  | .error e => pure (.error e)
  | .ok [] => pure (.ok none)
  | .ok (row :: _) =>
    match read row with
    | some found => pure (.ok (some found))
    | none => pure (.error ())

/-- The first row, which must be there. -/
def one {α : Type} (q : Query) (read : Row → Option α) : Action (Found α) := do
  match ← first q read with
  | .error e => pure (.error e)
  | .ok none => pure (.error ())
  | .ok (some found) => pure (.ok found)

/-- A project with its active rules. -/
def fetchRuleBook (projectId : Uuid) : Action (Found (Option RuleBook)) := do
  match ← first (.project projectId) project? with
  | .error e => pure (.error e)
  | .ok none => pure (.ok none)
  | .ok (some project) =>
    match ← all (.rules projectId) ruleRow? with
    | .error e => pure (.error e)
    | .ok rows => pure (.ok (some ⟨project, rows.filterMap RuleRow.rule?⟩))

def fetchEntry (ruleId : Uuid) (hash : String) : Action (Found (Option Ledger.Entry)) :=
  first (.entry ruleId hash) entry?

/-- Makes an entry; none if the rule and the hash have one. -/
def insertEntry (id : Uuid) (d : Ledger.Draft) : Action (Found (Option Ledger.Entry)) :=
  first (.insert id d) entry?

/-- Counts one redemption more; none if the entry has reached the limit. -/
def incrementEntry (id : Uuid) (limit : Int32) : Action (Found (Option Ledger.Entry)) :=
  first (.increment id limit) entry?

def findDetail (id : Uuid) : Action (Found (Option Ledger.Detail)) := first (.detail id) detail?

/-- One page, and the number of all entries that the filter shows. -/
def list (f : Ledger.Filter) : Action (Found (List Ledger.Detail × Int)) := do
  match ← all (.details f) detail? with
  | .error e => pure (.error e)
  | .ok items =>
    match ← one (.countDetails f) fun r => r.int64? "count" with
    | .error e => pure (.error e)
    | .ok total => pure (.ok (items, total.toInt))

def totals? (r : Row) : Option (Int × Int) := do
  let count ← r.int64? "count"
  let users ← r.int64? "users"
  pure (count.toInt, users.toInt)

def ruleCount? (r : Row) : Option Ledger.RuleCount := do
  let id ← r.uuid? "rule_id"
  let name ← r.text? "rule_name"
  let count ← r.int64? "count"
  pure ⟨id, name, count.toInt⟩

def dayCount? (r : Row) : Option Ledger.DayCount := do
  let day ← r.day? "date"
  let count ← r.int64? "count"
  pure ⟨day, count.toInt⟩

def statistics (projectId : Uuid) (since : Instant) : Action (Found Ledger.Statistics) := do
  match ← one (.totals projectId) totals? with
  | .error e => pure (.error e)
  | .ok (total, users) =>
    match ← all (.countByRule projectId) ruleCount? with
    | .error e => pure (.error e)
    | .ok byRule =>
      match ← all (.countByDay projectId since) dayCount? with
      | .error e => pure (.error e)
      | .ok byDay => pure (.ok ⟨projectId, total, users, byRule, byDay⟩)

end Voucher.Database
