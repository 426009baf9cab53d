import Voucher.Cache.Rules
import Voucher.Ledger.Redeem
import Voucher.Match.Verdict
import Voucher.Validation.Outcome
import Voucher.Validation.Request

/-!
Validating a code. The rules of the project are tried in order, and the first whose shape the code
has decides. If the code may be used now and here, a live validation redeems it; a dry run and a
sandbox answer as if. Each validation is counted once, under its result.
-/
namespace Voucher.Validation

open Service

/-- The redemption identifier of a dry run. -/
def dryRunId : String := "dry-run"

def sandboxId (id : Uuid) : String := "sandbox-" ++ id.text

def projectNotFound : Outcome := .rejected ⟨.noMatchingRule, "Project not found", none⟩

def noRule (evaluated : Nat) : Outcome :=
  .rejected ⟨.noMatchingRule, "No code rule matches the provided code",
    some (.ofMembers [("rules_evaluated", .ofNat evaluated)])⟩

def alreadyRedeemed (since : Option Instant) : Rejection where
  code := .alreadyRedeemed
  message := "This code has already been redeemed"
  details := since.map fun t => .ofMembers [("redeemed_at", .str t.offsetText)]

def lockedOut : Rejection :=
  ⟨.alreadyRedeemed, "Could not acquire lock, possible concurrent redemption", none⟩

/-- What a code is good for under a rule. -/
def acceptance (request : Request) (project : Project) (rule : Rule)
    (normalized redemptionId : String)
    (time : Instant) (count : Option Int32) (sandbox : Bool) : Acceptance where
  code := request.code
  codeNormalized := normalized
  project := ⟨project.id, project.name⟩
  rule := ⟨rule.id, rule.name⟩
  productInfo := rule.productInfo
  campaignInfo := rule.campaignInfo
  pointsValue := rule.pointsValue
  redeemedAt := some time
  redemptionId := some redemptionId
  redemptionCount := count
  sandbox := sandbox

/-- The outcome that a redemption means. -/
def settled (request : Request) (project : Project) (rule : Rule) (normalized : String) :
    Ledger.Redemption → Outcome
  | .redeemed e =>
    .accepted
      (acceptance request project rule normalized e.id.text e.redeemedAt (some e.count) false)
  | .exhausted since => .rejected (alreadyRedeemed since)
  | .locked => .rejected lockedOut

/-- Uses an admitted code in the way of a mode. -/
def use (policy : Policy) (request : Request) (mode : Mode) (project : Project) (rule : Rule)
    (normalized : String) : Action (Result Outcome) :=
  match mode with
  | .sandbox => do
    let id ← Action.freshId
    let now ← Action.now
    pure (.ok (.accepted
      (acceptance request project rule normalized (sandboxId id) now none true)))
  | .dryRun => do
    let now ← Action.now
    pure (.ok (.accepted (acceptance request project rule normalized dryRunId now none false)))
  | .live =>
    (Ledger.redeem policy rule normalized
      ⟨request.userId, request.transactionId, request.ipAddress, request.metadata⟩).andThen
      fun redemption => pure (.ok (settled request project rule normalized redemption))

/-- The code may be used now and in the consumer's country. -/
def admission (request : Request) (project : Project) (rule : Rule) (now : Instant) :
    Except Rejection Unit :=
  match checkVigency project rule now with
  | .error r => .error r
  | .ok _ => checkCountry rule request.country

/-- Tries one rule; none if the code does not have its shape. -/
def tryRule (policy : Policy) (request : Request) (mode : Mode) (project : Project) (rule : Rule) :
    Action (Result (Option Outcome)) :=
  match Match.judge policy.maxSteps rule request.code with
  | .mismatch => pure (.ok none)
  | .refused r => pure (.ok (some (.rejected r)))
  | .matched normalized => do
    let now ← Action.now
    match admission request project rule now with
    | .error r => pure (.ok (some (.rejected r)))
    | .ok _ =>
      (use policy request mode project rule normalized).andThen fun outcome =>
        pure (.ok (some outcome))

/-- Tries rules in order until one takes the code. -/
def tryRules (policy : Policy) (request : Request) (mode : Mode) (project : Project) :
    List Rule → Action (Result (Option Outcome))
  | [] => pure (.ok none)
  | rule :: rules =>
    (tryRule policy request mode project rule).andThen fun
      | some outcome => pure (.ok (some outcome))
      | none => tryRules policy request mode project rules

/-- Validates against a rule book. -/
def decide (policy : Policy) (request : Request) (mode : Mode) (book : RuleBook) :
    Action (Result Outcome) :=
  (tryRules policy request mode book.project book.rules).andThen fun outcome =>
    pure (.ok (outcome.getD (noRule book.rules.length)))

/-- Validates without counting. -/
def outcome (policy : Policy) (request : Request) : Action (Result Outcome) :=
  (Cache.Rules.get policy.cacheLife request.projectId).andThen fun
    | none => pure (.ok projectNotFound)
    | some book => decide policy request request.mode book

/-- The event that a result is counted under. -/
def event (mode : Mode) : Result Outcome → Telemetry.Event
  | .ok (.accepted _) => .validation "ok" "none" mode.name
  | .ok (.rejected r) => .validation "ko" r.code.name mode.name
  | .error e => .validation "error" e.code mode.name

/-- Validates a code and counts the result. -/
def run (policy : Policy) (request : Request) : Action (Result Outcome) := do
  let result ← outcome policy request
  Action.count (event request.mode result)
  pure result

end Voucher.Validation
