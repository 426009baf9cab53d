import Voucher.Proofs.Cache.Rules
import Voucher.Proofs.Ledger.Effect
import Voucher.Proofs.Validation.Run

/-! What a validation writes, and how its result tells of it. -/
namespace Voucher.Validation

open Service Ledger

variable {policy : Policy} {request : Request} {mode : Mode} {d e : Deployment}

/-- An acceptance of a live validation names the entry that was written, and
nothing else comes with one. -/
def Tells (mode : Mode) (result : Result Outcome) : (written : Option Entry) → Prop
  | some e => mode = .live ∧ ∃ a, result = .ok (.accepted a) ∧ a.redemptionId = some e.id.text
  | none => mode = .live → ∀ a, result ≠ .ok (.accepted a)

theorem tells_rejected (mode : Mode) (r : Rejection) : Tells mode (.ok (.rejected r)) none := by
  simp [Tells]

theorem tells_error (mode : Mode) (e : ServiceError) : Tells mode (.error e) none := by
  simp [Tells]

/-- What a redemption tells, the outcome that it means tells too. -/
theorem tells_settled (tells : Redemption.Tells result written) :
    ∃ redemption, result = .ok redemption ∧
      Tells .live (.ok (settled request project rule normalized redemption)) written := by
  obtain ⟨redemption, rfl, rfl⟩ := tells
  refine ⟨redemption, rfl, ?_⟩
  cases redemption with
  | redeemed e => exact ⟨rfl, _, rfl, rfl⟩
  | exhausted | locked => exact tells_rejected _ _

/-- A live validation redeems, and the other modes write nothing. -/
theorem use_honest (policy : Policy) (request : Request) (mode : Mode) (project : Project)
    (rule : Rule)
    (normalized : String) (inMemory : InMemory d) (left : d.identifiers + 2 ≤ identifierCount) :
    Honest (Tells mode) d (use policy request mode project rule normalized) := by
  cases mode with
  | sandbox =>
      have taken : d.perform Action.freshId = d.takeIdentifier :=
        Deployment.perform_call inMemory.calm _
      refine .after taken (Effect.of_identifiers d (Nat.le_succ _)) ?_
      exact .of_still ((Call.asks_still rfl).bind fun _ => Script.asks_pure _) fun _ => nofun
  | dryRun =>
      exact .of_still ((Call.asks_still rfl).bind fun _ => Script.asks_pure _) fun _ => nofun
  | live =>
      refine (redeem_honest policy rule normalized
        ⟨request.userId, request.transactionId, request.ipAddress, request.metadata⟩
        inMemory left).before ?_ ?_
      · intro result
        cases result <;> exact Script.asks_pure _
      · intro result written tells
        obtain ⟨redemption, rfl, tells⟩ := tells_settled tells
        exact tells

theorem useIfAdmitted_honest (policy : Policy) (request : Request) (mode : Mode) (project : Project)
    (rule : Rule) (normalized : String) (inMemory : InMemory d)
    (left : d.identifiers + 2 ≤ identifierCount) :
    Honest (Tells mode) d (useIfAdmitted policy request mode project rule normalized) := by
  have still : d.Still (d.perform Action.now).2 := Deployment.perform_still (Call.asks_still rfl) d
  cases told : d.perform Action.now with
  | mk now e =>
      rw [told] at still
      refine .after told (.of_still still) ?_
      cases admission request project rule now with
      | error r => exact .of_pure (tells_rejected mode r)
      | ok =>
          exact use_honest _ _ _ _ _ _ (inMemory.next (.of_still still)) (still.identifiers ▸ left)

/-- The first rule whose shape the code has decides, and so does whether there is one. -/
theorem decide_honest (policy : Policy) (request : Request) (mode : Mode) (book : RuleBook)
    (inMemory : InMemory d) (left : d.identifiers + 2 ≤ identifierCount) :
    Honest (Tells mode) d (decide policy request mode book) := by
  cases first : book.rules.find? (Match.takes policy.maxSteps request.code) with
  | none =>
      rw [decide_none first]
      exact .of_pure (tells_rejected mode _)
  | some rule =>
      cases judged : Match.judge policy.maxSteps rule request.code with
      | mismatch =>
          have takes := List.find?_some first
          simp [Match.takes, judged] at takes
      | refused r =>
          rw [decide_refused first judged]
          exact .of_pure (tells_rejected mode r)
      | matched normalized =>
          rw [decide_matched first judged]
          exact useIfAdmitted_honest _ _ _ _ _ _ inMemory left

theorem outcome_honest (policy : Policy) (request : Request) (inMemory : InMemory d)
    (left : d.identifiers + 2 ≤ identifierCount) :
    Honest (Tells request.mode) d (outcome policy request) := by
  have still : d.Still _ :=
    Deployment.perform_still (Cache.Rules.get_asks policy.cacheLife request.projectId) d
  cases loaded : d.perform (Cache.Rules.get policy.cacheLife request.projectId) with
  | mk result e =>
      rw [loaded] at still
      refine .after loaded (.of_still still) ?_
      obtain error | found := result
      · exact .of_pure (tells_error request.mode error)
      · cases found with
        | none => exact .of_pure (tells_rejected request.mode _)
        | some book =>
            exact decide_honest _ _ _ _ (inMemory.next (.of_still still)) (still.identifiers ▸ left)

/-- Counting the result changes neither the result nor the ledger. -/
theorem run_honest (policy : Policy) (request : Request) (inMemory : InMemory d)
    (left : d.identifiers + 2 ≤ identifierCount) :
    Honest (Tells request.mode) d (run policy request) :=
  (outcome_honest policy request inMemory left).before
    (fun _ => (Call.asks_still rfl).bind fun _ => Script.asks_pure _) fun _ _ tells _ => tells

end Voucher.Validation
