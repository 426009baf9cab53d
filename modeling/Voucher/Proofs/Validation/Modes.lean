import Voucher.Proofs.Ledger.Redeem
import Voucher.Proofs.Service.Lock
import Voucher.Proofs.Validation.FirstMatch

/-! What a dry run and a sandbox foretell. The mode of a validation is looked at last, when the code
has passed all checks; until then all modes have asked the same and were answered the same. -/
namespace Voucher

/-- The same request in a mode. A sandbox wins, whatever is said of a dry run. -/
def Request.inMode (r : Request) : Mode → Request
  | .live => { r with dryRun := false, sandbox := false }
  | .dryRun => { r with dryRun := true, sandbox := false }
  | .sandbox => { r with sandbox := true }

namespace Validation

open Service Ledger

variable {policy : Policy} {request : Request} {mode : Mode} {project : Project} {rule : Rule}
  {normalized : String} {d t : Deployment}

theorem inMode_mode (request : Request) (mode : Mode) : (request.inMode mode).mode = mode := by
  cases mode <;> rfl

theorem inMode_code (request : Request) (mode : Mode) :
    (request.inMode mode).code = request.code := by
  cases mode <;> rfl

theorem inMode_projectId (request : Request) (mode : Mode) :
    (request.inMode mode).projectId = request.projectId := by
  cases mode <;> rfl

theorem failure?_inMode (policy : Policy) (request : Request) (mode : Mode) :
    Check.failure? policy (request.inMode mode) = Check.failure? policy request := by
  cases mode <;> rfl

/-- What a validation comes to in a mode. -/
def answerIn (policy : Policy) (request : Request) (d : Deployment) (mode : Mode) :
    Result Outcome :=
  (d.perform (run policy (request.inMode mode))).1

/-- Of the rules that are loaded, the code is committed to this one first. -/
def Decides (policy : Policy) (request : Request) (d : Deployment) (rule : Rule) : Prop :=
  ∃ project before after, (d.perform (Cache.Rules.get policy.cacheLife request.projectId)).1 =
      .ok (some ⟨project, before ++ rule :: after⟩) ∧
    (∀ r ∈ before, ¬ Match.Commits r request.code) ∧ Match.Commits rule request.code

/-- The code has been redeemed under the rule as often as it may be. -/
def Spent (s : Store) (rule : Rule) (normalized : String) : Prop :=
  ∃ e, s.fetchEntry rule.id (codeHash normalized) = some e ∧ rule.redemptionLimit ≤ e.count

/-- Between two moments rules have been loaded and the clock has been read, at most. -/
structure Prepared (d t : Deployment) : Prop where
  still : d.Still t
  granted : ∀ rule normalized lease, d.LockFree (lockKey rule normalized) lease →
    ∃ guard, (t.acquire (lockKey rule normalized) lease).1 = .ok guard

theorem prepared (policy : Policy) (request : Request) (d : Deployment) :
    Prepared d (Deployment.answer .now
      (d.perform (Cache.Rules.get policy.cacheLife request.projectId)).2).2 := by
  constructor
  · exact (Deployment.perform_still (Cache.Rules.get_asks _ _) d).trans
      (Deployment.answer_still rfl _)
  · intro rule normalized lease free
    have other := Cache.Key.redemption_ne_project rule.id.text (codeHash normalized)
      request.projectId.text
    exact Deployment.acquire_of_free (free.perform (Cache.Rules.get_asks_loading _ _) other)

theorem answerIn_eq
    (loads : d.perform (Cache.Rules.get policy.cacheLife request.projectId) = (found, e)) :
    answerIn policy request d mode =
      (e.perform (outcomeOf policy (request.inMode mode) found)).1 := by
  have loaded :
      (Cache.Rules.get policy.cacheLife (request.inMode mode).projectId).run Deployment.answer d =
        (found, e) := by
    rw [inMode_projectId]
    exact loads
  rw [answerIn, Deployment.perform, run_conclude loaded]
  exact conclude_fst policy _ found e

theorem decides_of_find?
    (loads : (d.perform (Cache.Rules.get policy.cacheLife request.projectId)).1 =
      .ok (some book))
    (first : book.rules.find? (Match.takes policy.maxSteps request.code) = some rule) :
    Decides policy request d rule := by
  obtain ⟨takes, before, after, placed, passed⟩ := List.find?_eq_some_iff_append.mp first
  refine ⟨book.project, before, after, placed ▸ loads, fun r member commits => ?_,
    (Match.takes_iff policy.maxSteps rule request.code).mp takes⟩
  have taken := (Match.takes_iff policy.maxSteps r request.code).mpr commits
  have skipped := passed r member
  simp [taken] at skipped

theorem rejected_ne_accepted (r : Rejection) (a : Acceptance) :
    (.ok (.rejected r) : Result Outcome) ≠ .ok (.accepted a) := by
  simp

/-- A code that passes all checks comes to be used, and until then the mode makes no difference. -/
theorem mode_last (policy : Policy) (request : Request) (d : Deployment) :
    (∃ result, (∀ mode, answerIn policy request d mode = result) ∧
      (∀ a, result ≠ .ok (.accepted a)) ∧
      (d.outages.lookup .fetchProject = none → ∃ r, result = .ok (.rejected r))) ∨
    ∃ project rule t, Decides policy request d rule ∧ Prepared d t ∧
      ∀ mode, answerIn policy request d mode =
        (t.perform (use policy (request.inMode mode) mode project rule
          (String.ofList (rule.normalize request.code.toList)))).1 := by
  have ready := prepared policy request d
  cases loads : d.perform (Cache.Rules.get policy.cacheLife request.projectId) with
  | mk found e =>
      rw [loads] at ready
      obtain error | none | book := found
      · refine .inl ⟨.error error, fun mode => answerIn_eq loads, by simp, fun works => ?_⟩
        obtain ⟨found, succeeds⟩ := Cache.Rules.get_found works policy.cacheLife request.projectId
        rw [loads] at succeeds
        contradiction
      · exact .inl ⟨.ok projectNotFound, fun mode => answerIn_eq loads, rejected_ne_accepted _,
          fun _ => ⟨_, rfl⟩⟩
      · have decided (mode : Mode) : answerIn policy request d mode =
            (e.perform (decide policy (request.inMode mode) mode book)).1 := by
          rw [answerIn_eq loads, outcomeOf, inMode_mode]
        cases first : book.rules.find? (Match.takes policy.maxSteps request.code) with
        | none =>
            refine .inl ⟨.ok (noRule book.rules.length), fun mode => ?_, rejected_ne_accepted _,
              fun _ => ⟨_, rfl⟩⟩
            have none : book.rules.find? (Match.takes policy.maxSteps (request.inMode mode).code) =
                none := by
              rw [inMode_code, first]
            rw [decided, decide_none none]
            rfl
        | some rule =>
            have commits := (Match.takes_iff policy.maxSteps rule request.code).mp
              (List.find?_some first)
            have decides := decides_of_find? (d := d) (by rw [loads]) first
            cases failed : Check.all.findSome?
                (·.failure? policy request book.project rule (Deployment.answer .now e).1) with
            | some r =>
                refine .inl ⟨.ok (.rejected r), fun mode => ?_, rejected_ne_accepted r,
                  fun _ => ⟨r, rfl⟩⟩
                rw [← failure?_inMode policy request mode] at failed
                rw [← inMode_code request mode] at commits first
                exact (decided mode).trans (decide_failed mode commits first failed).1
            | none =>
                refine .inr ⟨book.project, rule, (Deployment.answer .now e).2, decides, ready,
                  fun mode => ?_⟩
                rw [← failure?_inMode policy request mode] at failed
                rw [← inMode_code request mode] at commits first ⊢
                exact (decided mode).trans
                  (congrArg Prod.fst (decide_passed mode commits first failed))

theorem Prepared.fetchEntry (ready : Prepared d t) (ruleId : Uuid) (hash : String) :
    t.store.fetchEntry ruleId hash = d.store.fetchEntry ruleId hash :=
  Store.fetchEntry_of_same ready.still.entries ready.still.index ruleId hash

/-- A live validation of an admitted code ends as the ledger, as it was at the start, has it. -/
theorem use_live (ready : Prepared d t) (up : d.LedgerUp) (consistent : d.store.Consistent)
    (free : d.LockFree (lockKey rule normalized) policy.lease) (asked : Request)
    (project : Project) :
    (Spent d.store rule normalized → ∃ r,
      (t.perform (use policy asked .live project rule normalized)).1 = .ok (.rejected r) ∧
        r.code = .alreadyRedeemed) ∧
    (¬ Spent d.store rule normalized → ∃ e : Entry,
      (t.perform (use policy asked .live project rule normalized)).1 = .ok (.accepted
        (acceptance asked project rule normalized e.id.text e.redeemedAt (some e.count)
          false))) := by
  have standing : t.LedgerUp := fun target ledger => ready.still.outages ▸ up target ledger
  obtain ⟨held, granted⟩ := ready.granted rule normalized policy.lease free
  obtain ⟨id, now, settles⟩ := redeem_settles policy rule normalized
    ⟨asked.userId, asked.transactionId, asked.ipAddress, asked.metadata⟩ standing
    (consistent.of_same ready.still.entries ready.still.index) granted
  have used : (t.perform (use policy asked .live project rule normalized)).1 =
      .ok (settled asked project rule normalized (t.store.settle rule.redemptionLimit
        (draft policy rule normalized
          ⟨asked.userId, asked.transactionId, asked.ipAddress, asked.metadata⟩) id now).1) := by
    rw [use, Action.andThen, Deployment.perform_bind, settles]
    rfl
  have entry := ready.fetchEntry rule.id (codeHash normalized)
  rw [used]
  unfold Store.settle Spent
  simp only [draft, entry]
  cases found : d.store.fetchEntry rule.id (codeHash normalized) with
  | none => exact ⟨by simp, fun _ => ⟨_, rfl⟩⟩
  | some e =>
      by_cases full : rule.redemptionLimit ≤ e.count
      · refine ⟨fun _ => ?_, fun below => absurd ⟨e, rfl, full⟩ below⟩
        simp only [if_pos full]
        exact ⟨_, rfl, rfl⟩
      · refine ⟨?_, fun _ => ?_⟩
        · rintro ⟨x, same, reached⟩
          cases same
          exact absurd reached full
        · simp only [if_neg full]
          exact ⟨_, rfl⟩

/-- The three modes come to the same, unless a dry run accepts the code. Then a sandbox accepts it
alike, under an identifier of its own; and a live validation that has the lock to itself and a
ledger that works accepts it under the same rule, or finds that it has been redeemed as often as it
may be. -/
theorem dry_run_foretells (policy : Policy) (request : Request) (d : Deployment) :
    (∃ result, (∀ mode, answerIn policy request d mode = result) ∧
      (∀ a, result ≠ .ok (.accepted a)) ∧
      (d.outages.lookup .fetchProject = none → ∃ r, result = .ok (.rejected r))) ∨
    ∃ a id rule, Decides policy request d rule ∧ a.rule = ⟨rule.id, rule.name⟩ ∧
      a.redemptionCount = none ∧
      answerIn policy request d .dryRun = .ok (.accepted a) ∧
      answerIn policy request d .sandbox =
        .ok (.accepted { a with redemptionId := some (sandboxId id), sandbox := true }) ∧
      (d.LedgerUp → d.store.Consistent → d.LockFree (lockKey rule a.codeNormalized) policy.lease →
        (Spent d.store rule a.codeNormalized →
          ∃ r, answerIn policy request d .live = .ok (.rejected r) ∧ r.code = .alreadyRedeemed) ∧
        (¬ Spent d.store rule a.codeNormalized → ∃ e : Entry,
          answerIn policy request d .live = .ok (.accepted { a with
            redeemedAt := some e.redeemedAt
            redemptionId := some e.id.text
            redemptionCount := some e.count }))) := by
  obtain same | ⟨project, rule, t, decides, ready, used⟩ := mode_last policy request d
  · exact .inl same
  · refine .inr ⟨_, _, rule, decides, ?_, ?_, used .dryRun, used .sandbox, ?_⟩
    · rfl
    · rfl
    · intro up consistent free
      rw [used]
      exact use_live ready up consistent free _ project

/-- A code that nobody has redeemed is accepted in a dry run, and then
redeemed for the first time. -/
theorem dry_run_foretells_first : ∃ (a : Acceptance) (e : Entry),
    answerIn default (trial "79927398713") (stocked plainRule) .dryRun = .ok (.accepted a) ∧
      answerIn default (trial "79927398713") (stocked plainRule) .live = .ok (.accepted { a with
        redeemedAt := some e.redeemedAt
        redemptionId := some e.id.text
        redemptionCount := some e.count }) := by
  have judged : Match.judge 0 plainRule "79927398713" = .matched "79927398713" := rfl
  obtain ⟨x, accepted⟩ := stocked_accepts judged rfl rfl rfl rfl
  have consistent : (stocked plainRule).store.Consistent :=
    (Store.Built.insertRule plainRule (.insertProject .sample .empty)).consistent
  obtain ⟨result, same, refused, -⟩ | ⟨a, id, rule, -, -, -, dry, -, live⟩ :=
    dry_run_foretells default (trial "79927398713") (stocked plainRule)
  · exact absurd ((same .dryRun).symm.trans accepted) (refused x)
  · obtain ⟨e, redeemed⟩ := (live (.of_calm rfl) consistent rfl).2 nofun
    exact ⟨a, e, dry, redeemed⟩

end Validation

end Voucher
