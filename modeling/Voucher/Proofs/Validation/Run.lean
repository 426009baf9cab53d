import Voucher.Proofs.Service.Script
import Voucher.Validation.Run

/-! The first rule whose shape a code has decides alone: the rules before it leave no trace, and
those behind it are not tried. -/
namespace Voucher

/-- Whatever comes of it, no later rule is tried. -/
def Match.takes (maxSteps : Nat) (code : String) (rule : Rule) : Bool :=
  match judge maxSteps rule code with
  | .mismatch => false
  | .refused _ | .matched _ => true

namespace Validation

open Service

variable {policy : Policy} {request : Request} {mode : Mode} {project : Project} {rule : Rule}
  {book : RuleBook} {normalized : String}

/-- What a rule makes of a code of its shape. -/
def useIfAdmitted (policy : Policy) (request : Request) (mode : Mode) (project : Project)
    (rule : Rule) (normalized : String) : Action (Result Outcome) := do
  let now ← Action.now
  match admission request project rule now with
  | .error r => pure (.ok (.rejected r))
  | .ok _ => use policy request mode project rule normalized

theorem tryRule_mismatch (judged : Match.judge policy.maxSteps rule request.code = .mismatch) :
    tryRule policy request mode project rule = pure (.ok none) := by
  rw [tryRule, judged]

theorem tryRule_refused (judged : Match.judge policy.maxSteps rule request.code = .refused r) :
    tryRule policy request mode project rule = pure (.ok (some (.rejected r))) := by
  rw [tryRule, judged]

theorem tryRule_matched
    (judged : Match.judge policy.maxSteps rule request.code = .matched normalized) :
    tryRule policy request mode project rule =
      (useIfAdmitted policy request mode project rule normalized).andThen fun outcome =>
        pure (.ok (some outcome)) := by
  simp only [tryRule, judged]
  rw [useIfAdmitted, Action.bind_andThen]
  congr
  funext now
  cases admission request project rule now <;> rfl

theorem tryRules_eq (policy : Policy) (request : Request) (mode : Mode) (project : Project)
    (rules : List Rule) :
    tryRules policy request mode project rules =
      match rules.find? (Match.takes policy.maxSteps request.code) with
      | none => pure (.ok none)
      | some rule => tryRule policy request mode project rule := by
  induction rules with
  | nil => rfl
  | cons rule rest ih =>
      cases judged : Match.judge policy.maxSteps rule request.code with
      | mismatch =>
          have passes : Match.takes policy.maxSteps request.code rule = false := by
            rw [Match.takes, judged]
          rw [tryRules, tryRule_mismatch judged, Action.ok_andThen, ih,
            List.find?_cons_of_neg (by simp [passes])]
      | refused r =>
          have takes : Match.takes policy.maxSteps request.code rule = true := by
            rw [Match.takes, judged]
          rw [List.find?_cons_of_pos takes, tryRules, tryRule_refused judged, Action.ok_andThen]
          exact (tryRule_refused judged).symm
      | matched normalized =>
          have takes : Match.takes policy.maxSteps request.code rule = true := by
            rw [Match.takes, judged]
          rw [List.find?_cons_of_pos takes, tryRules, tryRule_matched judged, Action.andThen_assoc]
          exact (tryRule_matched judged).symm

/-- A code of no rule's shape is told how many rules there are. -/
theorem decide_none (none : book.rules.find? (Match.takes policy.maxSteps request.code) = none) :
    decide policy request mode book = pure (.ok (noRule book.rules.length)) := by
  rw [decide, tryRules_eq, none]
  rfl

theorem decide_refused
    (first : book.rules.find? (Match.takes policy.maxSteps request.code) = some rule)
    (judged : Match.judge policy.maxSteps rule request.code = .refused r) :
    decide policy request mode book = pure (.ok (.rejected r)) := by
  rw [decide, tryRules_eq, first]
  simp only [tryRule_refused judged]
  rfl

theorem decide_matched
    (first : book.rules.find? (Match.takes policy.maxSteps request.code) = some rule)
    (judged : Match.judge policy.maxSteps rule request.code = .matched normalized) :
    decide policy request mode book =
      useIfAdmitted policy request mode book.project rule normalized := by
  rw [decide, tryRules_eq, first]
  simp only [tryRule_matched judged]
  rw [Action.andThen_assoc]
  exact Action.andThen_pure _

/-- With a book loaded, its rules decide; counting the result does not change it. -/
theorem run_loaded {σ : Type} {answer : (q : Call) → σ → q.Answer × σ} {s t : σ}
    (loads : (Cache.Rules.get policy.cacheLife request.projectId).run answer s =
      (.ok (some book), t)) :
    ((run policy request).run answer s).1 =
      ((decide policy request request.mode book).run answer t).1 := by
  have loaded : (outcome policy request).run answer s =
      (decide policy request request.mode book).run answer t := Action.run_andThen loads _
  unfold run
  rw [Script.run_bind, loaded]
  rfl

theorem checkVigency_code (refused : checkVigency project rule now = .error r) :
    r.code = .projectInactive ∨ r.code = .ruleInactive ∨ r.code = .projectExpired := by
  unfold checkVigency at refused
  split at refused
  · cases refused
    exact .inl rfl
  · split at refused
    · cases refused
      exact .inr (.inl rfl)
    · split at refused <;> cases refused <;> exact .inr (.inr rfl)

theorem checkCountry_code (refused : checkCountry rule country = .error r) :
    r.code = .geoBlocked := by
  unfold checkCountry at refused
  split at refused
  · contradiction
  · simp only at refused
    split at refused
    · split at refused
      · contradiction
      · cases refused
        rfl
    · cases refused
      rfl

/-- Only four codes keep a code of the right shape from being used. -/
theorem admission_code (refused : admission request project rule now = .error r) :
    r.code ∈ [.projectInactive, .ruleInactive, .projectExpired, .geoBlocked] := by
  unfold admission at refused
  split at refused
  · rename_i found
    cases refused
    obtain code | code | code := checkVigency_code found <;> simp [code]
  · simp [checkCountry_code refused]

end Validation

end Voucher
