import Voucher.Proofs.Cache.Rules
import Voucher.Proofs.Match.CheckDigit
import Voucher.Proofs.Validation.Run
import Voucher.Rule.Sample

/-! Answers to codes of rules that ask for a check digit, in every mode and whatever the
surroundings answer. -/
namespace Voucher.Validation

open Service

variable {policy : Policy} {request : Request} {book : RuleBook} {rule : Rule} {payload : List Char}
  {fields : Fields} {σ : Type} {answer : (q : Call) → σ → q.Answer × σ} {s t : σ}

/-- Nothing that comes after the check digit answers with its error. -/
theorem useIfAdmitted_yields (policy : Policy) (request : Request) (mode : Mode) (project : Project)
    (rule : Rule) (normalized : String) :
    (useIfAdmitted policy request mode project rule normalized).Yields fun result =>
      ∀ r, result = .ok (.rejected r) → r.code ≠ .invalidCheckDigit := by
  refine (Script.Yields.of_all (Q := fun _ => True) (fun _ => trivial) Action.now).bind ?_
  intro now _
  cases admitted : admission request project rule now with
  | error x =>
      rintro r ⟨⟩ wrong
      have code := admission_code admitted
      simp [wrong] at code
  | ok _ =>
      cases mode with
      | sandbox => intro id now r rejected; cases rejected
      | dryRun => intro now r rejected; cases rejected
      | live =>
          refine (Script.Yields.of_all (Q := fun _ => True) (fun _ => trivial) _).bind ?_
          rintro (e | redemption) _ r rejected
          · cases rejected
          · cases redemption <;> cases rejected <;> simp [alreadyRedeemed, lockedOut]

/-- A code of the shape of a rule that asks for a check digit is accepted only with its
check value in place, and without it told so, exactly if what is read as its check digit
stands in place or is wrong. -/
theorem check_digit_enforced_iff
    (loads : (Cache.Rules.get policy.cacheLife request.projectId).run answer s =
      (.ok (some book), t))
    (first : book.rules.find? (Match.takes policy.maxSteps request.code) = some rule)
    (required : rule.hasCheckDigit = true) (fits : Match.Fits rule request.code payload fields) :
    ((∀ a, ((run policy request).run answer s).1 = .ok (.accepted a) →
        Match.Checked policy.maxSteps rule payload fields) ∧
      (¬ Match.Checked policy.maxSteps rule payload fields →
        ∃ r, ((run policy request).run answer s).1 = .ok (.rejected r) ∧
        r.code = .invalidCheckDigit)) ↔
    Match.InPlace policy.maxSteps rule payload fields := by
  rw [run_loaded loads, ← fits.passes_checked_iff]
  have judged := fits.judge required policy.maxSteps
  cases fault : Match.checkDigitFault? policy.maxSteps rule fields with
  | some r =>
      rw [fault] at judged
      rw [decide_refused first judged]
      simp [Match.checkDigitFault?_code fault]
  | none =>
      rw [fault] at judged
      rw [decide_matched first judged]
      have never := (useIfAdmitted_yields policy request request.mode book.project rule
        (String.ofList (rule.normalize request.code.toList))).run answer t
      constructor
      · rintro ⟨-, told⟩ -
        apply Classical.byContradiction
        intro unchecked
        obtain ⟨r, rejected, code⟩ := told unchecked
        exact never r rejected code
      · intro sound
        have checked := sound rfl
        exact ⟨fun _ _ => checked, fun unchecked => absurd checked unchecked⟩

/-- A service that knows one rule of the sample project. -/
def stocked (rule : Rule) : Deployment :=
  { Deployment.inMemory .standard .epoch 0 with
    store := (Ledger.Store.empty.insertProject .sample).insertRule rule }

/-- A dry run of a code of the sample project. -/
def trial (code : String) : Request :=
  { (default : Request) with code := code, projectId := .nil, dryRun := true }

theorem stocked_loads (policy : Policy) (rule : Rule) (code : String) (own : rule.projectId = .nil)
    (active : rule.isActive = true) :
    ∃ t, (Cache.Rules.get policy.cacheLife (trial code).projectId).run Deployment.answer
      (stocked rule) = (.ok (some ⟨.sample, [rule]⟩), t) := by
  have book : (stocked rule).store.ruleBook? .nil = some ⟨.sample, [rule]⟩ := by
    simp [stocked, Ledger.Store.ruleBook?, Ledger.Store.project?, Ledger.Store.insertProject,
      Ledger.Store.insertRule, Ledger.Store.empty, Project.sample, own, active]
  rw [← book]
  exact Cache.Rules.perform_get_uncached rfl rfl policy.cacheLife .nil rfl

/-- The sample rule for codes as they are typed. -/
def plainRule : Rule := { Rule.sample with caseSensitive := true }

/-- A rule that asks for a check digit and has no segment for it. -/
def unplacedRule : Rule :=
  { plainRule with layout := ⟨[.sample "unique_code" 11 (.numeric none none)]⟩ }

/-- A rule whose check segment has the name of an earlier segment. -/
def shadowedRule : Rule :=
  { plainRule with
    layout :=
      ⟨[.sample "check" 1 (.numeric none none), .sample "unique_code" 9 (.numeric none none),
      .sample "check" 1 (.check none ["unique_code"])]⟩ }

/-- A wrong digit in its place is told so. -/
theorem check_digit_enforced_iff_wrong : ∃ r,
    ((run default (trial "79927398714")).run Deployment.answer (stocked plainRule)).1 =
      .ok (.rejected r) ∧ r.code = .invalidCheckDigit := by
  obtain ⟨t, loads⟩ := stocked_loads default plainRule "79927398714" rfl rfl
  have fits : Match.Fits plainRule "79927398714" "79927398714".toList
      ⟨[("unique_code", "7992739871".toList), ("check", ['4'])]⟩ := ⟨rfl, rfl⟩
  have placed : plainRule.layout.ChecksAt [.sample "unique_code" 10 (.numeric none none)]
      (.sample "check" 1 (.check none ["unique_code"])) := ⟨rfl, by decide, [], rfl⟩
  have unchecked : ¬ Match.Checked 0 plainRule "79927398714".toList
      ⟨[("unique_code", "7992739871".toList), ("check", ['4'])]⟩ := by
    rintro ⟨before, s, checks, value⟩
    obtain ⟨rfl, rfl⟩ := placed.unique checks
    exact absurd value (by decide)
  have inPlace := fits.inPlace placed (by decide) 0
  exact ((check_digit_enforced_iff loads rfl rfl fits).mpr inPlace).2 unchecked

theorem stocked_accepts (judged : Match.judge 0 rule code = .matched normalized)
    (first : [rule].find? (Match.takes 0 code) = some rule) (own : rule.projectId = .nil)
    (active : rule.isActive = true) (anywhere : rule.allowedCountries = []) :
    ∃ a, ((run default (trial code)).run Deployment.answer (stocked rule)).1 =
      .ok (.accepted a) := by
  obtain ⟨t, loads⟩ := stocked_loads default rule code own active
  have admitted : ∀ now, admission (trial code) .sample rule now = .ok () := by
    intro now
    simp [admission, checkVigency, checkCountry, Project.sample, active, anywhere]
  have decided : decide default (trial code) (trial code).mode ⟨.sample, [rule]⟩ =
      useIfAdmitted default (trial code) (trial code).mode .sample rule normalized :=
    decide_matched first judged
  rw [run_loaded loads, decided, useIfAdmitted, Script.run_bind]
  simp only [admitted]
  exact ⟨_, rfl⟩

/-- Without a segment for it no check digit is missed; and one whose name an earlier
segment has is not looked at: here the first digit is the check value and the last one, the
check digit, is wrong. -/
theorem check_digit_unenforced :
    (unplacedRule.hasCheckDigit = true ∧ unplacedRule.layout.checkSegment? = none ∧
      ∃ a, ((run default (trial "79927398714")).run Deployment.answer (stocked unplacedRule)).1 =
        .ok (.accepted a)) ∧
    (shadowedRule.hasCheckDigit = true ∧
      (CheckDigit.Algorithm.luhn.calculate "123456789".toList).toOption = some ['7'] ∧
      ∃ a, ((run default (trial "71234567890")).run Deployment.answer (stocked shadowedRule)).1 =
        .ok (.accepted a)) := by
  have unplaced : Match.judge 0 unplacedRule "79927398714" = .matched "79927398714" := rfl
  have shadowed : Match.judge 0 shadowedRule "71234567890" = .matched "71234567890" := rfl
  exact ⟨⟨rfl, rfl, stocked_accepts unplaced rfl rfl rfl rfl⟩,
    ⟨rfl, rfl, stocked_accepts shadowed rfl rfl rfl rfl⟩⟩

end Voucher.Validation
