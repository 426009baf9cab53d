import Voucher.Proofs.Validation.CheckDigit

/-! The first rule that a code is committed to decides alone, and the first of its checks that fails
is the outcome. Only a code that passes all of them comes to the ledger. -/
namespace Voucher

/-- The question goes to the ledger or to a lock. -/
def Service.Call.reachesLedger : Service.Call → Bool
  | .fetchEntry .. | .insertEntry _ | .incrementEntry .. | .findDetail _ | .listDetails _
  | .statistics .. | .acquire .. | .release _ => true
  | _ => false

namespace Match

variable {rule : Rule} {code : String}

/-- A code is committed to a rule whose payload it has, unless a segment refuses its value. A layout
that does not fit the payload commits the code all the same. -/
def Commits (rule : Rule) (code : String) : Prop :=
  ∃ payload, rule.payload (rule.normalize code.toList) = .ok payload ∧
    ∀ fault, rule.layout.split payload = .error fault → fault.isTerminal

/-- The rejection of a code whose rule has a layout that does not fit. -/
def overflow? (rule : Rule) (code : String) : Option Rejection :=
  match rule.payload (rule.normalize code.toList) with
  | .error _ => none
  | .ok payload =>
    match rule.layout.split payload with
    | .error (.overflow segment offset length payloadLength) =>
      some (misfit segment offset length payloadLength)
    | .error (.invalid ..) | .ok _ => none

/-- The rejection of a code that lacks the check digit that its rule asks for. -/
def missedDigit? (maxSteps : Nat) (rule : Rule) (code : String) : Option Rejection :=
  match rule.payload (rule.normalize code.toList) with
  | .error _ => none
  | .ok payload =>
    match rule.layout.split payload with
    | .error _ => none
    | .ok fields => if rule.hasCheckDigit then checkDigitFault? maxSteps rule fields else none

theorem takes_iff (maxSteps : Nat) (rule : Rule) (code : String) :
    takes maxSteps code rule = true ↔ Commits rule code := by
  cases read : rule.payload (rule.normalize code.toList) with
  | error mismatch => simp [takes, judge, Commits, read]
  | ok payload =>
      cases split : rule.layout.split payload with
      | error fault =>
          cases fault <;> simp [takes, judge, Commits, read, split, Fields.Fault.isTerminal]
      | ok fields =>
          cases required : rule.hasCheckDigit with
          | false => simp [takes, judge, Commits, read, split, required]
          | true =>
              cases fault : checkDigitFault? maxSteps rule fields <;>
                simp [takes, judge, Commits, read, split, required, fault]

instance (rule : Rule) (code : String) : Decidable (Commits rule code) :=
  decidable_of_iff _ (takes_iff 0 rule code)

/-- A code that is committed to a rule is refused for the layout, then for the check digit. -/
theorem Commits.judge (commits : Commits rule code) (maxSteps : Nat) :
    judge maxSteps rule code = match (overflow? rule code).or (missedDigit? maxSteps rule code) with
      | some r => .refused r
      | none => .matched (String.ofList (rule.normalize code.toList)) := by
  obtain ⟨payload, read, terminal⟩ := commits
  unfold Match.judge overflow? missedDigit?
  simp only [read]
  cases split : rule.layout.split payload with
  | error fault =>
      cases fault with
      | overflow => rfl
      | invalid => simpa [Fields.Fault.isTerminal] using terminal _ split
  | ok fields =>
      cases rule.hasCheckDigit with
      | false => rfl
      | true => cases fault : checkDigitFault? maxSteps rule fields <;> simp [fault]

end Match

namespace Validation

open Service

variable {policy : Policy} {request : Request} {mode : Mode} {project : Project} {rule : Rule}
  {rules : List Rule} {book : RuleBook} {now : Instant}

/-- What is checked of a code that is committed to a rule. -/
inductive Check where
  | layout
  | checkDigit
  | projectActive
  | ruleActive
  | window
  | country

namespace Check

/-- The code under which a failed check is reported. -/
def code : Check → ErrorCode
  | layout => .invalidSegment
  | checkDigit => .invalidCheckDigit
  | projectActive => .projectInactive
  | ruleActive => .ruleInactive
  | window => .projectExpired
  | country => .geoBlocked

/-- The checks of the project and the consumer, in the order in which they count. -/
def ofUse : List Check := [projectActive, ruleActive, window, country]

/-- All checks, in the order in which they count; those of the code come first. -/
def all : List Check := layout :: checkDigit :: ofUse

def tooEarly (start : Instant) : Rejection :=
  ⟨.projectExpired, "Project has not started yet",
    some (.ofMembers [("startsAt", .str start.offsetText)])⟩

def tooLate (stop : Instant) : Rejection :=
  ⟨.projectExpired, "Project has expired", some (.ofMembers [("endsAt", .str stop.offsetText)])⟩

/-- The rejection of a code that fails a check at an instant. -/
def failure? (policy : Policy) (request : Request) (project : Project) (rule : Rule)
    (now : Instant) :
    Check → Option Rejection
  | layout => Match.overflow? rule request.code
  | checkDigit => Match.missedDigit? policy.maxSteps rule request.code
  | projectActive =>
    if project.isActive then none else some ⟨.projectInactive, "Project is not active", none⟩
  | ruleActive =>
      if rule.isActive then none else some ⟨.ruleInactive, "Code rule is not active", none⟩
  | window =>
    ((project.startsAt.filter (now.lt ·)).map tooEarly).or
      ((project.endsAt.filter (·.lt now)).map tooLate)
  | country =>
    match checkCountry rule request.country with
    | .error r => some r
    | .ok _ => none

theorem findSome?_all (f : Check → Option Rejection) :
    all.findSome? f = ((f layout).or (f checkDigit)).or (ofUse.findSome? f) := by
  unfold all
  rw [List.findSome?_cons, List.findSome?_cons]
  cases f layout <;> cases f checkDigit <;> rfl

theorem failure?_code {check : Check}
    (failed : check.failure? policy request project rule now = some r) :
    r.code = check.code := by
  cases check with
  | layout =>
      simp only [failure?, Match.overflow?] at failed
      split at failed
      · contradiction
      · split at failed <;> cases failed
        rfl
  | checkDigit =>
      simp only [failure?, Match.missedDigit?] at failed
      split at failed
      · contradiction
      · split at failed
        · contradiction
        · split at failed
          · exact Match.checkDigitFault?_code failed
          · contradiction
  | projectActive | ruleActive =>
      simp only [failure?] at failed
      split at failed <;> cases failed
      rfl
  | window =>
      simp only [failure?, Option.or_eq_some_iff, Option.map_eq_some_iff] at failed
      obtain ⟨start, -, rfl⟩ | ⟨-, stop, -, rfl⟩ := failed <;> rfl
  | country =>
      simp only [failure?] at failed
      split at failed
      · rename_i blocked
        cases failed
        exact checkCountry_code blocked
      · contradiction

end Check

/-- Admission reports the first of its checks that fails. -/
theorem admission_eq (policy : Policy) (request : Request) (project : Project) (rule : Rule)
    (now : Instant) :
    admission request project rule now =
      match Check.ofUse.findSome? (·.failure? policy request project rule now) with
      | some r => .error r
      | none => .ok () := by
  unfold admission checkVigency
  simp only [Check.ofUse, List.findSome?_cons, List.findSome?_nil, Check.failure?]
  cases project.isActive with
  | false => rfl
  | true =>
      cases rule.isActive with
      | false => rfl
      | true =>
          cases project.startsAt.filter (now.lt ·) with
          | some start => rfl
          | none =>
              cases project.endsAt.filter (·.lt now) with
              | some stop => rfl
              | none => cases checkCountry rule request.country <;> simp

/-- The checks of the code come first, and before the clock is read. -/
theorem decide_committed (mode : Mode) (commits : Match.Commits rule request.code)
    (first : book.rules.find? (Match.takes policy.maxSteps request.code) = some rule) :
    decide policy request mode book =
      match (Match.overflow? rule request.code).or
        (Match.missedDigit? policy.maxSteps rule request.code) with
      | some r => pure (.ok (.rejected r))
      | none => useIfAdmitted policy request mode book.project rule
          (String.ofList (rule.normalize request.code.toList)) := by
  have judged := commits.judge policy.maxSteps
  cases refused : (Match.overflow? rule request.code).or
      (Match.missedDigit? policy.maxSteps rule request.code) with
  | some r =>
      rw [refused] at judged
      exact decide_refused first judged
  | none =>
      rw [refused] at judged
      exact decide_matched first judged

/-- The first rule that a code is committed to is the one that takes it. -/
theorem find?_committed (passed : ∀ r ∈ before, ¬ Match.Commits r code)
    (commits : Match.Commits rule code) (maxSteps : Nat) (after : List Rule) :
    (before ++ rule :: after).find? (Match.takes maxSteps code) = some rule := by
  have skipped : before.find? (Match.takes maxSteps code) = none := by
    rw [List.find?_eq_none]
    intro r member
    rw [Match.takes_iff]
    exact passed r member
  rw [List.find?_append, skipped, List.find?_cons_of_pos
    ((Match.takes_iff maxSteps rule code).mpr commits)]
  rfl

/-- The rules before the first that a code is committed to ask nothing, and those behind it are not
looked at. -/
theorem decide_first (policy : Policy) (passed : ∀ r ∈ before, ¬ Match.Commits r request.code)
    (commits : Match.Commits rule request.code) (mode : Mode) (project : Project)
    (after : List Rule) :
    decide policy request mode ⟨project, before ++ rule :: after⟩ =
      decide policy request mode ⟨project, [rule]⟩ := by
  have alone : [rule].find? (Match.takes policy.maxSteps request.code) = some rule :=
    List.find?_cons_of_pos ((Match.takes_iff policy.maxSteps rule request.code).mpr commits)
  rw [decide_committed mode commits (find?_committed passed commits policy.maxSteps after),
    decide_committed mode commits alone]

/-- The outcome of a validation whose project has been looked up. -/
def outcomeOf (policy : Policy) (request : Request) :
    Result (Option RuleBook) → Action (Result Outcome)
  | .ok (some book) => decide policy request request.mode book
  | .ok none => pure (.ok projectNotFound)
  | .error e => pure (.error e)

/-- What a validation does once its project has been looked up. -/
def conclude (policy : Policy) (request : Request) (found : Result (Option RuleBook)) :
    Action (Result Outcome) := do
  let result ← outcomeOf policy request found
  Action.count (event request.mode result)
  pure result

theorem run_eq (policy : Policy) (request : Request) :
    run policy request = Cache.Rules.get policy.cacheLife request.projectId >>=
      conclude policy request := by
  rw [run, outcome, Action.andThen, Script.bind_assoc]
  congr
  funext found
  obtain e | none | book := found <;> rfl

variable {σ : Type} {answer : (q : Call) → σ → q.Answer × σ} {s t : σ}
  {found : Result (Option RuleBook)}

theorem run_conclude
    (loads : (Cache.Rules.get policy.cacheLife request.projectId).run answer s = (found, t)) :
    (run policy request).run answer s = (conclude policy request found).run answer t := by
  rw [run_eq, Script.run_bind, loads]

theorem asked_conclude
    (loads : (Cache.Rules.get policy.cacheLife request.projectId).run answer s = (found, t)) :
    (run policy request).asked answer s =
      (Cache.Rules.get policy.cacheLife request.projectId).asked answer s ++
        (conclude policy request found).asked answer t := by
  rw [run_eq, Script.asked_bind, loads]

/-- Counting the result changes neither the result nor what is asked before. -/
theorem conclude_fst (policy : Policy) (request : Request) (found : Result (Option RuleBook))
    (t : σ) :
    ((conclude policy request found).run answer t).1 =
      ((outcomeOf policy request found).run answer t).1 := by
  rw [conclude, Script.run_bind]
  rfl

theorem asked_conclude_eq (policy : Policy) (request : Request) (found : Result (Option RuleBook))
    (t : σ) :
    (conclude policy request found).asked answer t =
      (outcomeOf policy request found).asked answer t ++
        [.count (event request.mode ((outcomeOf policy request found).run answer t).1)] := by
  rw [conclude, Script.asked_bind]
  rfl

/-- To load a book is not to reach the ledger. -/
theorem get_asks_elsewhere (life : UInt64) (projectId : Uuid) :
    (Cache.Rules.get life projectId).Asks fun q => q.reachesLedger = false := by
  refine (Cache.Rules.get_asks_loading life projectId).mono fun q loading => ?_
  cases q with
  | readCache | writeCache | fetchRuleBook | count => rfl
  | _ => exact loading.elim

/-- A code that passes all checks is rejected by the ledger only, and only when
it is to be redeemed. -/
theorem use_rejects (policy : Policy) (request : Request) (mode : Mode) (project : Project)
    (rule : Rule) (normalized : String) :
    (use policy request mode project rule normalized).Yields fun result =>
      ∀ r, result = .ok (.rejected r) → mode = .live ∧ r.code = .alreadyRedeemed := by
  cases mode with
  | sandbox => intro id now r rejected; cases rejected
  | dryRun => intro now r rejected; cases rejected
  | live =>
      refine (Script.Yields.of_all (Q := fun _ => True) (fun _ => trivial) _).bind ?_
      rintro (e | redemption) _ r rejected
      · cases rejected
      · cases redemption <;> cases rejected <;> exact ⟨rfl, rfl⟩

/-- The first check that fails is the outcome, and then the ledger is not reached; a code that
passes them all is used, and only the ledger may still reject it. -/
structure FirstFailure (policy : Policy) (request : Request) (project : Project) (rule : Rule)
    (answer : (q : Call) → σ → q.Answer × σ) (t : σ) (result : Result Outcome) (asked : List Call) :
    Prop where
  failed : ∀ earlier check later r, Check.all = earlier ++ check :: later →
    (∀ c ∈ earlier, c.failure? policy request project rule (answer .now t).1 = none) →
    check.failure? policy request project rule (answer .now t).1 = some r →
      result = .ok (.rejected r) ∧ r.code = check.code ∧ ∀ q ∈ asked, q.reachesLedger = false
  passed : (∀ c ∈ Check.all, c.failure? policy request project rule (answer .now t).1 = none) →
    result = ((use policy request request.mode project rule
        (String.ofList (rule.normalize request.code.toList))).run answer (answer .now t).2).1 ∧
      ∀ r, result = .ok (.rejected r) → request.mode = .live ∧ r.code = .alreadyRedeemed

/-- A validation whose outcome is known without the ledger does not reach it. -/
theorem asked_elsewhere
    (loads : (Cache.Rules.get policy.cacheLife request.projectId).run answer s = (found, t))
    (elsewhere : ∀ q ∈ (outcomeOf policy request found).asked answer t, q.reachesLedger = false) :
    ∀ q ∈ (run policy request).asked answer s, q.reachesLedger = false := by
  intro q member
  rw [asked_conclude loads, asked_conclude_eq, List.mem_append, List.mem_append,
    List.mem_singleton] at member
  obtain loading | deciding | rfl := member
  · exact (get_asks_elsewhere policy.cacheLife request.projectId).asked answer s q loading
  · exact elsewhere q deciding
  · rfl

/-- A code that fails a check of its use is told so once the clock has been read. -/
theorem useIfAdmitted_failed (mode : Mode) (normalized : String)
    (failed : Check.ofUse.findSome? (·.failure? policy request project rule (answer .now t).1) =
      some r) :
    ((useIfAdmitted policy request mode project rule normalized).run answer t).1 =
      .ok (.rejected r) ∧
      (useIfAdmitted policy request mode project rule normalized).asked answer t = [.now] := by
  have refused := admission_eq policy request project rule (answer .now t).1
  rw [failed] at refused
  rw [useIfAdmitted, Script.run_bind, Script.asked_bind]
  simp only [Action.now, Script.call, Script.run, Script.asked, refused]
  exact ⟨rfl, rfl⟩

theorem useIfAdmitted_passed (mode : Mode) (normalized : String)
    (passed : Check.ofUse.findSome? (·.failure? policy request project rule (answer .now t).1) =
      none) :
    (useIfAdmitted policy request mode project rule normalized).run answer t =
      (use policy request mode project rule normalized).run answer (answer .now t).2 := by
  have admitted := admission_eq policy request project rule (answer .now t).1
  rw [passed] at admitted
  rw [useIfAdmitted, Script.run_bind]
  simp only [Action.now, Script.call, Script.run, admitted]

/-- A code that fails a check is told the first that it fails, and the ledger is not reached. -/
theorem decide_failed (mode : Mode) (commits : Match.Commits rule request.code)
    (first : book.rules.find? (Match.takes policy.maxSteps request.code) = some rule)
    (failed : Check.all.findSome? (·.failure? policy request book.project rule (answer .now t).1) =
      some r) :
    ((decide policy request mode book).run answer t).1 = .ok (.rejected r) ∧
      ∀ q ∈ (decide policy request mode book).asked answer t, q.reachesLedger = false := by
  rw [Check.findSome?_all, Check.failure?, Check.failure?] at failed
  rw [decide_committed mode commits first]
  cases refused : (Match.overflow? rule request.code).or
      (Match.missedDigit? policy.maxSteps rule request.code) with
  | some x =>
      rw [refused] at failed
      cases failed
      exact ⟨rfl, List.forall_mem_nil _⟩
  | none =>
      rw [refused, Option.none_or] at failed
      obtain ⟨result, asked⟩ := useIfAdmitted_failed mode
        (String.ofList (rule.normalize request.code.toList)) failed
      refine ⟨result, ?_⟩
      simp only [asked]
      exact List.forall_mem_singleton.mpr rfl

/-- A code that passes all checks is used. -/
theorem decide_passed (mode : Mode) (commits : Match.Commits rule request.code)
    (first : book.rules.find? (Match.takes policy.maxSteps request.code) = some rule)
    (passed : Check.all.findSome? (·.failure? policy request book.project rule (answer .now t).1) =
      none) :
    (decide policy request mode book).run answer t =
      (use policy request mode book.project rule
        (String.ofList (rule.normalize request.code.toList))).run answer (answer .now t).2 := by
  rw [Check.findSome?_all, Check.failure?, Check.failure?] at passed
  obtain ⟨clean, admitted⟩ := Option.or_eq_none_iff.mp passed
  rw [decide_committed mode commits first, clean]
  exact useIfAdmitted_passed mode _ admitted

theorem firstFailure_committed
    (loads : (Cache.Rules.get policy.cacheLife request.projectId).run answer s =
      (.ok (some book), t))
    (commits : Match.Commits rule request.code)
    (first : book.rules.find? (Match.takes policy.maxSteps request.code) = some rule) :
    FirstFailure policy request book.project rule answer t ((run policy request).run answer s).1
      ((run policy request).asked answer s) := by
  rw [run_conclude loads, conclude_fst]
  constructor
  case failed =>
      intro earlier check later r placed passed failed
      obtain ⟨result, elsewhere⟩ := decide_failed request.mode commits first
        (List.findSome?_eq_some_iff.mpr ⟨earlier, check, later, placed, failed, passed⟩)
      exact ⟨result, Check.failure?_code failed, asked_elsewhere loads elsewhere⟩
  case passed =>
      intro passed
      have used := decide_passed request.mode commits first (List.findSome?_eq_none_iff.mpr passed)
      rw [outcomeOf, used]
      exact ⟨rfl, (use_rejects policy request request.mode book.project rule _).run answer _⟩

/-- A validation that has a book comes to what the first rule that the code is committed to says,
with the same questions as if there were no other rule; without such a rule no rule matches. -/
theorem first_match_decides
    (loads : (Cache.Rules.get policy.cacheLife request.projectId).run answer s =
      (.ok (some ⟨project, rules⟩), t)) :
    (∀ before rule after, rules = before ++ rule :: after →
      (∀ r ∈ before, ¬ Match.Commits r request.code) → Match.Commits rule request.code →
        (run policy request).run answer s =
          (conclude policy request (.ok (some ⟨project, [rule]⟩))).run answer t ∧
        (run policy request).asked answer s =
          (Cache.Rules.get policy.cacheLife request.projectId).asked answer s ++
            (conclude policy request (.ok (some ⟨project, [rule]⟩))).asked answer t ∧
        FirstFailure policy request project rule answer t ((run policy request).run answer s).1
          ((run policy request).asked answer s)) ∧
    ((∀ rule ∈ rules, ¬ Match.Commits rule request.code) →
      (∃ r, ((run policy request).run answer s).1 = .ok (.rejected r) ∧ r.code = .noMatchingRule ∧
        r.details = some (.ofMembers [("rules_evaluated", .ofNat rules.length)])) ∧
      ∀ q ∈ (run policy request).asked answer s, q.reachesLedger = false) := by
  constructor
  · rintro before rule after rfl passed commits
    have alone := decide_first policy passed commits request.mode project after
    have first := find?_committed passed commits policy.maxSteps after
    have decided : outcomeOf policy request (.ok (some ⟨project, before ++ rule :: after⟩)) =
        outcomeOf policy request (.ok (some ⟨project, [rule]⟩)) := alone
    have same : conclude policy request (.ok (some ⟨project, before ++ rule :: after⟩)) =
        conclude policy request (.ok (some ⟨project, [rule]⟩)) := by
      rw [conclude, conclude, decided]
    refine ⟨?_, ?_, firstFailure_committed loads commits first⟩
    · rw [run_conclude loads, same]
    · rw [asked_conclude loads, same]
  · intro passed
    have none : rules.find? (Match.takes policy.maxSteps request.code) = none := by
      rw [List.find?_eq_none]
      intro rule member
      rw [Match.takes_iff]
      exact passed rule member
    have decided : outcomeOf policy request (.ok (some ⟨project, rules⟩)) =
        pure (.ok (noRule rules.length)) := decide_none none
    refine ⟨⟨⟨.noMatchingRule, "No code rule matches the provided code",
      some (.ofMembers [("rules_evaluated", .ofNat rules.length)])⟩, ?_, rfl, rfl⟩,
      asked_elsewhere loads ?_⟩
    · rw [run_conclude loads, conclude_fst, decided]
      rfl
    · rw [decided]
      exact List.forall_mem_nil _

/-- A service that knows rules of the sample project, in the order in which they are tried. -/
def catalog (rules : List Rule) : Deployment :=
  { Deployment.inMemory .standard .epoch 0 with
    store := { Ledger.Store.empty.insertProject .sample with rules := rules } }

theorem catalog_loads (policy : Policy) (rules : List Rule) (code : String)
    (own : ∀ r ∈ rules, r.projectId = .nil) (active : ∀ r ∈ rules, r.isActive = true)
    (ordered : rules.Pairwise fun a b => Ledger.Store.ruleLe a b) :
    ∃ t, (Cache.Rules.get policy.cacheLife (trial code).projectId).run Deployment.answer
      (catalog rules) = (.ok (some ⟨.sample, rules⟩), t) := by
  have tried : (rules.filter fun r => r.projectId == .nil && r.isActive) = rules := by
    rw [List.filter_eq_self]
    intro r member
    simp [own r member, active r member]
  have book : (catalog rules).store.ruleBook? .nil = some ⟨.sample, rules⟩ := by
    simp only [catalog, Ledger.Store.ruleBook?, tried, List.mergeSort_of_pairwise ordered]
    rfl
  rw [← book]
  exact Cache.Rules.perform_get_uncached rfl rfl policy.cacheLife .nil rfl

/-- Rules of which a code of eleven digits is committed to the second and the third. -/
def shelf : List Rule :=
  [{ plainRule with id := .ofNat 1, totalLength := 13 },
    { plainRule with id := .ofNat 2 },
    { plainRule with id := .ofNat 3, checkAlgorithm := some .mod10 }]

/-- The second of three rules refuses a check digit that the third one would let pass. -/
theorem first_match_decides_second : ∃ r,
    ((run default (trial "79927398712")).run Deployment.answer (catalog shelf)).1 =
      .ok (.rejected r) ∧
      r.code = .invalidCheckDigit ∧
      ∀ q ∈ (run default (trial "79927398712")).asked Deployment.answer (catalog shelf),
        q.reachesLedger = false := by
  obtain ⟨t, loads⟩ := catalog_loads default shelf "79927398712" (by decide) (by decide) (by decide)
  obtain ⟨-, -, first⟩ := (first_match_decides loads).1 [_] _ [_] rfl (by decide) (by decide)
  obtain ⟨r, missed⟩ : ∃ r, Match.missedDigit? 0 { plainRule with id := .ofNat 2 } "79927398712" =
    some r :=
    ⟨_, rfl⟩
  obtain ⟨result, code, elsewhere⟩ := first.failed [.layout] .checkDigit Check.ofUse r rfl
    (List.forall_mem_singleton.mpr rfl) missed
  exact ⟨r, result, code, elsewhere⟩

end Validation

end Voucher
