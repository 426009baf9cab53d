import Voucher.CheckDigit.Custom

/-! A budget of steps only cuts evaluation off. What a formula does when nothing cuts it off tells
its value and its steps; a budget that covers the steps changes neither, and any other one is
overdrawn by less than the last payment. -/
namespace Voucher.CheckDigit

namespace Formula

open Counted (maxSteps tick lift)

variable {α β : Type} {width : Nat}

/-- The budget is overdrawn, but not by more than one payment. -/
structure Cut (budget width : Nat) (outcome : Except Fault α × Nat) : Prop where
  result : outcome.1 = .error (.budgetExceeded budget)
  beyond : budget < outcome.2
  near : outcome.2 ≤ min (budget + max 1 width) maxSteps

/-- What a budget makes of an evaluation that ends in `full` without one: it covers all the steps,
and then it changes nothing, or it cuts off. -/
def Settles (budget width : Nat) (full outcome : Except Fault α × Nat) : Prop :=
  if full.2 ≤ budget then outcome = full else Cut budget width outcome

theorem Settles.covered {full outcome : Except Fault α × Nat}
    (settles : Settles budget width full outcome) (enough : full.2 ≤ budget) : outcome = full := by
  rwa [Settles, if_pos enough] at settles

theorem Settles.short {full outcome : Except Fault α × Nat}
    (settles : Settles budget width full outcome)
    (short : budget < full.2) : Cut budget width outcome := by
  rwa [Settles, if_neg (Nat.not_le.mpr short)] at settles

theorem Cut.settles {full outcome : Except Fault α × Nat} (cut : Cut budget width outcome)
    (short : budget < full.2) : Settles budget width full outcome := by
  rwa [Settles, if_neg (Nat.not_le.mpr short)]

theorem settles_refl (full : Except Fault α × Nat) (enough : full.2 ≤ budget) :
    Settles budget width full full := by
  rw [Settles, if_pos enough]

/-- A computation that counts up and that budgets only cut off, wherever it starts. -/
structure Metered (width : Nat) (m : Nat → Counted α) : Prop where
  counts : ∀ start ≤ maxSteps, start ≤ (m maxSteps start).2 ∧ (m maxSteps start).2 ≤ maxSteps
  settles : ∀ start ≤ maxSteps, ∀ budget, start ≤ budget →
    Settles budget width (m maxSteps start) (m budget start)

/-- What costs nothing does not depend on the budget. -/
theorem metered_lift (r : Except Fault α) : Metered width fun _ => lift r where
  counts _ room := ⟨Nat.le_refl _, room⟩
  settles start _ _ covered := settles_refl (r, start) covered

theorem metered_pure (a : α) : Metered width fun _ => (pure a : Counted α) := metered_lift (.ok a)

theorem metered_tick {cost : Nat} (payment : cost ≤ max 1 width) :
    Metered width fun budget => tick budget cost := by
  have uncut : ∀ start, tick maxSteps cost start = (.ok (), min (start + cost) maxSteps) := by
    intro start
    exact if_neg (Nat.not_lt.mpr (Nat.min_le_right _ _))
  constructor
  · intro start room
    rw [uncut]
    omega
  · intro start room budget covered
    rw [uncut]
    by_cases enough : min (start + cost) maxSteps ≤ budget
    · have paid : tick budget cost start = (.ok (), min (start + cost) maxSteps) :=
        if_neg (Nat.not_lt.mpr enough)
      rw [paid]
      exact settles_refl _ enough
    · have overdrawn : tick budget cost start =
          (.error (.budgetExceeded budget), min (start + cost) maxSteps) :=
        if_pos (Nat.not_le.mp enough)
      rw [overdrawn]
      refine Cut.settles ⟨rfl, Nat.not_le.mp enough, ?_⟩ (Nat.not_le.mp enough)
      dsimp only
      omega

theorem Counted.bind_ok {m : Counted α} {k : α → Counted β} {n : Nat}
    (done : m start = (.ok a, n)) :
    (m >>= k) start = k a n := by
  show andThen m k start = k a n
  rw [andThen, done]

theorem Counted.bind_error {m : Counted α} {k : α → Counted β} {n : Nat}
    (failed : m start = (.error fault, n)) : (m >>= k) start = (.error fault, n) := by
  show andThen m k start = _
  rw [andThen, failed]

theorem Cut.bind {m : Counted α} {budget : Nat} (cut : Cut budget width (m start))
    (k : α → Counted β) :
    Cut budget width ((m >>= k) start) := by
  have failed : m start = (.error (.budgetExceeded budget), (m start).2) := Prod.ext cut.result rfl
  rw [Counted.bind_error failed]
  exact ⟨rfl, cut.beyond, cut.near⟩

theorem Settles.halt {full m : Counted α} (here : Settles budget width (full start) (m start))
    (failed : full start = (.error fault, n)) (k k' : α → Counted β) :
    Settles budget width ((full >>= k) start) ((m >>= k') start) := by
  rw [Counted.bind_error failed]
  rw [failed] at here
  by_cases enough : n ≤ budget
  · rw [Counted.bind_error (here.covered enough)]
    exact settles_refl _ enough
  · have short := Nat.not_le.mp enough
    exact ((here.short short).bind k').settles short

/-- If the first part alone overdraws the budget, the whole does, for the rest only counts up. -/
theorem Settles.andThen {full m : Counted α} (here : Settles budget width (full start) (m start))
    (done : full start = (.ok a, n)) {k k' : α → Counted β} (up : n ≤ (k a n).2)
    (rest : n ≤ budget → Settles budget width (k a n) (k' a n)) :
    Settles budget width ((full >>= k) start) ((m >>= k') start) := by
  rw [Counted.bind_ok done]
  rw [done] at here
  by_cases enough : n ≤ budget
  · rw [Counted.bind_ok (here.covered enough)]
    exact rest enough
  · have short := Nat.not_le.mp enough
    exact ((here.short short).bind k').settles (Nat.lt_of_lt_of_le short up)

theorem Metered.bind {m : Nat → Counted α} {k : Nat → α → Counted β} (first : Metered width m)
    (rest : ∀ a, Metered width fun budget => k budget a) :
    Metered width fun budget => m budget >>= k budget := by
  constructor
  · intro start room
    obtain ⟨up, bounded⟩ := first.counts start room
    rcases done : m maxSteps start with ⟨fault | a, n⟩
    · rw [Counted.bind_error done]
      rw [done] at up bounded
      exact ⟨up, bounded⟩
    · rw [Counted.bind_ok done]
      rw [done] at up bounded
      obtain ⟨further, within⟩ := (rest a).counts n bounded
      exact ⟨Nat.le_trans up further, within⟩
  · intro start room budget covered
    have here := first.settles start room budget covered
    have bounded := (first.counts start room).2
    rcases done : m maxSteps start with ⟨fault | a, n⟩
    · exact here.halt done _ _
    · rw [done] at bounded
      exact here.andThen done ((rest a).counts n bounded).1 ((rest a).settles n bounded budget)

/-- Every formula pays one step for itself. -/
theorem Metered.paid {m : Nat → Counted α} (rest : Metered width m) :
    Metered width fun budget => tick budget 1 >>= fun _ => m budget :=
  (metered_tick (Nat.le_max_left 1 width)).bind fun _ => rest

/-- A pass over the input pays one step for each character. -/
theorem Metered.passed {m : Nat → Counted α} (rest : Metered width m) :
    Metered width fun budget => tick budget width >>= fun _ => m budget :=
  (metered_tick (Nat.le_max_right 1 width)).bind fun _ => rest

theorem sumDigits_metered (input : List Char) :
    Metered input.length fun budget => sumDigits budget input :=
  (metered_lift _).passed

theorem sumWeighted_metered (input : List Char) (weights : List Int64) (direction : Direction)
    (fold : Bool) :
    Metered input.length fun budget => sumWeighted budget input weights direction fold := by
  unfold sumWeighted
  split
  · exact metered_lift _
  · exact (metered_lift _).passed

theorem remainder_metered (input : List Char) (modulus : Int64) :
    Metered input.length fun budget => remainder budget input modulus := by
  unfold remainder
  split
  · exact metered_lift _
  · exact (metered_lift _).passed

mutual

theorem eval_metered (input : List Char) (f : Formula) :
    Metered input.length fun budget => eval budget input f := by
  match f with
  | .const value =>
      simp only [eval]
      exact (metered_pure value).paid
  | .length =>
      simp only [eval]
      exact (metered_pure _).paid
  | .digitSum =>
      simp only [eval]
      exact (sumDigits_metered input).paid
  | .weightedSum weights direction fold =>
      simp only [eval]
      exact (sumWeighted_metered input weights direction fold).paid
  | .numericMod modulus =>
      simp only [eval]
      exact (remainder_metered input modulus).paid
  | .add args =>
      simp only [eval]
      exact (evalSum_metered input 0 args).paid
  | .mul args =>
      simp only [eval]
      exact (evalProduct_metered input 1 args).paid
  | .sub l r =>
      simp only [eval]
      exact ((eval_metered input l).bind fun _ => (eval_metered input r).bind fun _ =>
        metered_lift _).paid
  | .mod l r =>
      simp only [eval]
      exact ((eval_metered input l).bind fun _ => (eval_metered input r).bind fun _ =>
        metered_lift _).paid
  | .cond l c r y n =>
      simp only [eval]
      apply Metered.paid
      apply (eval_metered input l).bind
      intro a
      apply (eval_metered input r).bind
      intro b
      by_cases holds : c.holds a b
      · simp only [holds, if_true]
        exact eval_metered input y
      · simp only [holds]
        exact eval_metered input n

theorem evalSum_metered (input : List Char) (acc : Int64) (args : List Formula) :
    Metered input.length fun budget => evalSum budget input acc args := by
  match args with
  | [] =>
      simp only [evalSum]
      exact metered_pure acc
  | f :: rest =>
      simp only [evalSum]
      exact (eval_metered input f).bind fun _ => (metered_lift _).bind fun _ =>
        evalSum_metered input _ rest

theorem evalProduct_metered (input : List Char) (acc : Int64) (args : List Formula) :
    Metered input.length fun budget => evalProduct budget input acc args := by
  match args with
  | [] =>
      simp only [evalProduct]
      exact metered_pure acc
  | f :: rest =>
      simp only [evalProduct]
      exact (eval_metered input f).bind fun _ => (metered_lift _).bind fun _ =>
        evalProduct_metered input _ rest

end

/-- A larger budget changes nothing about an evaluation that was not cut off. -/
theorem eval_raised (raised : budget ≤ more)
    (uncut : (eval budget input f 0).1 ≠ .error (.budgetExceeded budget)) :
    eval more input f 0 = eval budget input f 0 := by
  have here := (eval_metered input f).settles 0 (Nat.zero_le _) budget (Nat.zero_le _)
  have there := (eval_metered input f).settles 0 (Nat.zero_le _) more (Nat.zero_le _)
  by_cases enough : (eval maxSteps input f 0).2 ≤ budget
  · exact (there.covered (Nat.le_trans enough raised)).trans (here.covered enough).symm
  · exact absurd (here.short (Nat.not_le.mp enough)).result uncut

end Formula

namespace Definition

theorem calculate_raised {d : Definition} (raised : budget ≤ more)
    (uncut : d.calculate budget input ≠ .error (.eval (.budgetExceeded budget))) :
    d.calculate more input = d.calculate budget input := by
  unfold calculate at uncut ⊢
  rw [Formula.eval_raised raised]
  intro cut
  rw [cut] at uncut
  exact uncut rfl

theorem run_raised {j : Json} (raised : budget ≤ more)
    (uncut : run budget j input ≠ .error (.eval (.budgetExceeded budget))) :
    run more j input = run budget j input := by
  unfold run at uncut ⊢
  cases parsed : parse j with
  | error fault => rfl
  | ok d =>
      rw [parsed] at uncut
      exact calculate_raised raised uncut

end Definition

theorem verify_raised {j : Json} (raised : budget ≤ more)
    (uncut : Definition.run budget j input ≠ .error (.eval (.budgetExceeded budget))) :
    verify more .custom (some j) input check = verify budget .custom (some j) input check := by
  simp only [verify, Definition.run_raised raised uncut]

theorem verify_accepted_raised {j : Json} (raised : budget ≤ more)
    (accepted : verify budget .custom (some j) input check = true) :
    verify more .custom (some j) input check = true := by
  rw [verify_raised raised, accepted]
  intro cut
  simp [verify, cut] at accepted

/-- Within its steps a formula is evaluated as without a budget, and else it is cut off, less than a
payment beyond the budget. So a larger budget changes only what was cut off: the evaluation, the
check value, the run of a definition and its verdict stay, and what is accepted stays accepted. -/
theorem budget_only_cuts_off (f : Formula) (d : Definition) (j : Json) (input check : List Char)
    (budget : Nat) :
    Formula.Settles budget input.length (Formula.eval Formula.Counted.maxSteps input f 0)
        (Formula.eval budget input f 0) ∧
    ∀ more, budget ≤ more →
      ((Formula.eval budget input f 0).1 ≠ .error (.budgetExceeded budget) →
        Formula.eval more input f 0 = Formula.eval budget input f 0) ∧
      (d.calculate budget input ≠ .error (.eval (.budgetExceeded budget)) →
        d.calculate more input = d.calculate budget input) ∧
      (Definition.run budget j input ≠ .error (.eval (.budgetExceeded budget)) →
        Definition.run more j input = Definition.run budget j input ∧
          verify more .custom (some j) input check = verify budget .custom (some j) input check) ∧
      (verify budget .custom (some j) input check = true →
        verify more .custom (some j) input check = true) := by
  refine ⟨(Formula.eval_metered input f).settles 0 (Nat.zero_le _) budget (Nat.zero_le _), ?_⟩
  intro more raised
  refine ⟨Formula.eval_raised raised, Definition.calculate_raised raised, ?_,
    verify_accepted_raised raised⟩
  intro uncut
  exact ⟨Definition.run_raised raised uncut, verify_raised raised uncut⟩

/-- The sum of two digits takes three steps: two are not enough, and more
than three do not matter. -/
theorem budget_only_cuts_off_sum :
    let sum : Definition := ⟨.digitSum, none, .empty⟩
    Formula.Cut 2 2 (Formula.eval 2 ['1', '2'] .digitSum 0) ∧
      Formula.eval 10000 ['1', '2'] .digitSum 0 = (.ok 3, 3) ∧
      verify 3 .custom (some sum.toJson) ['1', '2'] ['3'] = true ∧
      verify 10000 .custom (some sum.toJson) ['1', '2'] ['3'] = true := by
  intro sum
  have full : Formula.eval Formula.Counted.maxSteps ['1', '2'] .digitSum 0 = (.ok 3, 3) := rfl
  have exact : Formula.eval 3 ['1', '2'] .digitSum 0 = (.ok 3, 3) := rfl
  have accepted : verify 3 .custom (some sum.toJson) ['1', '2'] ['3'] = true := by decide +kernel
  obtain ⟨two, -⟩ := budget_only_cuts_off .digitSum sum sum.toJson ['1', '2'] ['3'] 2
  obtain ⟨-, more⟩ := budget_only_cuts_off .digitSum sum sum.toJson ['1', '2'] ['3'] 3
  obtain ⟨same, -, -, still⟩ := more 10000 (by decide)
  refine ⟨two.short (by decide), ?_, accepted, still accepted⟩
  rw [same (by rw [exact]; exact nofun), exact]

end Voucher.CheckDigit
