import Voucher.Proofs.CheckDigit.Formula.Budget
import Voucher.Proofs.CheckDigit.Formula.Exact

/-! Evaluation on words refines evaluation on unbounded integers: the same value or the same
objection as long as every step fits a word, and an overflow as soon as one does not. -/
namespace Voucher.CheckDigit

namespace Formula

open Exact

/-- What words make of an exact computation. -/
inductive Refines (e : Exact Int) : Except Fault Int64 → Prop where
  | value {v} (fits : ∀ s ∈ e.steps, s.Fits) (same : e.outcome = .ok v.toInt) : Refines e (.ok v)
  | objection {o} (fits : ∀ s ∈ e.steps, s.Fits) (same : e.outcome = .error o) :
      Refines e (.error o.fault)
  | overflow (unfit : ∃ s ∈ e.steps, ¬ s.Fits) : Refines e (.error .overflow)

namespace Refines

variable {e : Exact Int} {k : Int → Exact Int} {r : Except Fault Int64}

theorem andThen (first : Refines e (.ok v)) (rest : Refines (k v.toInt) r) :
    Refines (e >>= k) r := by
  cases first with
  | value fits same =>
      have both := Exact.bind_ok (k := k) same
      cases rest with
      | value more outcome =>
          refine .value ?_ (by rw [both, outcome])
          rw [both]
          exact List.forall_mem_append.mpr ⟨fits, more⟩
      | objection more outcome =>
          refine .objection ?_ (by rw [both, outcome])
          rw [both]
          exact List.forall_mem_append.mpr ⟨fits, more⟩
      | overflow unfit =>
          obtain ⟨s, member, large⟩ := unfit
          refine .overflow ⟨s, ?_, large⟩
          rw [both]
          exact List.mem_append_right _ member

theorem halt (first : Refines e (.error fault)) : Refines (e >>= k) (.error fault) := by
  cases first with
  | objection fits same =>
      have stops := Exact.bind_error (k := k) same
      refine .objection ?_ (by rw [stops])
      rwa [stops]
  | overflow unfit =>
      obtain ⟨s, member, large⟩ := unfit
      exact .overflow ⟨s, mem_steps_bind k member, large⟩

theorem bind {k' : Int64 → Except Fault Int64} (first : Refines e r)
    (rest : ∀ v : Int64, Refines (k v.toInt) (k' v)) : Refines (e >>= k) (r >>= k') := by
  cases r with
  | ok v => exact first.andThen (rest v)
  | error fault => exact first.halt

end Refines

theorem refines_pure {i : Int} (v : Int64) (same : i = v.toInt) : Refines (pure i) (.ok v) :=
  .value nofun (congrArg Except.ok same)

theorem refines_object {o : Objection} : Refines (object o) (.error o.fault) := .objection nofun rfl

theorem toInt_word {i : Int} (holds : Word.Holds64 i) : (Int64.ofInt i).toInt = i :=
  Int64.toInt_ofInt_of_le holds.1 holds.2

theorem refines_word (i : Int) : Refines (give i) (word i) := by
  unfold word
  split
  · rename_i holds
    exact .value (List.forall_mem_singleton.mpr holds) (congrArg Except.ok (toInt_word holds).symm)
  · rename_i large
    exact .overflow ⟨.gives i, List.mem_singleton.mpr rfl, large⟩

theorem refines_modWords (a b : Int64) : Refines (divide a.toInt b.toInt) (modWords a b) := by
  have zero : b = 0 ↔ b.toInt = 0 := by rw [← Int64.toInt_inj, Int64.toInt_zero]
  unfold modWords divide
  by_cases nothing : b.toInt = 0
  · rw [if_pos nothing, if_pos (zero.mpr nothing)]
    exact refines_object
  · rw [if_neg nothing, if_neg (mt zero.mp nothing)]
    by_cases least : a.toInt = -9223372036854775808 ∧ b.toInt = -1
    · rw [if_pos least]
      exact .overflow ⟨.divides a.toInt b.toInt, List.mem_singleton.mpr rfl, not_not_intro least⟩
    · -- The remainder is smaller than the divisor, whatever its sign.
      have low := Int.emod_nonneg a.toInt nothing
      have high := Int.emod_lt a.toInt nothing
      have range := b.le_toInt
      have range' := b.toInt_lt
      have holds : Word.Holds64 (a.toInt % b.toInt) := ⟨by omega, by omega⟩
      rw [if_neg least, word, if_pos holds]
      exact .value (List.forall_mem_singleton.mpr least)
        (congrArg Except.ok (toInt_word holds).symm)

theorem refines_charValue (position : Nat) (c : Char) :
    Refines (read position c) (charValue position c) := by
  unfold read charValue
  rw [charValue?_eq]
  cases found : value? c with
  | none => exact refines_object
  | some v =>
      have small := value?_lt found
      exact refines_pure _ (Int64.toInt_ofNat_of_lt (by omega)).symm

theorem refines_digitSumFrom (acc : Int64) (position : Nat) (cs : List Char) :
    Refines (accumulate (· + ·) acc.toInt ((cs.zipIdx position).map fun p => read p.2 p.1))
      (digitSumFrom acc position cs) := by
  induction cs generalizing acc position with
  | nil => exact refines_pure acc rfl
  | cons c rest ih =>
      refine (refines_charValue position c).bind fun v => ?_
      exact (refines_word (acc.toInt + v.toInt)).bind fun acc => ih acc (position + 1)

theorem refines_weighted (fold : Bool) (v weight : Int64) :
    Refines
      (give (v.toInt * weight.toInt) >>= fun p => pure (if fold = true ∧ 9 < p then p - 9 else p))
      (weighted fold v weight) := by
  refine (refines_word (v.toInt * weight.toInt)).bind fun p => ?_
  have nine : 9 < p ↔ 9 < p.toInt := Int64.lt_iff_toInt_lt
  by_cases folds : fold = true ∧ 9 < p.toInt
  · have bounded := p.toInt_lt
    have holds : Word.Holds64 (p.toInt - 9) := ⟨by omega, by omega⟩
    have less : subWords p 9 = .ok (Int64.ofInt (p.toInt - 9)) := if_pos holds
    rw [if_pos folds, if_pos (by simp [folds.1, nine.mpr folds.2]), less]
    exact refines_pure _ (toInt_word holds).symm
  · rw [if_neg folds, if_neg (by simpa [nine] using folds)]
    exact refines_pure p rfl

theorem refines_weigh {length position : Nat} (weight : Int64)
    (placed : weight = (weights[direction.place length position % weights.length]?).getD 0) :
    Refines (weigh weights direction fold length position c)
      (charValue position c >>= fun v => weighted fold v weight) := by
  subst placed
  exact (refines_charValue position c).bind fun v => refines_weighted fold v _

/-- Characters are taken in the order of their places. -/
theorem place_order {input : List Char} (direction : Direction) {k : Nat} {p : Char × Nat}
    (taken : (Direction.order direction input)[k]? = some p) :
    direction.place input.length p.2 = k := by
  cases direction with
  | leftToRight =>
      rw [Direction.order, List.getElem?_zipIdx] at taken
      obtain ⟨c, -, rfl⟩ := Option.map_eq_some_iff.mp taken
      exact Nat.zero_add k
  | rightToLeft =>
      have within : k < input.zipIdx.length := by
        have listed := (List.getElem?_eq_some_iff.mp taken).1
        rwa [Direction.order, List.length_reverse] at listed
      rw [Direction.order, List.getElem?_reverse within, List.getElem?_zipIdx,
        List.length_zipIdx] at taken
      rw [List.length_zipIdx] at within
      obtain ⟨c, -, rfl⟩ := Option.map_eq_some_iff.mp taken
      simp only [Direction.place]
      omega

theorem arrange_map {α : Type} (direction : Direction) (f : Char × Nat → α) (input : List Char) :
    direction.arrange (input.zipIdx.map f) = (Direction.order direction input).map f := by
  cases direction with
  | leftToRight => rfl
  | rightToLeft => exact List.map_reverse.symm

theorem refines_weightedSumFrom {length : Nat} {entries : List (Char × Nat)} (acc : Int64)
    (taken : Nat) (placed : ∀ k p, entries[k]? = some p → direction.place length p.2 = taken + k) :
    Refines
      (accumulate (· + ·) acc.toInt
        (entries.map fun p => weigh weights direction fold length p.2 p.1))
      (weightedSumFrom weights fold acc taken entries) := by
  induction entries generalizing acc taken with
  | nil => exact refines_pure acc rfl
  | cons p rest ih =>
      obtain ⟨c, position⟩ := p
      have here : direction.place length position = taken := placed 0 (c, position) rfl
      have weight : (weights[taken % weights.length]?).getD 0 =
          (weights[direction.place length position % weights.length]?).getD 0 := by rw [here]
      have first : Refines (weigh weights direction fold length position c) _ :=
        refines_weigh _ weight
      have steps : weightedSumFrom weights fold acc taken ((c, position) :: rest) =
          (charValue position c >>= fun v =>
            weighted fold v ((weights[taken % weights.length]?).getD 0)) >>=
            fun p => addWords acc p >>= fun acc =>
              weightedSumFrom weights fold acc (taken + 1) rest := by
        rw [weightedSumFrom]
        cases charValue position c <;> rfl
      rw [steps]
      refine first.bind fun p => (refines_word (acc.toInt + p.toInt)).bind fun acc =>
        ih acc (taken + 1) ?_
      intro k p found
      rw [placed (k + 1) p found]
      omega

theorem numeral_append_digits (ds : List (Fin 10)) {v : Nat} (two : v < 100) :
    Text.numeral (ds ++ Text.digits v) = Text.numeral ds * scale v + v := by
  unfold scale
  by_cases one : v < 10
  · rw [Text.digits, dif_pos one, Text.numeral_append, if_neg (Nat.not_le.mpr one)]
  · have tens : v / 10 < 10 := by omega
    rw [Text.digits, dif_neg one, Text.digits, dif_pos tens, ← List.append_assoc,
      Text.numeral_append, Text.numeral_append, if_pos (Nat.not_lt.mp one)]
    dsimp only
    omega

theorem appendValue_numeral {modulus : Nat} (holds : Word.Holds64 modulus) (positive : 0 < modulus)
    (ds : List (Fin 10)) {v : Nat} (sign : v < 36) :
    appendValue modulus (Text.numeral ds % modulus : Nat) v =
      (Text.numeral (ds ++ Text.digits v) % modulus : Nat) := by
  rw [appendValue_eq holds (Nat.mod_lt _ positive) sign, numeral_append_digits ds (by omega),
    Nat.add_mod, Nat.mul_mod, Nat.mod_mod, ← Nat.mul_mod, ← Nat.add_mod]

theorem steps_spell (position : Nat) (cs : List Char) : (spell position cs).steps = [] := by
  induction cs generalizing position with
  | nil => rfl
  | cons c rest ih =>
      unfold spell
      split
      · rename_i v _
        have more := ih (position + 1)
        cases outcome : (spell (position + 1) rest).outcome with
        | error o => rwa [Exact.bind_error outcome]
        | ok ds =>
            rw [Exact.bind_ok outcome, more]
            rfl
      · rfl

/-- What is left of the digits read so far is all that matters of them. -/
theorem remainderFrom_eq {modulus : Nat} (holds : Word.Holds64 modulus) (positive : 0 < modulus)
    (ds : List (Fin 10)) (position : Nat) (cs : List Char) :
    remainderFrom modulus (Text.numeral ds % modulus : Nat) position cs =
      match (spell position cs).outcome with
      | .ok more => .ok (Text.numeral (ds ++ more) % modulus : Nat)
      | .error o => .error o.fault := by
  induction cs generalizing ds position with
  | nil => simp [remainderFrom, spell, pure, Exact.ok]
  | cons c rest ih =>
      unfold remainderFrom spell
      rw [charValue?_eq]
      cases found : value? c with
      | none => rfl
      | some v =>
          dsimp only
          rw [appendValue_numeral holds positive ds (value?_lt found), ih]
          cases outcome : (spell (position + 1) rest).outcome with
          | error o => rw [Exact.bind_error outcome]
          | ok more =>
              rw [Exact.bind_ok outcome]
              show Except.ok _ =
                Except.ok ((Text.numeral (ds ++ (Text.digits v ++ more)) % modulus : Nat) : Int)
              rw [List.append_assoc]

theorem refines_numericMod {modulus : Int64} (positive : 0 < modulus.toInt) (input : List Char) :
    Refines (spell 0 input >>= fun ds => pure (Text.numeral ds % modulus.toInt))
      ((remainderFrom modulus.toInt 0 0 input).map Int64.ofInt) := by
  have bounded := modulus.toInt_lt
  obtain ⟨n, nat⟩ := Int.eq_ofNat_of_zero_le (Int.le_of_lt positive)
  rw [nat] at positive bounded ⊢
  have holds : Word.Holds64 n := ⟨by omega, bounded⟩
  have whole := remainderFrom_eq holds (by omega) [] 0 input
  rw [show Text.numeral [] % n = 0 from Nat.zero_mod _, Int.natCast_zero] at whole
  rw [whole]
  cases outcome : (spell 0 input).outcome with
  | error o =>
      rw [Exact.bind_error outcome, steps_spell]
      exact refines_object
  | ok ds =>
      rw [Exact.bind_ok outcome, steps_spell]
      have small : Text.numeral ds % n < n := Nat.mod_lt _ (by omega)
      refine refines_pure _ ?_
      rw [List.nil_append, toInt_word ⟨by omega, by omega⟩, Int.natCast_emod]

/-- Within a budget of steps, words compute what they make of the exact computation, unless they are
cut off. -/
def Computes (budget : Nat) (e : Exact Int) (m : Counted Int64) : Prop :=
  ∀ start, (m start).1 = .error (.budgetExceeded budget) ∨ Refines e (m start).1

theorem computes_lift {e : Exact Int} (refines : Refines e r) :
    Computes budget e (Counted.lift r) :=
  fun _ => .inr refines

theorem Computes.bind {e : Exact Int} {k : Int → Exact Int} {m : Counted Int64}
    {k' : Int64 → Counted Int64}
    (first : Computes budget e m) (rest : ∀ v : Int64, Computes budget (k v.toInt) (k' v)) :
    Computes budget (e >>= k) (m >>= k') := by
  intro start
  have here := first start
  rcases done : m start with ⟨fault | v, n⟩
  · rw [Counted.bind_error done]
    rw [done] at here
    exact here.imp id Refines.halt
  · rw [Counted.bind_ok done]
    rw [done] at here
    rcases here with cut | exact
    · contradiction
    · exact (rest v n).imp id exact.andThen

theorem Computes.paid {e : Exact Int} {m : Counted Int64} (computes : Computes budget e m)
    (cost : Nat) :
    Computes budget e (Counted.tick budget cost >>= fun _ => m) := by
  intro start
  by_cases short : budget < min (start + cost) Counted.maxSteps
  · have cut : Counted.tick budget cost start =
        (.error (.budgetExceeded budget), min (start + cost) Counted.maxSteps) := if_pos short
    rw [Counted.bind_error cut]
    exact .inl rfl
  · have enough : Counted.tick budget cost start = (.ok (), min (start + cost) Counted.maxSteps) :=
      if_neg short
    rw [Counted.bind_ok enough]
    exact computes _

theorem computes_sumWeighted (input : List Char) (weights : List Int64) (direction : Direction)
    (fold : Bool) :
    Computes budget (exact input (.weightedSum weights direction fold))
      (sumWeighted budget input weights direction fold) := by
  simp only [exact, sumWeighted, List.isEmpty_iff]
  split
  · exact computes_lift refines_object
  · rw [arrange_map]
    refine (computes_lift (refines_weightedSumFrom 0 0 ?_)).paid _
    intro k p taken
    rw [place_order direction taken, Nat.zero_add]

theorem computes_remainder (input : List Char) (modulus : Int64) :
    Computes budget (exact input (.numericMod modulus)) (remainder budget input modulus) := by
  simp only [exact, remainder, Int64.le_iff_toInt_le, Int64.toInt_zero]
  split
  · exact computes_lift refines_object
  · rename_i positive
    exact (computes_lift (refines_numericMod (Int.not_le.mp positive) input)).paid _

theorem holds_iff (c : Comparison) (a b : Int64) :
    c.holds a b = true ↔ c.Relates a.toInt b.toInt := by
  cases c <;>
    simp [Comparison.holds, Comparison.Relates, Int64.toInt_inj, Int64.lt_iff_toInt_lt,
      Int64.le_iff_toInt_le]

mutual

theorem computes_exact {input : List Char} (short : Word.Holds64 input.length) (budget : Nat)
    (f : Formula) :
    Computes budget (exact input f) (eval budget input f) := by
  match f with
  | .const value =>
      simp only [exact, eval]
      exact (computes_lift (refines_pure value rfl)).paid 1
  | .length =>
      simp only [exact, eval]
      exact (computes_lift (refines_pure _ (toInt_word short).symm)).paid 1
  | .digitSum =>
      simp only [exact, eval]
      exact ((computes_lift (refines_digitSumFrom 0 0 input)).paid _).paid 1
  | .weightedSum weights direction fold =>
      simp only [eval]
      exact (computes_sumWeighted input weights direction fold).paid 1
  | .numericMod modulus =>
      simp only [eval]
      exact (computes_remainder input modulus).paid 1
  | .add args =>
      simp only [exact, eval]
      exact (computes_sum short budget 0 args).paid 1
  | .mul args =>
      simp only [exact, eval]
      exact (computes_product short budget 1 args).paid 1
  | .sub l r =>
      simp only [exact, eval]
      apply Computes.paid
      refine (computes_exact short budget l).bind fun a =>
        (computes_exact short budget r).bind fun b => ?_
      exact computes_lift (refines_word (a.toInt - b.toInt))
  | .mod l r =>
      simp only [exact, eval]
      apply Computes.paid
      refine (computes_exact short budget l).bind fun a =>
        (computes_exact short budget r).bind fun b => ?_
      exact computes_lift (refines_modWords a b)
  | .cond l c r y n =>
      simp only [exact, eval]
      apply Computes.paid
      refine (computes_exact short budget l).bind fun a =>
        (computes_exact short budget r).bind fun b => ?_
      by_cases related : c.Relates a.toInt b.toInt
      · rw [if_pos related, if_pos ((holds_iff c a b).mpr related)]
        exact computes_exact short budget y
      · rw [if_neg related, if_neg (mt (holds_iff c a b).mp related)]
        exact computes_exact short budget n

theorem computes_sum {input : List Char} (short : Word.Holds64 input.length) (budget : Nat)
    (acc : Int64) (args : List Formula) :
    Computes budget (accumulate (· + ·) acc.toInt (exactAll input args))
      (evalSum budget input acc args) := by
  match args with
  | [] =>
      simp only [exactAll, accumulate, evalSum]
      exact computes_lift (refines_pure acc rfl)
  | f :: rest =>
      simp only [exactAll, accumulate, evalSum]
      refine (computes_exact short budget f).bind fun v => ?_
      exact (computes_lift (refines_word (acc.toInt + v.toInt))).bind fun acc =>
        computes_sum short budget acc rest

theorem computes_product {input : List Char} (short : Word.Holds64 input.length) (budget : Nat)
    (acc : Int64) (args : List Formula) :
    Computes budget (accumulate (· * ·) acc.toInt (exactAll input args))
      (evalProduct budget input acc args) := by
  match args with
  | [] =>
      simp only [exactAll, accumulate, evalProduct]
      exact computes_lift (refines_pure acc rfl)
  | f :: rest =>
      simp only [exactAll, accumulate, evalProduct]
      refine (computes_exact short budget f).bind fun v => ?_
      exact (computes_lift (refines_word (acc.toInt * v.toInt))).bind fun acc =>
        computes_product short budget acc rest

end

/-- An evaluation that is not cut off yields the exact value, or overflows because a step of the
exact evaluation does not fit a word, or objects to what the exact evaluation objects to; and a sign
that it objects to stands where it says. A word holds the length of an input in memory. -/
theorem eval_exact {input : List Char} (short : Word.Holds64 input.length) (f : Formula)
    (uncut : (eval budget input f start).1 ≠ .error (.budgetExceeded budget)) :
    match (eval budget input f start).1 with
    | .ok v => (∀ s ∈ (exact input f).steps, s.Fits) ∧ (exact input f).outcome = .ok v.toInt
    | .error .overflow => ∃ s ∈ (exact input f).steps, ¬ s.Fits
    | .error fault => (∀ s ∈ (exact input f).steps, s.Fits) ∧
        ∃ o, (exact input f).outcome = .error o ∧ o.fault = fault ∧ o.Names input := by
  have computed := computes_exact short budget f start
  generalize (eval budget input f start).1 = result at uncut computed ⊢
  rcases computed with cut | refines
  · contradiction
  · cases refines with
    | value fits same => exact ⟨fits, same⟩
    | @objection o fits same =>
        have placed := objects_exact input f o same
        cases o <;> exact ⟨fits, _, same, rfl, placed⟩
    | overflow unfit => exact unfit

/-- From the right, the hyphen is reached second; its position counts from the left. Twice the
greatest word overflows, in the product and not before. -/
theorem eval_exact_faults :
    ((eval 100 ['1', '0', '-', '2'] (.weightedSum [2, 1] .rightToLeft true) 0).1 =
        .error (.unsupported 2 '-') ∧
      (exact ['1', '0', '-', '2'] (.weightedSum [2, 1] .rightToLeft true)).outcome =
        .error (.unsupported 2 '-')) ∧
    ((eval 100 [] (.mul [.const 9223372036854775807, .const 2]) 0).1 = .error .overflow ∧
      ∃ s ∈ (exact [] (.mul [.const 9223372036854775807, .const 2])).steps, ¬ s.Fits) := by
  constructor
  · let f : Formula := .weightedSum [2, 1] .rightToLeft true
    have found : (eval 100 ['1', '0', '-', '2'] f 0).1 = .error (.unsupported 2 '-') := rfl
    have uncut : (eval 100 ['1', '0', '-', '2'] f 0).1 ≠ .error (.budgetExceeded 100) := by
      rw [found]
      exact nofun
    have told := eval_exact (by decide) f uncut
    rw [found] at told
    obtain ⟨-, o, outcome, fault, -⟩ := told
    refine ⟨found, ?_⟩
    cases o <;> cases fault
    exact outcome
  · let f : Formula := .mul [.const 9223372036854775807, .const 2]
    have found : (eval 100 [] f 0).1 = .error .overflow := rfl
    have uncut : (eval 100 [] f 0).1 ≠ .error (.budgetExceeded 100) := by
      rw [found]
      exact nofun
    have told := eval_exact (by decide) f uncut
    rw [found] at told
    exact ⟨found, told⟩

end Formula

end Voucher.CheckDigit
