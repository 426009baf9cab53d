import Mathlib.Data.Nat.ModEq
import Voucher.Proofs.CheckDigit.Digits

/-! Sums over the places of a code, counted from its right end. A misprint changes the terms of the
places where it stands and no others, so what is left of the sum after division changes as these
terms do. -/
namespace Voucher.CheckDigit

variable {f : Nat → Digit → Nat} {p q xs ys : List Digit}

/-- The sum of the terms of places that are numbered from `i` on. -/
def sumFrom (f : Nat → Digit → Nat) (i : Nat) : List Digit → Nat
  | [] => 0
  | d :: ds => f i d + sumFrom f (i + 1) ds

theorem foldr_zipIdx (f : Nat → Digit → Nat) (i : Nat) (ds : List Digit) :
    (ds.zipIdx i).foldr (fun p n => f p.2 p.1 + n) 0 = sumFrom f i ds := by
  induction ds generalizing i with
  | nil => rfl
  | cons d ds ih => rw [List.zipIdx_cons, List.foldr_cons, ih, sumFrom]

theorem sumFromRight_eq (f : Nat → Digit → Nat) (ds : List Digit) :
    sumFromRight f ds = sumFrom f 0 ds.reverse := foldr_zipIdx f 0 ds.reverse

theorem sumFrom_append (f : Nat → Digit → Nat) (i : Nat) (xs ys : List Digit) :
    sumFrom f i (xs ++ ys) = sumFrom f i xs + sumFrom f (i + xs.length) ys := by
  induction xs generalizing i with
  | nil => simp [sumFrom]
  | cons d xs ih =>
      have places : i + 1 + xs.length = i + (xs.length + 1) := by omega
      rw [List.cons_append, sumFrom, ih, sumFrom, List.length_cons, places, Nat.add_assoc]

theorem sumFrom_succ (f : Nat → Digit → Nat) (i : Nat) (ds : List Digit) :
    sumFrom f (i + 1) ds = sumFrom (fun j => f (j + 1)) i ds := by
  induction ds generalizing i with
  | nil => rfl
  | cons d ds ih => rw [sumFrom, sumFrom, ih]

/-- In front of `n` digits stands place `n`. -/
theorem sumFromRight_cons (f : Nat → Digit → Nat) (d : Digit) (ds : List Digit) :
    sumFromRight f (d :: ds) = sumFromRight f ds + f ds.length d := by
  rw [sumFromRight_eq, List.reverse_cons, sumFrom_append, List.length_reverse, Nat.zero_add,
    sumFrom, sumFrom, sumFromRight_eq, Nat.add_zero]

/-- The last digit stands at place zero, and moves the others by one place. -/
theorem sumFromRight_concat (f : Nat → Digit → Nat) (ds : List Digit) (d : Digit) :
    sumFromRight f (ds ++ [d]) = f 0 d + sumFromRight (fun i => f (i + 1)) ds := by
  rw [sumFromRight_eq, List.reverse_append, List.reverse_singleton, List.singleton_append, sumFrom,
    sumFrom_succ, sumFromRight_eq]

/-- In words of 32 bits a sum from the right is the exact sum, less what does not fit. -/
theorem wordSum_eq (f : Nat → Digit → Nat) (ds : List Digit) :
    wordSum f ds = UInt32.ofNat (sumFromRight f ds) := by
  have counted (i : Nat) (n : UInt32) (ds : List Digit) :
      (ds.zipIdx i).foldl (fun n p => n + UInt32.ofNat (f p.2 p.1)) n =
        n + UInt32.ofNat (sumFrom f i ds) := by
    induction ds generalizing i n with
    | nil => exact (UInt32.add_zero n).symm
    | cons d ds ih =>
        rw [List.zipIdx_cons, List.foldl_cons, ih, sumFrom, UInt32.ofNat_add, UInt32.add_assoc]
  rw [wordSum, counted, UInt32.zero_add, sumFromRight_eq]

theorem wordSum_toNat (f : Nat → Digit → Nat) (ds : List Digit) :
    (wordSum f ds).toNat = sumFromRight f ds % 4294967296 := by
  rw [wordSum_eq, UInt32.toNat_ofNat']

/-- From the left, the place of a character is told by how many are still to come. -/
theorem foldl_addPlace (f : Nat → Digit → Nat) (n : UInt32) (cs : List Char) :
    cs.foldl (addPlace f) (cs.length, n) =
      (0, n + UInt32.ofNat (sumFromRight f (cs.map digitOf))) := by
  induction cs generalizing n with
  | nil => exact congrArg (Prod.mk 0) (UInt32.add_zero n).symm
  | cons c cs ih =>
      have place : addPlace f (cs.length + 1, n) c =
          (cs.length, n + UInt32.ofNat (f cs.length (digitOf c))) := rfl
      rw [List.foldl_cons, List.length_cons, place, ih, List.map_cons, sumFromRight_cons,
        List.length_map, UInt32.ofNat_add, UInt32.add_comm (UInt32.ofNat _), UInt32.add_assoc]

theorem joinedSum_eq (f : Nat → Digit → Nat) (values : List (List Char)) :
    joinedSum f values = wordSum f (values.flatten.map digitOf) := by
  have length (n : Nat) : values.foldl (fun n value => n + value.length) n =
      n + values.flatten.length := by
    induction values generalizing n with
    | nil => rfl
    | cons value values ih =>
        rw [List.foldl_cons, ih, List.flatten_cons, List.length_append, Nat.add_assoc]
  rw [joinedSum, length, Nat.zero_add, ← List.foldl_flatten, foldl_addPlace, UInt32.zero_add,
    wordSum_eq]

theorem text_map_digitOf {cs : List Char} (numeric : ∀ c ∈ cs, (Text.digit? c).isSome) :
    text (cs.map digitOf) = cs := by
  rw [text, List.map_map]
  refine (List.map_congr_left fun c member => ?_).trans (List.map_id cs)
  obtain ⟨d, found⟩ := Option.isSome_iff_exists.mp (numeric c member)
  rw [Function.comp_apply, digitOf, found]
  exact (Text.digit?_eq_some_iff.mp found).symm

theorem map_digitOf_text (ds : List Digit) : (text ds).map digitOf = ds := by
  rw [text, List.map_map]
  refine (List.map_congr_left fun d _ => ?_).trans (List.map_id ds)
  rw [Function.comp_apply, digitOf, Text.digit?_digitChar]
  rfl

/-- An algorithm that reads digits accepts nothing where there is anything else. -/
theorem validate_digits {a : Algorithm} {input : List Char} (value : List Digit → Nat)
    (reads : a.calculate input = (readDigits 0 input).map fun ds => Text.decimal (value ds))
    (check : List Char) :
    a.validate input check = (input.all (fun c => (Text.digit? c).isSome) &&
      Text.decimal (value (input.map digitOf)) == check) := by
  by_cases numeric : ∀ c ∈ input, (Text.digit? c).isSome
  · have read : readDigits 0 input = .ok (input.map digitOf) :=
      (readDigits_iff 0).mpr (text_map_digitOf numeric).symm
    rw [Algorithm.validate, reads, read, List.all_eq_true.mpr numeric, Bool.true_and]
    rfl
  · have all : input.all (fun c => (Text.digit? c).isSome) = false :=
      Bool.eq_false_iff.mpr fun every => numeric (List.all_eq_true.mp every)
    rw [Algorithm.validate, reads, all, Bool.false_and]
    cases read : readDigits 0 input with
    | error e => rfl
    | ok ds =>
        -- Then the input is the text of these digits, all of which are read back.
        obtain rfl := (readDigits_iff 0).mp read
        refine absurd (fun c member => ?_) numeric
        obtain ⟨d, -, rfl⟩ := List.mem_map.mp member
        rw [Text.digit?_digitChar, Option.isSome_some]

/-- Values are checked as what they are put together. -/
theorem validateAll_eq (a : Algorithm) (values : List (List Char)) (check : List Char) :
    a.validateAll values check = a.validate values.flatten check := by
  cases a with
  | luhn =>
      rw [validate_digits Luhn.check rfl, List.all_flatten, Luhn.check, Luhn.sum,
        ← joinedSum_eq]
      rfl
  | mod10 =>
      rw [validate_digits Mod10.check rfl, List.all_flatten, Mod10.check, ← joinedSum_eq]
      rfl
  | _ => rfl

theorem add_mod_cancel {n : Nat} (a b : Nat) {c d : Nat} :
    (a + (c + b)) % n = (a + (d + b)) % n ↔ c % n = d % n := by
  constructor
  · intro same
    exact Nat.ModEq.add_right_cancel' b (Nat.ModEq.add_left_cancel' a same)
  · intro same
    exact (Nat.ModEq.add_right b same).add_left a

/-- Where a code is rewritten within its length, only the terms that are rewritten count. -/
theorem Rewritten.sumFromRight_mod_eq_iff (rewritten : Rewritten p q xs ys)
    (even : p.length = q.length) (f : Nat → Digit → Nat) (n : Nat) :
    ∃ i, sumFromRight f xs % n = sumFromRight f ys % n ↔
      sumFrom f i p.reverse % n = sumFrom f i q.reverse % n := by
  obtain ⟨before, after, rfl, rfl⟩ := rewritten
  refine ⟨after.length, ?_⟩
  simp only [sumFromRight_eq, List.reverse_append, List.append_assoc, sumFrom_append,
    List.length_reverse, Nat.zero_add, even]
  exact add_mod_cancel _ _

end Voucher.CheckDigit
