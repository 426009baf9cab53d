import Mathlib.Data.Nat.ModEq
import Voucher.CheckDigit.Builtin
import Voucher.Proofs.CheckDigit.Digits
import Voucher.Proofs.CheckDigit.Formula.Exact

/-! A sign multiplies what is left of the number before it by ten or by a hundred, which
ninety-seven does not divide, so a misprint is still there at the end. A digit and a letter weigh
differently in either order, and three pairs of them come out the same. -/
namespace Voucher.CheckDigit

namespace Mod97

open Formula (charValue? value? signs scale)

variable {a b : Char} {p q x y : List Char} {r s u v : Nat}

theorem value_kind (found : value? a = some v) :
    a.isDigit = decide (v < 10) ∧ a.isAlpha = decide (10 ≤ v) := by
  rw [← Formula.charValue?_eq] at found
  have ascii : a.toNat < 128 := by
    by_contra wide
    rw [Formula.charValue?_wide wide] at found
    contradiction
  have told := Text.of_ascii
    (fun c => (charValue? c).all fun v =>
      c.isDigit == decide (v < 10) && c.isAlpha == decide (10 ≤ v))
    (by decide +kernel) ascii
  rw [found] at told
  simpa using told

theorem isSome_value? (c : Char) : (value? c).isSome = c.isAlphanum := by
  cases found : value? c with
  | none => exact (Formula.value?_none found).symm
  | some v =>
      obtain ⟨digit, letter⟩ := value_kind found
      rw [Char.isAlphanum, digit, letter, Option.isSome_some, eq_comm, Bool.or_eq_true,
        decide_eq_true_eq, decide_eq_true_eq]
      omega

theorem exists_value (alphanumeric : a.isAlphanum = true) : ∃ v, value? a = some v :=
  Option.isSome_iff_exists.mp ((isSome_value? a).trans alphanumeric)

theorem value?_toUpper (c : Char) : value? c.toUpper = value? c := by
  rw [value?, value?, Text.toUpper_toUpper]

theorem signs_value (found : value? a = some v) : signs[v]? = some a.toUpper := by
  obtain ⟨below, same, -⟩ := List.idxOf?_eq_some_iff.mp found
  rw [List.getElem?_eq_getElem below]
  simpa using same

/-- Signs have the same value if case is all that they differ in. -/
theorem toUpper_eq_iff (found : value? a = some u) (found' : value? b = some v) :
    a.toUpper = b.toUpper ↔ u = v := by
  constructor
  · intro same
    rw [← value?_toUpper, same, value?_toUpper, found'] at found
    exact (Option.some.inj found).symm
  · rintro rfl
    exact Option.some.inj ((signs_value found).symm.trans (signs_value found'))

theorem toUpper_digit (digit : a.isDigit = true) : a.toUpper = a := by
  have high : a.toNat ≤ '9'.toNat := (Char.isDigit_iff_toNat.mp digit).2
  unfold Char.toUpper
  split
  · rename_i lower
    have low : 'a'.toNat ≤ a.toNat := UInt32.le_iff_toNat_le.mp lower.1
    exact absurd (Nat.le_trans low high) (by decide)
  · rfl

/-- Two digits that differ, or two letters that differ whatever their case. -/
def Exchanged (a b : Char) : Prop :=
  a.isDigit = true ∧ b.isDigit = true ∧ a ≠ b ∨
    a.isAlpha = true ∧ b.isAlpha = true ∧ a.toUpper ≠ b.toUpper

theorem Exchanged.alphanumeric (exchanged : Exchanged a b) :
    a.isAlphanum = true ∧ b.isAlphanum = true := by
  unfold Char.isAlphanum
  rcases exchanged with ⟨digit, digit', -⟩ | ⟨letter, letter', -⟩
  · simp [digit, digit']
  · simp [letter, letter']

theorem Exchanged.differ (exchanged : Exchanged a b) : a.toUpper ≠ b.toUpper := by
  rcases exchanged with ⟨digit, digit', differ⟩ | ⟨-, -, differ⟩
  · rwa [toUpper_digit digit, toUpper_digit digit']
  · exact differ

theorem Exchanged.values (exchanged : Exchanged a b) :
    ∃ u v, value? a = some u ∧ value? b = some v ∧ (u < 10 ↔ v < 10) ∧ u ≠ v := by
  obtain ⟨u, found⟩ := exists_value exchanged.alphanumeric.1
  obtain ⟨v, found'⟩ := exists_value exchanged.alphanumeric.2
  refine ⟨u, v, found, found', ?_, mt (toUpper_eq_iff found found').mpr exchanged.differ⟩
  obtain ⟨digit, letter⟩ := value_kind found
  obtain ⟨digit', letter'⟩ := value_kind found'
  unfold Exchanged at exchanged
  rw [digit, digit', letter, letter'] at exchanged
  simp only [decide_eq_true_eq] at exchanged
  omega

theorem scale_eq (digits : u < 10 ↔ v < 10) : scale u = scale v := by
  unfold scale
  split <;> split <;> omega

theorem step_eq (r : Nat) (c : Char) :
    step r c = ((value? c).map fun v => (r * scale v + v) % 97).getD r := by
  rw [← Formula.charValue?_eq]
  unfold step Formula.charValue?
  dsimp only
  split
  · rename_i digit
    simp only [Text.isAsciiDigit, Bool.and_eq_true, decide_eq_true_eq, Text.le_iff_toNat] at digit
    have nine : '9'.toNat = 57 := rfl
    have one : ¬ 10 ≤ (Text.asciiUpper c).toNat - 48 := by omega
    simp [scale, one]
  · split
    · rename_i letter
      simp only [Text.isAsciiUpper, Bool.and_eq_true, decide_eq_true_eq,
        Text.le_iff_toNat] at letter
      have first : 'A'.toNat = 65 := rfl
      have two : 10 ≤ (Text.asciiUpper c).toNat - 55 := by omega
      simp [scale, two]
    · rfl

theorem step_value (found : value? a = some v) (r : Nat) : step r a = (r * scale v + v) % 97 := by
  rw [step_eq, found]
  rfl

theorem step_passed (none : value? a = none) (r : Nat) : step r a = r := by
  rw [step_eq, none]
  rfl

theorem step_lt (below : r < 97) (c : Char) : step r c < 97 := by
  cases found : value? c with
  | none => rwa [step_passed found]
  | some v =>
      rw [step_value found]
      exact Nat.mod_lt _ (by decide)

/-- Both multipliers can be undone, for ninety-seven divides neither. -/
theorem step_keeps (below : r < 97) (below' : s < 97) (same : step r a = step s a) : r = s := by
  cases found : value? a with
  | none => rwa [step_passed found, step_passed found] at same
  | some v =>
      rw [step_value found, step_value found, scale] at same
      split at same <;> omega

theorem step_inj (found : value? a = some u) (found' : value? b = some v) (digits : u < 10 ↔ v < 10)
    (same : step r a = step r b) : u = v := by
  rw [step_value found, step_value found', scale_eq digits] at same
  have small := Formula.value?_lt found
  have small' := Formula.value?_lt found'
  have values : u ≡ v [MOD 97] := Nat.ModEq.add_left_cancel' _ same
  exact values.eq_of_lt_of_lt (by omega) (by omega)

theorem step_step (found : value? a = some u) (found' : value? b = some v) (r : Nat) :
    step (step r a) b = (r * (scale u * scale v) + (u * scale v + v)) % 97 := by
  rw [step_value found', step_value found, Nat.add_mod, Nat.mul_mod, Nat.mod_mod, ← Nat.mul_mod,
    ← Nat.add_mod, Nat.add_mul, Nat.mul_assoc, Nat.add_assoc]

/-- What the pair adds is what matters, not the number before it. -/
theorem step_swap_iff (found : value? a = some u) (found' : value? b = some v) :
    step (step r a) b = step (step r b) a ↔ (u * scale v + v) % 97 = (v * scale u + u) % 97 := by
  rw [step_step found found', step_step found' found, Nat.mul_comm (scale v)]
  constructor
  · exact Nat.ModEq.add_left_cancel' _
  · exact Nat.ModEq.add_left _

/-- A letter is worth eleven times a digit. -/
def Elevenfold (u v : Nat) : Prop := u = 1 ∧ v = 11 ∨ u = 2 ∧ v = 22 ∨ u = 3 ∧ v = 33

theorem Elevenfold.kinds (elevenfold : Elevenfold u v) : u < 10 ∧ 10 ≤ v := by
  unfold Elevenfold at elevenfold
  omega

/-- Two digits or two letters count the same in either order only if they are worth the same. -/
theorem alike_inj (below : u < 36) (below' : v < 36) (digits : u < 10 ↔ v < 10)
    (same : (u * scale v + v) % 97 = (v * scale u + u) % 97) : u = v := by
  rw [scale_eq digits, scale] at same
  split at same <;> omega

/-- A digit in front of a letter counts a hundredfold and behind it once, and the
letter once or tenfold. -/
theorem mixed_iff (digit : u < 10) (letter : 10 ≤ v) (below : v < 36) :
    (u * scale v + v) % 97 = (v * scale u + u) % 97 ↔ Elevenfold u v := by
  have eleven : (u * 100 + v) % 97 = (v * 10 + u) % 97 ↔ v = 11 * u := by omega
  rw [scale, scale, if_pos letter, if_neg (Nat.not_le.mpr digit), eleven, Elevenfold]
  omega

theorem swapped_iff (below : u < 36) (below' : v < 36) (differ : u ≠ v) :
    (u * scale v + v) % 97 = (v * scale u + u) % 97 ↔ Elevenfold u v ∨ Elevenfold v u := by
  by_cases digits : u < 10 ↔ v < 10
  · refine iff_of_false (mt (alike_inj below below' digits) differ) ?_
    rintro (elevenfold | elevenfold)
    · exact absurd (digits.mp elevenfold.kinds.1) (Nat.not_lt.mpr elevenfold.kinds.2)
    · exact absurd (digits.mpr elevenfold.kinds.1) (Nat.not_lt.mpr elevenfold.kinds.2)
  · rcases Nat.lt_or_ge u 10 with digit | letter
    · have letter : 10 ≤ v := by omega
      rw [mixed_iff digit letter below', or_iff_left]
      exact fun elevenfold => absurd digit (Nat.not_lt.mpr elevenfold.kinds.2)
    · have digit : v < 10 := by omega
      rw [eq_comm, mixed_iff digit letter below, or_iff_right]
      exact fun elevenfold => absurd elevenfold.kinds.1 (Nat.not_lt.mpr letter)

/-- The signs whose order makes no difference. -/
def confusable : List (Char × Char) := [('1', 'B'), ('2', 'M'), ('3', 'X')]

/-- Two signs, of which the case does not matter, are confusable in either order. -/
def Confused (a b : Char) : Prop :=
  (a.toUpper, b.toUpper) ∈ confusable ∨ (b.toUpper, a.toUpper) ∈ confusable

instance (a b : Char) : Decidable (Confused a b) := inferInstanceAs (Decidable (_ ∨ _))

theorem confusable_iff (found : value? a = some u) (found' : value? b = some v) :
    (a.toUpper, b.toUpper) ∈ confusable ↔ Elevenfold u v := by
  have first : (a.toUpper = '1' ↔ u = 1) ∧ (b.toUpper = 'B' ↔ v = 11) :=
    ⟨toUpper_eq_iff (b := '1') found rfl, toUpper_eq_iff (b := 'B') found' rfl⟩
  have second : (a.toUpper = '2' ↔ u = 2) ∧ (b.toUpper = 'M' ↔ v = 22) :=
    ⟨toUpper_eq_iff (b := '2') found rfl, toUpper_eq_iff (b := 'M') found' rfl⟩
  have third : (a.toUpper = '3' ↔ u = 3) ∧ (b.toUpper = 'X' ↔ v = 33) :=
    ⟨toUpper_eq_iff (b := '3') found rfl, toUpper_eq_iff (b := 'X') found' rfl⟩
  simp only [confusable, List.mem_cons, List.not_mem_nil, or_false, Prod.mk.injEq, first,
    second, third, Elevenfold]

theorem swapped_iff_confused (found : value? a = some u) (found' : value? b = some v)
    (differ : a.toUpper ≠ b.toUpper) :
    (u * scale v + v) % 97 = (v * scale u + u) % 97 ↔ Confused a b := by
  rw [Confused, confusable_iff found found', confusable_iff found' found]
  exact swapped_iff (Formula.value?_lt found) (Formula.value?_lt found')
    (mt (toUpper_eq_iff found found').mpr differ)

theorem step_toUpper (r : Nat) (c : Char) : step r c.toUpper = step r c := by
  rw [step_eq, step_eq, value?_toUpper]

theorem foldl_lt (below : r < 97) (cs : List Char) : cs.foldl step r < 97 := by
  induction cs generalizing r with
  | nil => exact below
  | cons c cs ih => exact ih (step_lt below c)

theorem remainder_lt (cs : List Char) : remainder cs < 97 := foldl_lt (by decide) cs

theorem foldl_keeps (below : r < 97) (below' : s < 97) (cs : List Char)
    (same : cs.foldl step r = cs.foldl step s) : r = s := by
  induction cs generalizing r s with
  | nil => exact same
  | cons c cs ih => exact step_keeps below below' (ih (step_lt below c) (step_lt below' c) same)

/-- Texts part where one is rewritten, and what follows does not bring them together again. -/
theorem remainder_eq_iff (rewritten : Rewritten p q x y) :
    ∃ r < 97, remainder x = remainder y ↔ p.foldl step r = q.foldl step r := by
  obtain ⟨before, after, rfl, rfl⟩ := rewritten
  have below : before.foldl step 0 < 97 := remainder_lt before
  refine ⟨before.foldl step 0, below, ?_⟩
  simp only [remainder, List.foldl_append]
  constructor
  · exact foldl_keeps (foldl_lt below p) (foldl_lt below q) after
  · intro same
    rw [same]

/-- The letters and digits of a text, in upper case. -/
def written (x : List Char) : List Char := (x.filter Char.isAlphanum).map Char.toUpper

theorem foldl_written (r : Nat) (x : List Char) : (written x).foldl step r = x.foldl step r := by
  induction x generalizing r with
  | nil => rfl
  | cons c x ih =>
      cases alphanumeric : c.isAlphanum with
      | true =>
          have kept : written (c :: x) = c.toUpper :: written x := by simp [written, alphanumeric]
          rw [kept, List.foldl_cons, List.foldl_cons, step_toUpper, ih]
      | false =>
          have none : value? c = none := by
            rw [← Option.isNone_iff_eq_none, ← Option.isSome_eq_false_iff, isSome_value?,
              alphanumeric]
          have dropped : written (c :: x) = written x := by simp [written, alphanumeric]
          rw [dropped, List.foldl_cons, step_passed none, ih]

theorem remainder_written (x : List Char) : remainder (written x) = remainder x := foldl_written 0 x

end Mod97

/-- The digits of a number as a check value. -/
def checkDigits (n : Nat) : List Digit :=
  if n < 10 then lastDigit 0 :: Text.digits n else Text.digits n

theorem twoDigits_eq (n : Nat) : twoDigits n = text (checkDigits n) := by
  unfold twoDigits checkDigits
  split <;> rw [Text.decimal_eq] <;> rfl

theorem numeral_checkDigits (n : Nat) : Text.numeral (checkDigits n) = n := by
  unfold checkDigits
  split
  · exact Text.numeral_digits n
  · exact Text.numeral_digits n

theorem twoDigits_inj {m n : Nat} (same : twoDigits m = twoDigits n) : m = n := by
  rw [twoDigits_eq, twoDigits_eq] at same
  rw [← numeral_checkDigits m, text_inj same, numeral_checkDigits]

theorem mod97_calculate_eq_iff (x y : List Char) :
    Algorithm.mod97.calculate x = Algorithm.mod97.calculate y ↔
      Mod97.remainder x = Mod97.remainder y := by
  have small := Mod97.remainder_lt x
  have small' := Mod97.remainder_lt y
  constructor
  · intro same
    have checks := twoDigits_inj (Except.ok.inj same)
    unfold Mod97.check at checks
    omega
  · intro same
    rw [Algorithm.calculate, Algorithm.calculate, Mod97.check, same, Mod97.check]

/-- A digit for a digit or a letter for a letter always changes the check value, and two letters or
digits change places unnoticed only if they are confusable. Whatever else a text holds does not
count, nor does case. -/
theorem mod97_misses_confused_only (x y : List Char) :
    (∀ a b, Mod97.Exchanged a b → Rewritten [a] [b] x y →
      Algorithm.mod97.calculate x ≠ Algorithm.mod97.calculate y) ∧
    (∀ a b, a.isAlphanum = true → b.isAlphanum = true → a.toUpper ≠ b.toUpper →
      Rewritten [a, b] [b, a] x y →
        (Algorithm.mod97.calculate x = Algorithm.mod97.calculate y ↔ Mod97.Confused a b)) ∧
    (Mod97.written x = Mod97.written y →
      Algorithm.mod97.calculate x = Algorithm.mod97.calculate y) := by
  refine ⟨?_, ?_, ?_⟩
  · intro a b exchanged rewritten
    obtain ⟨u, v, found, found', digits, differ⟩ := exchanged.values
    obtain ⟨r, -, iff⟩ := Mod97.remainder_eq_iff rewritten
    rw [Ne, mod97_calculate_eq_iff, iff]
    exact fun same => differ (Mod97.step_inj found found' digits same)
  · intro a b alphanumeric alphanumeric' differ rewritten
    obtain ⟨u, found⟩ := Mod97.exists_value alphanumeric
    obtain ⟨v, found'⟩ := Mod97.exists_value alphanumeric'
    obtain ⟨r, -, iff⟩ := Mod97.remainder_eq_iff rewritten
    rw [mod97_calculate_eq_iff, iff]
    exact (Mod97.step_swap_iff found found').trans (Mod97.swapped_iff_confused found found' differ)
  · intro same
    rw [mod97_calculate_eq_iff, ← Mod97.remainder_written x, same, Mod97.remainder_written]

/-- The 1 and the b of A1b7 may change places, the A and the 1 may not, nor may another letter
replace the b. A hyphen and the case of the letters do not count. -/
theorem mod97_misses_confused_only_pair :
    Algorithm.mod97.calculate ['A', '1', 'b', '7'] =
      Algorithm.mod97.calculate ['A', 'b', '1', '7'] ∧
      Algorithm.mod97.calculate ['A', '1', 'b', '7'] ≠
        Algorithm.mod97.calculate ['1', 'A', 'b', '7'] ∧
      Algorithm.mod97.calculate ['A', '1', 'b', '7'] ≠
        Algorithm.mod97.calculate ['A', '1', 'c', '7'] ∧
      Algorithm.mod97.calculate ['A', '1', 'b', '7'] =
        Algorithm.mod97.calculate ['a', '1', '-', 'B', '7'] := by
  obtain ⟨-, swapped, -⟩ := mod97_misses_confused_only ['A', '1', 'b', '7'] ['A', 'b', '1', '7']
  obtain ⟨-, swapped', -⟩ := mod97_misses_confused_only ['A', '1', 'b', '7'] ['1', 'A', 'b', '7']
  obtain ⟨replaced, -, -⟩ := mod97_misses_confused_only ['A', '1', 'b', '7'] ['A', '1', 'c', '7']
  obtain ⟨-, -, same⟩ := mod97_misses_confused_only ['A', '1', 'b', '7'] ['a', '1', '-', 'B', '7']
  refine ⟨?_, ?_, ?_, same rfl⟩
  · rw [swapped '1' 'b' rfl rfl (by decide) ⟨['A'], ['7'], rfl, rfl⟩]
    decide
  · rw [Ne, swapped' 'A' '1' rfl rfl (by decide) ⟨[], ['b', '7'], rfl, rfl⟩]
    decide
  · exact replaced 'b' 'c' (.inr ⟨rfl, rfl, by decide⟩) ⟨['A', '1'], ['7'], rfl, rfl⟩

end Voucher.CheckDigit
