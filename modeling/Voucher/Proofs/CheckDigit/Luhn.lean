import Voucher.Proofs.CheckDigit.Sum

/-! In a code with its check digit the places count once and twice in turn, from the right, and the
whole is a multiple of ten. A digit and the digit that its double makes are as far from each other
as those of another digit only for zero and nine, which is the one pair of neighbours that may
change places unnoticed. -/
namespace Voucher.CheckDigit

namespace Luhn

theorem term_add_two (i : Nat) : term (i + 2) = term i := by
  funext d
  rw [term, term, Nat.add_mod_right]

/-- A digit from five on loses nine where it is doubled. -/
theorem term_cases (i : Nat) (d : Digit) :
    i % 2 = 1 ∧ term i d = d.val ∨
      i % 2 = 0 ∧ (d.val < 5 ∧ term i d = 2 * d.val ∨ 5 ≤ d.val ∧ term i d + 9 = 2 * d.val) := by
  unfold term
  split
  · split <;> omega
  · omega

theorem term_inj (i : Nat) {a b : Digit} (same : term i a % 10 = term i b % 10) : a = b := by
  have left := term_cases i a
  have right := term_cases i b
  rw [Fin.ext_iff]
  omega

/-- Two digits that are zero and nine, in either order. -/
def ZeroNine (a b : Digit) : Prop := a.val = 0 ∧ b.val = 9 ∨ a.val = 9 ∧ b.val = 0

theorem zeroNine_iff (a b : Digit) :
    ZeroNine a b ↔ Text.digitChar a = '0' ∧ Text.digitChar b = '9' ∨
      Text.digitChar a = '9' ∧ Text.digitChar b = '0' := by
  have sign : ∀ d e : Digit, Text.digitChar d = Text.digitChar e ↔ d.val = e.val := fun d e =>
    ⟨fun same => congrArg Fin.val (Text.digitChar_inj d e same),
      fun same => congrArg _ (Fin.ext same)⟩
  have zero : '0' = Text.digitChar 0 := rfl
  have nine : '9' = Text.digitChar 9 := rfl
  rw [zero, nine, sign, sign, sign, sign]
  rfl

/-- Of two digits side by side it matters which one is doubled, unless they are zero and nine. -/
theorem term_swap_iff (i : Nat) {a b : Digit} (differ : a ≠ b) :
    (term i a + term (i + 1) b) % 10 = (term i b + term (i + 1) a) % 10 ↔ ZeroNine a b := by
  have left := term_cases i a
  have left' := term_cases (i + 1) b
  have right := term_cases i b
  have right' := term_cases (i + 1) a
  rw [Ne, Fin.ext_iff] at differ
  unfold ZeroNine
  omega

/-- The sum of a text, however large. -/
def total (x : List Char) : Nat := sumFromRight term (x.map digitOf)

theorem total_text (ds : List Digit) : total (text ds) = sumFromRight term ds := by
  rw [total, map_digitOf_text]

/-- As long as a word holds the sum, the check digit is what the sum lacks to a multiple of ten. -/
theorem check_eq {ds : List Digit} (holds : Word.HoldsU32 (total (text ds))) :
    check ds = (10 - total (text ds) % 10) % 10 := by
  rw [check, ofSum, sum, wordSum_toNat, ← total_text, Nat.mod_eq_of_lt holds]

/-- The sum of a full code, whose check digit counts once. -/
def fullSum (ds : List Digit) : Nat := sumFromRight (fun i => term (i + 1)) ds

theorem fullSum_concat (ds : List Digit) (d : Digit) :
    fullSum (ds ++ [d]) = d.val + total (text ds) := by
  have moved : (fun i => term (i + 1 + 1)) = term := funext term_add_two
  have once : term (0 + 1) d = d.val := rfl
  rw [fullSum, sumFromRight_concat, moved, once, total_text]

def checkDigit (ds : List Digit) : Digit := lastDigit (check ds)

theorem checkDigit_val (ds : List Digit) : (checkDigit ds).val = check ds :=
  Nat.mod_eq_of_lt (Nat.mod_lt _ (by decide))

theorem fullSum_mod_eq_zero_iff {ds : List Digit} {d : Digit}
    (holds : Word.HoldsU32 (total (text ds))) :
    fullSum (ds ++ [d]) % 10 = 0 ↔ d = checkDigit ds := by
  have small := d.isLt
  rw [fullSum_concat, Fin.ext_iff, checkDigit_val, check_eq holds]
  omega

theorem fullSum_substituted {xs ys : List Digit} (substituted : Substituted xs ys) :
    fullSum xs % 10 ≠ fullSum ys % 10 := by
  obtain ⟨a, b, differ, rewritten⟩ := substituted
  obtain ⟨i, iff⟩ := rewritten.sumFromRight_mod_eq_iff rfl (fun i => term (i + 1)) 10
  exact fun same => differ (term_inj (i + 1) (iff.mp same))

/-- Neighbours that change places keep the sum only if they are zero and nine. -/
theorem fullSum_transposed_iff {a b : Digit} {xs ys : List Digit} (differ : a ≠ b)
    (rewritten : Rewritten [a, b] [b, a] xs ys) :
    fullSum xs % 10 = fullSum ys % 10 ↔ ZeroNine a b := by
  obtain ⟨i, iff⟩ := rewritten.sumFromRight_mod_eq_iff rfl (fun i => term (i + 1)) 10
  refine iff.trans ((term_swap_iff (i + 1) differ.symm).trans ?_)
  exact or_comm.trans (or_congr and_comm and_comm)

end Luhn

theorem luhn_gives : Algorithm.luhn.Gives Luhn.checkDigit := by
  intro input
  simp only [Luhn.checkDigit_val]
  rfl

/-- A full code is accepted if its sum is a multiple of ten. -/
theorem luhn_validate_iff {y : List Char} {d : Char} {full : List Digit}
    (written : y ++ [d] = text full) (holds : Word.HoldsU32 (Luhn.total y)) :
    Algorithm.luhn.validate y [d] = true ↔ Luhn.fullSum full % 10 = 0 := by
  rw [luhn_gives.validate_text_iff written]
  rcases List.eq_nil_or_concat full with rfl | ⟨ds, e, rfl⟩
  · exact absurd written (by simp [text])
  · rw [List.concat_eq_append, text_append] at written
    obtain ⟨rfl, -⟩ := List.append_inj' written rfl
    rw [List.concat_eq_append, Luhn.fullSum_mod_eq_zero_iff holds]
    constructor
    · rintro ⟨es, same⟩
      obtain ⟨rfl, last⟩ := List.append_inj' same rfl
      exact (List.cons.inj last).1
    · rintro rfl
      exact ⟨ds, rfl⟩

/-- In a code with its check digit no digit can be replaced by another sign so that the check digit
is right, and two neighbours that differ can change places only if they are zero and nine. All sums
are meant to fit the word in which they are taken. -/
theorem luhn_misses_zero_nine_only {x : List Char} (numeric : ∀ c ∈ x, c.isDigit = true)
    (holds : Word.HoldsU32 (Luhn.total x)) :
    ∃ c, Algorithm.luhn.calculate x = .ok [c] ∧
      (∀ y d, Word.HoldsU32 (Luhn.total y) → Substituted (x ++ [c]) (y ++ [d]) →
        Algorithm.luhn.validate y [d] = false) ∧
      ∀ a b y d, a ≠ b → Word.HoldsU32 (Luhn.total y) →
        Rewritten [a, b] [b, a] (x ++ [c]) (y ++ [d]) →
        (Algorithm.luhn.validate y [d] = true ↔ a = '0' ∧ b = '9' ∨ a = '9' ∧ b = '0') := by
  obtain ⟨ds, rfl⟩ := exists_text numeric
  have code : text ds ++ [Text.digitChar (Luhn.checkDigit ds)] =
      text (ds ++ [Luhn.checkDigit ds]) :=
    (text_append ds [Luhn.checkDigit ds]).symm
  have multiple : Luhn.fullSum (ds ++ [Luhn.checkDigit ds]) % 10 = 0 :=
    (Luhn.fullSum_mod_eq_zero_iff holds).mpr rfl
  refine ⟨_, luhn_gives.calculate_text ds, ?_, ?_⟩
  · intro y d held substituted
    rw [← Bool.not_eq_true]
    intro accepted
    obtain ⟨es, written⟩ := luhn_gives.validate_iff.mp accepted
    have kept := (luhn_validate_iff written held).mp accepted
    rw [code, written] at substituted
    apply Luhn.fullSum_substituted (substituted.of_map Text.digitChar_inj)
    rw [multiple, kept]
  · intro a b y d differ held swapped
    rw [code] at swapped
    obtain ⟨a, b, full, rfl, rfl, written, found⟩ := swapped.swap_of_map
    have kept :=
      Luhn.fullSum_transposed_iff (fun same => differ (congrArg Text.digitChar same)) found
    rw [multiple, eq_comm] at kept
    rw [luhn_validate_iff written held, kept, Luhn.zeroNine_iff]

/-- The check digit of 09 is 1. It is right for 90 too, but not for 01 with a 9 behind it, nor can a
2 replace it. -/
theorem luhn_misses_zero_nine_only_first :
    Algorithm.luhn.calculate ['0', '9'] = .ok ['1'] ∧
      Algorithm.luhn.validate ['0', '9'] ['2'] = false ∧
      Algorithm.luhn.validate ['9', '0'] ['1'] = true ∧
      Algorithm.luhn.validate ['0', '1'] ['9'] = false := by
  have numeric : ∀ c ∈ ['0', '9'], c.isDigit = true := List.all_eq_true.mp rfl
  obtain ⟨c, calculated, replaced, swapped⟩ := luhn_misses_zero_nine_only numeric (by decide)
  have value : Algorithm.luhn.calculate ['0', '9'] = .ok ['1'] := rfl
  obtain rfl : c = '1' := by simpa [value] using calculated.symm
  refine ⟨value, replaced _ _ (by decide) ?_, ?_, ?_⟩
  · exact ⟨'1', '2', by decide, ['0', '9'], [], rfl, rfl⟩
  · exact (swapped '0' '9' _ _ (by decide) (by decide) ⟨[], ['1'], rfl, rfl⟩).mpr (.inl ⟨rfl, rfl⟩)
  · rw [← Bool.not_eq_true, swapped '9' '1' _ _ (by decide) (by decide) ⟨['0'], [], rfl, rfl⟩]
    decide

end Voucher.CheckDigit
