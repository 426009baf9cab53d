import Voucher.Text.Blank
import Voucher.Text.Upper

/-! Characters by their codes. Classes of ASCII characters are ranges of codes, and upper case moves
one such range onto another and leaves all other characters alone. -/
namespace Voucher.Text

theorem of_ascii (P : Char → Prop) (narrow : ∀ n < 128, P (Char.ofNat n)) {c : Char}
    (ascii : c.toNat < 128) :
    P c := by
  have code := narrow c.toNat ascii
  rwa [Char.ofNat_toNat] at code

theorem toNat_ofNat {n : Nat} (valid : n.isValidChar) : (Char.ofNat n).toNat = n := by
  rw [Char.ofNat, dif_pos valid]
  exact UInt32.toNat_ofNatLT ..

theorem le_iff_toNat {c d : Char} : c ≤ d ↔ c.toNat ≤ d.toNat := by
  rw [Char.le_def, UInt32.le_iff_toNat_le]
  rfl

theorem isAsciiLower_eq (c : Char) : isAsciiLower c = c.isLower := rfl

theorem isAsciiUpper_eq (c : Char) : isAsciiUpper c = c.isUpper := (Bool.decide_and _ _).symm

theorem isAsciiDigit_eq (c : Char) : isAsciiDigit c = c.isDigit := rfl

theorem isAlpha_eq (c : Char) : c.isAlpha = (c.isUpper || c.isLower) := rfl

theorem isAsciiLetter_eq (c : Char) : isAsciiLetter c = c.isAlpha := by
  rw [isAsciiLetter, isAsciiLower_eq, isAsciiUpper_eq, Bool.or_comm, isAlpha_eq]

theorem isLower_iff {c : Char} : c.isLower = true ↔ 97 ≤ c.toNat ∧ c.toNat ≤ 122 := by
  rw [← isAsciiLower_eq, isAsciiLower, Bool.and_eq_true, decide_eq_true_eq, decide_eq_true_eq,
    le_iff_toNat, le_iff_toNat]
  rfl

theorem isUpper_iff {c : Char} : c.isUpper = true ↔ 65 ≤ c.toNat ∧ c.toNat ≤ 90 := by
  rw [← isAsciiUpper_eq, isAsciiUpper, Bool.and_eq_true, decide_eq_true_eq, decide_eq_true_eq,
    le_iff_toNat, le_iff_toNat]
  rfl

theorem isDigit_iff {c : Char} : c.isDigit = true ↔ 48 ≤ c.toNat ∧ c.toNat ≤ 57 := by
  rw [← isAsciiDigit_eq, isAsciiDigit, Bool.and_eq_true, decide_eq_true_eq, decide_eq_true_eq,
    le_iff_toNat, le_iff_toNat]
  rfl

theorem isAlpha_iff {c : Char} :
    c.isAlpha = true ↔ 65 ≤ c.toNat ∧ c.toNat ≤ 90 ∨ 97 ≤ c.toNat ∧ c.toNat ≤ 122 := by
  rw [isAlpha_eq, Bool.or_eq_true, isUpper_iff, isLower_iff]

theorem toNat_toUpper (c : Char) :
    c.toUpper.toNat = if 97 ≤ c.toNat ∧ c.toNat ≤ 122 then c.toNat - 32 else c.toNat := by
  have range : 'a'.val ≤ c.val ∧ c.val ≤ 'z'.val ↔ 97 ≤ c.toNat ∧ c.toNat ≤ 122 := by
    rw [UInt32.le_iff_toNat_le, UInt32.le_iff_toNat_le]
    rfl
  unfold Char.toUpper
  split
  · rename_i lower
    have low := range.mp lower
    rw [if_pos low]
    have moved : (c.val + ('A'.val - 'a'.val)).toNat = (c.toNat + 4294967264) % 4294967296 :=
      UInt32.toNat_add ..
    exact moved.trans (by omega)
  · rename_i other
    rw [if_neg (mt range.mpr other)]

theorem toUpper_cases (c : Char) : c.toUpper = c ∨ c.isLower = true ∧ c.toUpper.isUpper = true := by
  rw [← Char.toNat_inj, isLower_iff, isUpper_iff, toNat_toUpper]
  split <;> omega

theorem toUpper_wide {c : Char} (wide : ¬ c.toNat < 128) : c.toUpper = c := by
  rw [← Char.toNat_inj, toNat_toUpper, if_neg (by omega)]

theorem toUpper_toUpper (c : Char) : c.toUpper.toUpper = c.toUpper := by
  rw [← Char.toNat_inj, toNat_toUpper c.toUpper, if_neg]
  rw [toNat_toUpper]
  split <;> omega

theorem isAlpha_toUpper (c : Char) : c.toUpper.isAlpha = c.isAlpha := by
  rw [Bool.eq_iff_iff, isAlpha_iff, isAlpha_iff, toNat_toUpper]
  split <;> omega

theorem isLower_toUpper (c : Char) : c.toUpper.isLower = false := by
  rw [← Bool.not_eq_true, isLower_iff, toNat_toUpper]
  split <;> omega

/-- What is not a letter has no case. -/
theorem toUpper_of_not_isAlpha {c : Char} (letter : c.isAlpha = false) : c.toUpper = c := by
  rw [← Bool.not_eq_true, isAlpha_iff] at letter
  rw [← Char.toNat_inj, toNat_toUpper, if_neg (by omega)]

/-- A letter has another form, which differs from it in case only. -/
theorem exists_other_case {c : Char} (letter : c.isAlpha = true) :
    ∃ d, d ≠ c ∧ d.toUpper = c.toUpper := by
  simp only [← Char.toNat_inj, toNat_toUpper, ne_eq]
  obtain capital | small := isAlpha_iff.mp letter
  · have code : (Char.ofNat (c.toNat + 32)).toNat = c.toNat + 32 := toNat_ofNat (.inl (by omega))
    refine ⟨Char.ofNat (c.toNat + 32), by omega, ?_⟩
    rw [code, if_pos (by omega), if_neg (by omega), Nat.add_sub_cancel]
  · refine ⟨c.toUpper, ?_, ?_⟩
    · rw [toNat_toUpper, if_pos small]
      omega
    · rw [toNat_toUpper, if_pos small, if_neg (by omega)]

theorem isBlank_toUpper (c : Char) : isBlank c.toUpper = isBlank c := by
  unfold isBlank
  rw [toNat_toUpper, Bool.eq_iff_iff]
  simp only [Bool.or_eq_true, Bool.and_eq_true, decide_eq_true_eq, beq_iff_eq]
  split <;> omega

theorem asciiUpper_eq (c : Char) : asciiUpper c = c.toUpper := by
  rw [← Char.toNat_inj, toNat_toUpper, asciiUpper, isAsciiLower_eq]
  split
  · rename_i lower
    have small := isLower_iff.mp lower
    rw [if_pos small, toNat_ofNat (.inl (by omega))]
  · rename_i other
    rw [if_neg (mt isLower_iff.mpr other)]

end Voucher.Text
