import Voucher.Proofs.CheckDigit.Digits

/-! The digits under the operation table are a quasigroup with zeros on the diagonal in which
neighbours do not change places, so a code ends in zero exactly if it carries its check digit. -/
namespace Voucher.CheckDigit

namespace Damm

theorem op_self (a : Digit) : op a a = 0 := by
  revert a
  decide

theorem op_left_cancel {a b c : Digit} (same : op a b = op a c) : b = c := by
  revert a b c
  decide +kernel

theorem op_right_cancel {a b c : Digit} (same : op a c = op b c) : a = b := by
  revert a b c
  decide +kernel

/-- Whatever stands before two digits side by side, it matters which comes first. -/
theorem antisymmetric {a b c : Digit} (same : op (op c a) b = op (op c b) a) : a = b := by
  revert a b c
  decide +kernel

def step (_ : Nat) (s d : Digit) : Digit := op s d

theorem step_faithful : Faithful step where
  state _ _ _ _ same := op_right_cancel same
  letter _ _ _ _ same := op_left_cancel same
  order _ _ _ _ same := antisymmetric same

theorem foldl_eq (i : Nat) (s : Digit) (ds : List Digit) : ds.foldl op s = walk step i s ds := by
  induction ds generalizing i s with
  | nil => rfl
  | cons d ds ih => exact ih (i + 1) (op s d)

theorem check_eq (ds : List Digit) : check ds = walk step 0 0 ds := foldl_eq 0 0 ds

theorem check_concat (ds : List Digit) (d : Digit) : check (ds ++ [d]) = op (check ds) d := by
  rw [check, List.foldl_append]
  rfl

theorem check_concat_eq_zero_iff {ds : List Digit} {d : Digit} :
    check (ds ++ [d]) = 0 ↔ d = check ds := by
  rw [check_concat]
  constructor
  · intro zero
    exact (op_left_cancel ((op_self (check ds)).trans zero.symm)).symm
  · rintro rfl
    exact op_self (check ds)

end Damm

/-- A code has the check value zero if and only if it ends in its check digit; and in such a code
every misprint is noticed. -/
theorem damm_notices_misprints {x : List Char} (numeric : ∀ c ∈ x, c.isDigit = true) :
    ∃ c, Algorithm.damm.calculate x = .ok [c] ∧
      (∀ d, Algorithm.damm.calculate (x ++ [d]) = .ok ['0'] ↔ d = c) ∧
      ∀ y d, Misprinted (x ++ [c]) (y ++ [d]) → Algorithm.damm.validate y [d] = false := by
  obtain ⟨ds, rfl⟩ := exists_text numeric
  refine ⟨_, damm_gives.calculate_text ds, ?_, ?_⟩
  · intro d
    rw [damm_gives.calculate_iff]
    constructor
    · rintro ⟨full, written, zero⟩
      obtain ⟨last, rfl, rfl⟩ := text_concat_iff.mp written
      have carried := Text.digitChar_inj 0 (Damm.check (ds ++ [last])) (List.cons.inj zero).1
      rw [Damm.check_concat_eq_zero_iff.mp carried.symm]
    · rintro rfl
      refine ⟨ds ++ [Damm.check ds], text_concat_iff.mpr ⟨_, rfl, rfl⟩, ?_⟩
      rw [Damm.check_concat_eq_zero_iff.mpr rfl]
      rfl
  · intro y d misprint
    refine damm_gives.notices ?_ ds misprint
    intro xs ys misprint
    apply Damm.step_faithful.walk_ne misprint 0 0
    rw [← Damm.check_eq, ← Damm.check_eq, Damm.check_concat_eq_zero_iff.mpr rfl,
      Damm.check_concat_eq_zero_iff.mpr rfl]

/-- The check digit of 572 is 4; it is missed when an 8 replaces the 7, and when the 4 and the 2
change places. -/
theorem damm_notices_misprints_last :
    Algorithm.damm.calculate ['5', '7', '2'] = .ok ['4'] ∧
      Algorithm.damm.calculate ['5', '7', '2', '4'] = .ok ['0'] ∧
      Algorithm.damm.validate ['5', '8', '2'] ['4'] = false ∧
      Algorithm.damm.validate ['5', '7', '4'] ['2'] = false := by
  have numeric : ∀ c ∈ ['5', '7', '2'], c.isDigit = true := List.all_eq_true.mp rfl
  obtain ⟨c, calculated, ends, notices⟩ := damm_notices_misprints numeric
  have value : Algorithm.damm.calculate ['5', '7', '2'] = .ok ['4'] := rfl
  obtain rfl : c = '4' := by simpa [value] using calculated.symm
  refine ⟨value, (ends '4').mpr rfl, notices _ _ (.inl ?_), notices _ _ (.inr ?_)⟩
  · exact ⟨'7', '8', by decide, ['5'], ['2', '4'], rfl, rfl⟩
  · exact ⟨'2', '4', by decide, ['5', '7'], [], rfl, rfl⟩

end Voucher.CheckDigit
