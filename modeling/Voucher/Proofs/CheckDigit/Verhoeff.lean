import Voucher.Proofs.CheckDigit.Digits

/-! The digits under the multiplication table are a group, and the digit at each place is
moved by one permutation as often as the place says. That permutation keeps two neighbours
from changing places. -/
namespace Voucher.CheckDigit

namespace Verhoeff

theorem mul_assoc (a b c : Digit) : mul (mul a b) c = mul a (mul b c) := by
  revert a b c
  decide +kernel

theorem one_mul (a : Digit) : mul 0 a = a := by
  revert a
  decide

theorem mul_one (a : Digit) : mul a 0 = a := by
  revert a
  decide

theorem inverse_mul (a : Digit) : mul (inverse a) a = 0 := by
  revert a
  decide

theorem mul_inverse (a : Digit) : mul a (inverse a) = 0 := by
  revert a
  decide

theorem mul_left_cancel {a b c : Digit} (same : mul a b = mul a c) : b = c := by
  have undone := congrArg (mul (inverse a)) same
  rwa [← mul_assoc, ← mul_assoc, inverse_mul, one_mul, one_mul] at undone

theorem mul_right_cancel {a b c : Digit} (same : mul a c = mul b c) : a = b := by
  have undone := congrArg (fun d => mul d (inverse c)) same
  simpa only [mul_assoc, mul_inverse, mul_one] using undone

theorem permute_mod (i : Nat) (d : Digit) : permute (i % 8) d = permute i d := by
  rw [permute, permute, Nat.mod_mod]

/-- One place further, a digit is moved once more. -/
theorem permute_succ (i : Nat) (d : Digit) : permute (i + 1) d = permute 1 (permute i d) := by
  have cycle : ∀ (r : Fin 8) (d : Digit), permute (r.val + 1) d = permute 1 (permute r.val d) := by
    decide +kernel
  have moved := cycle ⟨i % 8, Nat.mod_lt i (by decide)⟩ d
  rw [permute_mod, ← permute_mod (i % 8 + 1), Nat.mod_add_mod, permute_mod] at moved
  exact moved

theorem permute_zero (d : Digit) : permute 0 d = d := by
  revert d
  decide

theorem permute_inj (i : Nat) {a b : Digit} (same : permute i a = permute i b) : a = b := by
  have once : ∀ a b : Digit, permute 1 a = permute 1 b → a = b := by decide +kernel
  induction i with
  | zero => rwa [permute_zero, permute_zero] at same
  | succ i ih =>
      rw [permute_succ i, permute_succ i] at same
      exact ih (once _ _ same)

/-- Of two digits side by side it matters which one is moved once more. -/
theorem antisymmetric {a b : Digit} (same : mul a (permute 1 b) = mul b (permute 1 a)) : a = b := by
  revert a b
  decide +kernel

/-- Multiplies by a digit, moved as its place says. -/
def step (i : Nat) (c d : Digit) : Digit := mul c (permute i d)

theorem step_faithful : Faithful step where
  state _ _ _ _ same := mul_right_cancel same
  letter i _ _ _ same := permute_inj i (mul_left_cancel same)
  order i s a b same := by
    unfold step at same
    rw [mul_assoc, mul_assoc, permute_succ i, permute_succ i] at same
    exact permute_inj i (antisymmetric (mul_left_cancel same))

theorem foldl_zipIdx (i : Nat) (c : Digit) (ds : List Digit) :
    (ds.zipIdx i).foldl (fun c p => mul c (permute p.2 p.1)) c = walk step i c ds := by
  induction ds generalizing i c with
  | nil => rfl
  | cons d ds ih => exact ih (i + 1) (mul c (permute i d))

theorem product_eq (ds : List Digit) : product ds = walk step 0 0 ds.reverse :=
  foldl_zipIdx 0 0 ds.reverse

theorem walk_mul (i : Nat) (a b : Digit) (ds : List Digit) :
    walk step i (mul a b) ds = mul a (walk step i b ds) := by
  induction ds generalizing i b with
  | nil => rfl
  | cons d ds ih => rw [walk, step, mul_assoc, ih, walk, step]

/-- The check digit stands at place zero, where it is not moved. -/
theorem product_concat (ds : List Digit) (d : Digit) :
    product (ds ++ [d]) = mul d (walk step 1 0 ds.reverse) := by
  rw [product_eq, List.reverse_append, List.reverse_singleton, List.singleton_append, walk, step,
    permute_zero, one_mul, ← walk_mul, mul_one]

theorem product_check (ds : List Digit) : product (ds ++ [check ds]) = 0 := by
  rw [product_concat, check, product_concat]
  exact (congrArg _ (one_mul _).symm).trans (inverse_mul _)

end Verhoeff

/-- In a code with its check digit every misprint is noticed: no digit can be replaced by another
sign, and no two neighbours that differ can change places, so that the check digit is right. -/
theorem verhoeff_notices_misprints {x : List Char} (numeric : ∀ c ∈ x, c.isDigit = true) :
    ∃ c, Algorithm.verhoeff.calculate x = .ok [c] ∧
      ∀ y d, Misprinted (x ++ [c]) (y ++ [d]) → Algorithm.verhoeff.validate y [d] = false := by
  obtain ⟨ds, rfl⟩ := exists_text numeric
  refine ⟨_, verhoeff_gives.calculate_text ds, ?_⟩
  intro y d misprint
  refine verhoeff_gives.notices ?_ ds misprint
  intro xs ys misprint
  apply Verhoeff.step_faithful.walk_ne misprint.reverse 0 0
  rw [← Verhoeff.product_eq, ← Verhoeff.product_eq, Verhoeff.product_check, Verhoeff.product_check]

/-- The check digit of 236 is 3; it is missed when a 5 replaces it, and when it changes places with
the 6. -/
theorem verhoeff_notices_misprints_last :
    Algorithm.verhoeff.calculate ['2', '3', '6'] = .ok ['3'] ∧
      Algorithm.verhoeff.validate ['2', '3', '6'] ['5'] = false ∧
      Algorithm.verhoeff.validate ['2', '3', '3'] ['6'] = false := by
  have numeric : ∀ c ∈ ['2', '3', '6'], c.isDigit = true := List.all_eq_true.mp rfl
  obtain ⟨c, calculated, notices⟩ := verhoeff_notices_misprints numeric
  have value : Algorithm.verhoeff.calculate ['2', '3', '6'] = .ok ['3'] := rfl
  obtain rfl : c = '3' := by simpa [value] using calculated.symm
  refine ⟨value, notices _ _ (.inl ?_), notices _ _ (.inr ?_)⟩
  · exact ⟨'3', '5', by decide, ['2', '3', '6'], [], rfl, rfl⟩
  · exact ⟨'6', '3', by decide, ['2', '3'], [], rfl, rfl⟩

end Voucher.CheckDigit
