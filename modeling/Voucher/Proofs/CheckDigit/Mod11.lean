import Mathlib.Data.Nat.Prime.Basic
import Voucher.Proofs.CheckDigit.Sum

/-! The weights are smaller than eleven and neighbours weigh differently, so every misprint changes
what is left of the weighted sum. It is missed where both remainders are among the two that share
the check digit zero. -/
namespace Voucher.CheckDigit

namespace Mod11

/-- The weight grows by one from place to place, and goes from seven back to two. -/
theorem weight_succ (i : Nat) :
    weight (i + 1) = weight i + 1 ∨ weight i = 7 ∧ weight (i + 1) = 2 := by
  unfold weight
  omega

/-- Eleven is prime, so it has no divisor in common with a weight. -/
theorem weighted_inj (i : Nat) {a b : Digit}
    (same : a.val * weight i % 11 = b.val * weight i % 11) :
    a = b := by
  have coprime : Nat.Coprime 11 (weight i) :=
    Nat.coprime_of_lt_prime (by unfold weight; omega) (by unfold weight; omega) Nat.prime_eleven
  have digits : a.val ≡ b.val [MOD 11] := Nat.ModEq.cancel_right_of_coprime coprime same
  exact Fin.ext (digits.eq_of_lt_of_lt (by omega) (by omega))

/-- A step of one adds the digit itself. At the turn five times the digits would have to agree. -/
theorem weighted_swap (i : Nat) {a b : Digit}
    (same : (a.val * weight i + b.val * weight (i + 1)) % 11 =
      (b.val * weight i + a.val * weight (i + 1)) % 11) : a = b := by
  rw [Fin.ext_iff]
  rcases weight_succ i with next | ⟨last, first⟩
  · rw [next, Nat.mul_succ, Nat.mul_succ] at same
    omega
  · rw [last, first] at same
    omega

theorem sum_misprinted {xs ys : List Digit} (misprint : Misprinted xs ys) :
    sum xs % 11 ≠ sum ys % 11 := by
  rcases misprint with ⟨a, b, differ, rewritten⟩ | ⟨a, b, differ, rewritten⟩
  · obtain ⟨i, iff⟩ := rewritten.sumFromRight_mod_eq_iff rfl (fun i d => d.val * weight i) 11
    exact fun same => differ (weighted_inj i (iff.mp same))
  · obtain ⟨i, iff⟩ := rewritten.sumFromRight_mod_eq_iff rfl (fun i d => d.val * weight i) 11
    exact fun same => differ (weighted_swap i (iff.mp same)).symm

/-- Of all remainders, only zero and one have the same check digit. -/
theorem check_eq_iff {xs ys : List Digit} (apart : sum xs % 11 ≠ sum ys % 11) :
    check xs = check ys ↔ sum xs % 11 = 0 ∧ sum ys % 11 = 1 ∨ sum xs % 11 = 1 ∧
      sum ys % 11 = 0 := by
  have small := Nat.mod_lt (sum xs) (by decide : 0 < 11)
  have small' := Nat.mod_lt (sum ys) (by decide : 0 < 11)
  unfold check
  split <;> split <;> omega

theorem check_eq_zero {ds : List Digit} (low : sum ds % 11 ≤ 1) : check ds = 0 := if_pos low

def checkDigit (ds : List Digit) : Digit := lastDigit (check ds)

theorem checkDigit_val (ds : List Digit) : (checkDigit ds).val = check ds := by
  refine Nat.mod_eq_of_lt ?_
  unfold check
  split <;> omega

/-- The digits of a text, each times a weight of 2 to 7 by how many stand behind it. -/
def weighed : List Char → Nat
  | [] => 0
  | c :: rest => (c.toNat - '0'.toNat) * (2 + rest.length % 6) + weighed rest

theorem weighed_text (ds : List Digit) : weighed (text ds) = sum ds := by
  induction ds with
  | nil => rfl
  | cons d ds ih =>
      have length : (text ds).length = ds.length := List.length_map _
      have first : weighed (text (d :: ds)) =
          ((Text.digitChar d).toNat - '0'.toNat) * (2 + (text ds).length % 6) + weighed (text ds) :=
            rfl
      rw [first, Text.toNat_digitChar, length, ih, sum, sum, sumFromRight_cons, weight,
        Nat.add_comm]

end Mod11

theorem mod11_gives : Algorithm.mod11.Gives Mod11.checkDigit := by
  intro input
  simp only [Mod11.checkDigit_val]
  rfl

/-- Digits with a misprint have the same check digit exactly if their weighted sums leave zero and
one, and then it is zero. -/
theorem mod11_misses_zero_one_only {x y : List Char} (numeric : ∀ c ∈ x, c.isDigit = true)
    (numeric' : ∀ c ∈ y, c.isDigit = true) (misprint : Misprinted x y) :
    ∃ c d, Algorithm.mod11.calculate x = .ok [c] ∧ Algorithm.mod11.calculate y = .ok [d] ∧
      (c = d ↔ Mod11.weighed x % 11 = 0 ∧ Mod11.weighed y % 11 = 1 ∨
        Mod11.weighed x % 11 = 1 ∧ Mod11.weighed y % 11 = 0) ∧
      (c = d → c = '0') := by
  obtain ⟨xs, rfl⟩ := exists_text numeric
  obtain ⟨ys, rfl⟩ := exists_text numeric'
  have apart := Mod11.sum_misprinted (misprint.of_map Text.digitChar_inj)
  have shared : Text.digitChar (Mod11.checkDigit xs) = Text.digitChar (Mod11.checkDigit ys) ↔
      Mod11.check xs = Mod11.check ys := by
    rw [← Mod11.checkDigit_val, ← Mod11.checkDigit_val, ← Fin.ext_iff]
    exact ⟨Text.digitChar_inj _ _, congrArg Text.digitChar⟩
  refine ⟨_, _, mod11_gives.calculate_text xs, mod11_gives.calculate_text ys, ?_, ?_⟩
  · rw [shared, Mod11.weighed_text, Mod11.weighed_text]
    exact Mod11.check_eq_iff apart
  · intro same
    have remainders := (Mod11.check_eq_iff apart).mp (shared.mp same)
    have zero : Mod11.checkDigit xs = 0 := by
      rw [Fin.ext_iff, Mod11.checkDigit_val]
      exact Mod11.check_eq_zero (by omega)
    rw [zero]
    rfl

/-- The 1 and the 3 weigh two and seven, on either side of the turn, and may change places. -/
theorem mod11_misses_zero_one_only_turn :
    Mod11.weighed ['1', '3', '0', '0', '0', '7', '0'] % 11 = 0 ∧
      Mod11.weighed ['3', '1', '0', '0', '0', '7', '0'] % 11 = 1 ∧
      Algorithm.mod11.calculate ['1', '3', '0', '0', '0', '7', '0'] = .ok ['0'] ∧
      Algorithm.mod11.calculate ['3', '1', '0', '0', '0', '7', '0'] = .ok ['0'] := by
  have numeric : ∀ c ∈ ['1', '3', '0', '0', '0', '7', '0'], c.isDigit = true :=
    List.all_eq_true.mp rfl
  have numeric' : ∀ c ∈ ['3', '1', '0', '0', '0', '7', '0'], c.isDigit = true :=
    List.all_eq_true.mp rfl
  have turned : Misprinted ['1', '3', '0', '0', '0', '7', '0'] ['3', '1', '0', '0', '0',
      '7', '0'] :=
    .inr ⟨'1', '3', by decide, [], ['0', '0', '0', '7', '0'], rfl, rfl⟩
  obtain ⟨c, d, first, second, shared, zero⟩ := mod11_misses_zero_one_only numeric numeric' turned
  have remainders : Mod11.weighed ['1', '3', '0', '0', '0', '7', '0'] % 11 = 0 ∧
      Mod11.weighed ['3', '1', '0', '0', '0', '7', '0'] % 11 = 1 := ⟨rfl, rfl⟩
  obtain rfl := shared.mpr (.inl remainders)
  obtain rfl := zero rfl
  exact ⟨remainders.1, remainders.2, first, second⟩

end Voucher.CheckDigit
