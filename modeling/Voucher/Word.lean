/-!
Machine words: the ranges of signed ones, and sums of unsigned ones that are taken only where they
fit.
-/
namespace Voucher.Word

/-- A signed word of 64 bits holds the integer. -/
abbrev Holds64 (i : Int) : Prop := -9223372036854775808 ≤ i ∧ i < 9223372036854775808

/-- A signed word of 32 bits holds the integer. -/
abbrev Holds32 (i : Int) : Prop := -2147483648 ≤ i ∧ i < 2147483648

/-- An unsigned word of 32 bits holds the number. -/
abbrev HoldsU32 (n : Nat) : Prop := n < 4294967296

/-- The largest signed word of 128 bits. -/
def max128 : Int := 170141183460469231731687303715884105727

/-- An integer as a signed word of 128 bits, which wraps around. -/
def wrap128 (i : Int) : Int := i.bmod 340282366920938463463374607431768211456

theorem wrap128_eq {i : Int} (low : 0 ≤ i) (high : i ≤ max128) : wrap128 i = i := by
  unfold max128 at high
  exact Int.bmod_eq_of_le (by omega) (by omega)

/-- The sum of two words of 64 bits; a sum that wraps around lies below its summands. -/
def add? (a b : UInt64) : Option UInt64 := if a ≤ a + b then some (a + b) else none

theorem le_add_iff {a b : UInt64} : a ≤ a + b ↔ (a + b).toNat = a.toNat + b.toNat := by
  have left := a.toNat_lt
  have right := b.toNat_lt
  rw [UInt64.le_iff_toNat_le, UInt64.toNat_add]
  omega

/-- A sum is taken exactly where it is exact. -/
theorem add?_eq_some_iff {a b c : UInt64} : add? a b = some c ↔ c.toNat = a.toNat + b.toNat := by
  constructor
  · intro added
    unfold add? at added
    split at added
    · rename_i fits
      obtain rfl := Option.some.inj added
      exact le_add_iff.mp fits
    · contradiction
  · intro sum
    have whole : a + b = c := by
      rw [← UInt64.toNat_inj, UInt64.toNat_add, sum]
      exact Nat.mod_eq_of_lt (sum ▸ c.toNat_lt)
    rw [add?, if_pos (le_add_iff.mpr (by rw [whole, sum])), whole]

end Voucher.Word
