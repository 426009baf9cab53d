import Voucher.Instant

/-! The order of instants, and how it goes with adding a time. -/
namespace Voucher.Instant

variable {a b c : Instant}

theorem lt_iff : a.lt b = true ↔ a.seconds < b.seconds ∨ a.seconds = b.seconds ∧
    a.nanos < b.nanos := by
  simp [lt]

theorem le_iff : a.le b = true ↔ a.seconds < b.seconds ∨ a.seconds = b.seconds ∧
    a.nanos ≤ b.nanos := by
  simp only [le, Bool.not_eq_true', Bool.eq_false_iff, ne_eq, lt_iff]
  omega

theorem not_le : ¬ a.le b = true ↔ b.lt a = true := by
  simp [le]

theorem le_refl (a : Instant) : a.le a := by
  rw [le_iff]
  omega

theorem lt_of_le_of_lt (first : a.le b) (second : b.lt c) : a.lt c := by
  rw [le_iff] at first
  rw [lt_iff] at second ⊢
  omega

theorem lt_of_lt_of_le (first : a.lt b) (second : b.le c) : a.lt c := by
  rw [le_iff] at second
  rw [lt_iff] at first ⊢
  omega

theorem le_trans (first : a.le b) (second : b.le c) : a.le c := by
  rw [le_iff] at first second ⊢
  omega

/-- Adding a time does not lead back, not even from within a leap second. -/
theorem le_addNanos (t : Instant) (n : Nat) : t.le (t.addNanos n) := by
  rw [le_iff]
  unfold addNanos ofNanos totalNanos
  simp only [Int.fdiv_eq_ediv_of_nonneg _ (by decide : (0 : Int) ≤ 1000000000),
    Int.fmod_eq_emod_of_nonneg _ (by decide : (0 : Int) ≤ 1000000000)]
  omega

theorem lt_addNanos (t : Instant) {n : Nat} (positive : 0 < n) : t.lt (t.addNanos n) := by
  rw [lt_iff]
  unfold addNanos ofNanos totalNanos
  simp only [Int.fdiv_eq_ediv_of_nonneg _ (by decide : (0 : Int) ≤ 1000000000),
    Int.fmod_eq_emod_of_nonneg _ (by decide : (0 : Int) ≤ 1000000000)]
  omega

theorem totalNanos_ofNanos (n : Int) : (ofNanos n).totalNanos = n := by
  unfold ofNanos totalNanos
  simp only [Int.fdiv_eq_ediv_of_nonneg _ (by decide : (0 : Int) ≤ 1000000000),
    Int.fmod_eq_emod_of_nonneg _ (by decide : (0 : Int) ≤ 1000000000)]
  omega

theorem addNanos_addNanos (t : Instant) (m n : Int) :
    (t.addNanos m).addNanos n = t.addNanos (m + n) := by
  unfold addNanos
  rw [totalNanos_ofNanos, Int.add_assoc]

/-- The longer time leads further. -/
theorem addNanos_le_addNanos (t : Instant) {m n : Int} (shorter : m ≤ n) :
    (t.addNanos m).le (t.addNanos n) := by
  obtain ⟨k, rfl⟩ := Int.le.dest shorter
  rw [← addNanos_addNanos]
  exact le_addNanos _ k

theorem addNanos_lt_addNanos (t : Instant) {m n : Int} (shorter : m < n) :
    (t.addNanos m).lt (t.addNanos n) := by
  obtain ⟨k, rfl⟩ := Int.lt.dest shorter
  rw [← addNanos_addNanos]
  exact lt_addNanos _ k.succ_pos

end Voucher.Instant
