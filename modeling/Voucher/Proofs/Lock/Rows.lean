import Voucher.Lock.Rows
import Voucher.Proofs.Keyed

/-! What the commands of the lock table of a database do to its rows. -/
namespace Voucher.Lock.Rows

variable {t u : Rows} {key other owner : String} {now : Instant}

theorem row?_of_rows (same : u.rows = t.rows) (key : String) : u.row? key = t.row? key := by
  rw [row?, row?, same]

theorem row?_put_self (t : Rows) (key : String) (row : Row) : (t.put key row).row? key = some row :=
  Keyed.lookup_putMember_self key row t.rows

theorem row?_put_ne (t : Rows) (ne : other ≠ key) (row : Row) :
    (t.put key row).row? other = t.row? other :=
  Keyed.lookup_putMember_ne ne row t.rows

theorem row?_remove_ne (t : Rows) (ne : other ≠ key) : (t.remove key).row? other = t.row? other :=
  Keyed.lookup_filter_ne t.rows ne

/-- Only a row whose lease is over is purged. -/
theorem purge_cases (t : Rows) (key : String) (now : Instant) :
    (∃ row, t.row? key = some row ∧ row.expiry.lt now ∧
      (t.purge key now).2.rows = (t.remove key).rows) ∨
      (t.purge key now).2.rows = t.rows := by
  unfold purge perform
  by_cases down : t.isDown
  · simp [down]
  · cases found : t.row? key with
    | none => simp [down, found]
    | some row => by_cases lapsed : row.expiry.lt now <;> simp [down, found, lapsed]

/-- A claim is granted on a key without a row only, and otherwise does nothing. -/
theorem claim_cases (t : Rows) (key owner : String) (lease : Nat) (now : Instant) :
    ((t.claim key owner lease now).1 = .ok true ∧ t.row? key = none ∧
        (t.claim key owner lease now).2.rows =
          (t.put key ⟨owner, now.addNanos (lease * millisecond)⟩).rows) ∨
      ((t.claim key owner lease now).1 ≠ .ok true ∧
        (t.claim key owner lease now).2.rows = t.rows) := by
  unfold claim perform
  by_cases down : t.isDown
  · simp [down]
  · cases found : t.row? key <;> simp [down, found]

theorem claim_free (up : t.isDown = false) (free : t.row? key = none) (owner : String) (lease : Nat)
    (now : Instant) : (t.claim key owner lease now).1 = .ok true := by
  simp [claim, perform, up, free]

/-- Purging a row whose lease is over leaves room for another. -/
theorem purge_lapsed (up : t.isDown = false)
    (lapsed : ∀ row, t.row? key = some row → row.expiry.lt now) :
    (t.purge key now).1 = .ok () ∧ (t.purge key now).2.isDown = false ∧
      (t.purge key now).2.row? key = none := by
  have reached : ¬ t.isDown = true := by simp [up]
  unfold purge perform
  rw [if_neg reached]
  cases found : t.row? key with
  | none =>
      simp only [found]
      exact ⟨trivial, up, found⟩
  | some row =>
      simp only [found, if_pos (lapsed row found)]
      exact ⟨trivial, up, Keyed.lookup_filter_self t.rows key⟩

/-- Only its owner removes a row by giving the key up. -/
theorem yieldRow_cases (t : Rows) (key owner : String) :
    (∃ row, t.row? key = some row ∧ row.owner = owner ∧
        (t.yieldRow key owner).2.rows = (t.remove key).rows) ∨
      (t.yieldRow key owner).2.rows = t.rows := by
  unfold yieldRow perform
  by_cases down : t.isDown
  · simp [down]
  · cases found : t.row? key with
    | none => simp [down, found]
    | some row => by_cases own : row.owner = owner <;> simp [down, found, own]

end Voucher.Lock.Rows
