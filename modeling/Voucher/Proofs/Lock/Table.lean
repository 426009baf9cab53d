import Voucher.Lock.Table
import Voucher.Proofs.Keyed

/-! What a try, a run of tries and a release leave in the lock table of a process. -/
namespace Voucher.Lock.Table

variable {t : Table} {key other owner : String} {now : Instant} {lease pause : Nat}

/-- The table without a lock on a key. -/
def without (t : Table) (key : String) : Table := ⟨t.holdings.filter (·.1 != key)⟩

@[simp] theorem holding?_without_self (t : Table) (key : String) :
    (t.without key).holding? key = none :=
  Keyed.lookup_filter_self t.holdings key

theorem holding?_without_ne (t : Table) (ne : other ≠ key) :
    (t.without key).holding? other = t.holding? other :=
  Keyed.lookup_filter_ne t.holdings ne

@[simp] theorem holding?_put_self (t : Table) (key : String) (h : Holding) :
    (t.put key h).holding? key = some h := by
  unfold holding? put
  rw [List.lookup_append, Keyed.lookup_filter_self]
  simp

theorem holding?_put_ne (t : Table) (h : Holding) (ne : other ≠ key) :
    (t.put key h).holding? other = t.holding? other := by
  have apart : (other == key) = false := by simpa using ne
  unfold holding? put
  rw [List.lookup_append, Keyed.lookup_filter_ne t.holdings ne]
  simp [List.lookup_cons, apart]

/-- A free key stays free when any lock is given up. -/
theorem isFree_without (free : t.isFree other now) : (t.without key).isFree other now := by
  by_cases same : other = key
  · subst same
    simp [isFree]
  · rw [isFree, holding?_without_ne t same]
    exact free

/-- Whoever still holds a key gives it up. -/
theorem release_held (held : t.holding? key = some h) (own : h.owner = owner) :
    t.release key owner = (true, t.without key) := by
  simp only [release, held, if_pos own]
  rfl

/-- Whoever does not hold a key changes nothing by giving it up. -/
theorem release_other (held : ∀ h, t.holding? key = some h → h.owner ≠ owner) :
    t.release key owner = (false, t) := by
  unfold release
  cases found : t.holding? key with
  | none => rfl
  | some h => simp [held h found]

@[simp] theorem without_put (t : Table) (key : String) (h : Holding) :
    (t.put key h).without key = t.without key := by
  simp [without, put]

/-- Giving a lock up at once leaves of the key not even what was there before. -/
theorem release_put (t : Table) (key : String) (h : Holding) :
    (t.put key h).release key h.owner = (true, t.without key) := by
  rw [release_held (holding?_put_self t key h) rfl, without_put]

theorem tryLock_free (free : t.isFree key now) (owner : String) (lease : Nat) :
    t.tryLock key owner lease now = (true, t.put key ⟨owner, now.addNanos lease⟩) := by
  rw [tryLock, if_pos free]

theorem tryLock_busy (busy : ¬ t.isFree key now) (owner : String) (lease : Nat) :
    t.tryLock key owner lease now = (false, t) := by
  rw [tryLock, if_neg busy]

/-- A free key is had at the first try. -/
theorem acquire_free (free : t.isFree key now) (owner : String) (lease pause : Nat) (more : Nat) :
    t.acquire key owner lease pause (more + 1) now =
      (true, t.put key ⟨owner, now.addNanos lease⟩, now) := by
  simp only [acquire, tryLock_free free]

/-- Tries that fail leave no trace, and the one that succeeds puts the owner in. -/
theorem acquire_cases (t : Table) (key owner : String) (lease pause attempts : Nat)
    (now : Instant) :
    (∃ last, t.acquire key owner lease pause attempts now = (false, t, last)) ∨
      ∃ expiry last, t.acquire key owner lease pause attempts now =
        (true, t.put key ⟨owner, expiry⟩, last) := by
  induction attempts generalizing now with
  | zero => exact .inl ⟨now, rfl⟩
  | succ attempts ih =>
      by_cases free : t.isFree key now
      · exact .inr ⟨_, now, acquire_free free owner lease pause attempts⟩
      · simp only [acquire, tryLock_busy free]
        split
        · exact .inl ⟨now, rfl⟩
        · exact ih (now.addNanos pause)

end Voucher.Lock.Table
