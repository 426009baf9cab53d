import Mathlib.Data.List.Induction
import Voucher.Proofs.Instant
import Voucher.Proofs.Lock.Table

/-! Exclusion within one process. Whatever is tried and given up, in the order of a clock that does
not go back, a try is granted if and only if no guard of its key is alive: none that was granted
before, has not been given up since, and has a lease that is not yet over. -/
namespace Voucher.Lock.Table

/-- What happens at a lock table. A guard that is dropped gives its key up like
one that is released. -/
inductive Event where
  | attempt (key owner : String) (lease : Nat) (now : Instant)
  | giveUp (key owner : String)
  deriving DecidableEq

namespace Event

def key : Event → String
  | attempt key .. | giveUp key _ => key

/-- The clock as an attempt reads it. -/
def instant? : Event → Option Instant
  | attempt _ _ _ now => some now
  | giveUp .. => none

def apply : Event → Table → Table
  | attempt key owner lease now, t => (t.tryLock key owner lease now).2
  | giveUp key owner, t => (t.release key owner).2

end Event

/-- The table after events, the first one first. -/
def replay (events : List Event) (t : Table) : Table := events.foldl (fun t e => e.apply t) t

/-- The attempt succeeds after events at an empty table. -/
def Granted (before : List Event) (key owner : String) (lease : Nat) (now : Instant) : Prop :=
  ((replay before .empty).tryLock key owner lease now).1 = true

/-- After events at an empty table an owner has a guard of a key that it has not given up; the lease
of the guard may be over. -/
def Guards (events : List Event) (key owner : String) (expiry : Instant) : Prop :=
  ∃ before lease now since, events = before ++ .attempt key owner lease now :: since ∧
    Granted before key owner lease now ∧ .giveUp key owner ∉ since ∧ now.addNanos lease = expiry

variable {t : Table} {e : Event} {events before since : List Event} {key other owner : String}
  {lease pause : Nat} {now expiry : Instant} {h : Holding}

@[simp] theorem replay_append (before since : List Event) (t : Table) :
    replay (before ++ since) t = replay since (replay before t) := List.foldl_append

@[simp] theorem replay_cons (e : Event) (events : List Event) (t : Table) :
    replay (e :: events) t = replay events (e.apply t) := rfl

@[simp] theorem replay_nil (t : Table) : replay [] t = t := rfl

theorem tryLock_granted_iff : (t.tryLock key owner lease now).1 = true ↔ t.isFree key now := by
  by_cases free : t.isFree key now
  · simp [tryLock_free free, free]
  · simp [tryLock_busy free, free]

theorem isFree_iff : t.isFree key now ↔ ∀ h, t.holding? key = some h → h.expiry.le now := by
  unfold isFree
  cases t.holding? key <;> simp

/-- What happens to one key leaves the others alone. -/
theorem Event.holding?_apply_ne (e : Event) (t : Table) (ne : other ≠ e.key) :
    (e.apply t).holding? other = t.holding? other := by
  cases e with
  | attempt key owner lease now =>
      by_cases free : t.isFree key now
      · rw [Event.apply, tryLock_free free]
        exact holding?_put_ne t _ ne
      · rw [Event.apply, tryLock_busy free]
  | giveUp key owner =>
      by_cases held : ∀ h, t.holding? key = some h → h.owner ≠ owner
      · rw [Event.apply, release_other held]
      · push Not at held
        obtain ⟨h, held, own⟩ := held
        rw [Event.apply, release_held held own]
        exact holding?_without_ne t ne

theorem Guards.concat (guards : Guards events key owner expiry) (kept : e ≠ .giveUp key owner) :
    Guards (events ++ [e]) key owner expiry := by
  obtain ⟨before, lease, now, since, rfl, granted, unended, ends⟩ := guards
  refine ⟨before, lease, now, since ++ [e], by simp, granted, ?_, ends⟩
  simpa [unended] using Ne.symm kept

/-- Tries a pause apart. -/
def tries (key owner : String) (lease pause : Nat) : Nat → Instant → List Event
  | 0, _ => []
  | n + 1, now => .attempt key owner lease now :: tries key owner lease pause n (now.addNanos pause)

/-- A try that fails is as if it had not been made. -/
theorem acquire_busy (busy : ¬ t.isFree key now) (owner : String) (lease pause attempts : Nat) :
    (t.acquire key owner lease pause (attempts + 1) now).1 =
        (t.acquire key owner lease pause attempts (now.addNanos pause)).1 ∧
      (t.acquire key owner lease pause (attempts + 1) now).2.1 =
        (t.acquire key owner lease pause attempts (now.addNanos pause)).2.1 := by
  rw [acquire, tryLock_busy busy]
  by_cases last : attempts = 0
  · subst last
    exact ⟨rfl, rfl⟩
  · simp [last]

/-- To ask for a lock is to try for it up to a number of times, and the last try tells whether it
was granted. -/
theorem acquire_eq_replay (t : Table) (key owner : String) (lease pause attempts : Nat)
    (now : Instant) :
    ∃ n ≤ attempts, (t.acquire key owner lease pause attempts now).2.1 =
        replay (tries key owner lease pause n now) t ∧
      ((t.acquire key owner lease pause attempts now).1 = true ↔
        ∃ earlier last, tries key owner lease pause n now =
          earlier ++ [.attempt key owner lease last] ∧
          ((replay earlier t).tryLock key owner lease last).1 = true) := by
  induction attempts generalizing now with
  | zero => exact ⟨0, Nat.le_refl 0, rfl, by simp [acquire, tries]⟩
  | succ attempts ih =>
      by_cases free : t.isFree key now
      · refine ⟨1, by omega, ?_, ?_⟩
        · rw [acquire_free free, tries, tries, replay_cons, replay_nil, Event.apply,
            tryLock_free free]
        · rw [acquire_free free]
          exact iff_of_true rfl ⟨[], now, rfl, tryLock_granted_iff.mpr free⟩
      · obtain ⟨n, few, table, granted_iff⟩ := ih (now.addNanos pause)
        obtain ⟨sameResult, sameTable⟩ := acquire_busy free owner lease pause attempts
        have skipped : (Event.attempt key owner lease now).apply t = t := by
          rw [Event.apply, tryLock_busy free]
        refine ⟨n + 1, by omega, by rw [sameTable, table, tries, replay_cons, skipped], ?_⟩
        rw [sameResult, granted_iff, tries]
        constructor
        · rintro ⟨earlier, last, placed, granted⟩
          exact ⟨.attempt key owner lease now :: earlier, last, by rw [placed, List.cons_append],
            by rw [replay_cons, skipped, granted]⟩
        · rintro ⟨earlier, last, placed, granted⟩
          cases earlier with
          | nil =>
              obtain ⟨same, -⟩ := List.cons.inj placed
              cases same
              exact absurd (tryLock_granted_iff.mp granted) free
          | cons e earlier =>
              obtain ⟨rfl, rest⟩ := List.cons.inj placed
              rw [replay_cons, skipped] at granted
              exact ⟨earlier, last, rest, granted⟩

end Voucher.Lock.Table
