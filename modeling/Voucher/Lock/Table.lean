import Voucher.Lock.Basic

/-!
The lock table of one process. A try succeeds on a free key and on one whose lease has run out; a
release takes effect only if the owner still holds the key.
-/
namespace Voucher.Lock

structure Holding where
  owner : String
  expiry : Instant
  deriving DecidableEq, Inhabited

structure Table where
  holdings : List (String × Holding)
  deriving Inhabited

namespace Table

def empty : Table := ⟨[]⟩

/-- The number of locks, also of those whose lease has run out. -/
def size (t : Table) : Nat := t.holdings.length

def holding? (t : Table) (key : String) : Option Holding := t.holdings.lookup key

/-- The key can be taken. -/
def isFree (t : Table) (key : String) (now : Instant) : Bool :=
  match t.holding? key with
  | some h => h.expiry.le now
  | none => true

def put (t : Table) (key : String) (h : Holding) : Table :=
  ⟨t.holdings.filter (·.1 != key) ++ [(key, h)]⟩

/-- One try, for a lease in nanoseconds. -/
def tryLock (t : Table) (key owner : String) (lease : Nat) (now : Instant) : Bool × Table :=
  if t.isFree key now then (true, t.put key ⟨owner, now.addNanos lease⟩) else (false, t)

/-- Tries up to a number of times, a pause in nanoseconds apart; gives the
instant of the last try. -/
def acquire (t : Table) (key owner : String) (lease pause : Nat) :
    (attempts : Nat) → (now : Instant) → Bool × Table × Instant
  | 0, now => (false, t, now)
  | attempts + 1, now =>
    match t.tryLock key owner lease now with
    | (true, t) => (true, t, now)
    | (false, t) =>
      if attempts = 0 then (false, t, now)
      else acquire t key owner lease pause attempts (now.addNanos pause)

/-- Gives a lock up; says whether its owner still held it. -/
def release (t : Table) (key owner : String) : Bool × Table :=
  match t.holding? key with
  | some h =>
    if h.owner = owner then (true, ⟨t.holdings.filter (·.1 != key)⟩) else (false, t)
  | none => (false, t)

end Table

end Voucher.Lock
