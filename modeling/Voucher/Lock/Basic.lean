import Voucher.Instant

/-!
Locks with leases. A lock belongs to a key and an owner and is held in one of three places until it
is released or its lease runs out. Whoever wants it tries a number of times, with a pause between
two tries.
-/
namespace Voucher.Lock

/-- How locks are taken; all times are in milliseconds. -/
structure Config where
  lease : UInt64
  retries : UInt32
  pause : UInt64
  /-- At most this much is added to a pause. -/
  jitter : UInt64
  deriving DecidableEq, Inhabited

namespace Config

def standard : Config := ⟨5000, 3, 200, 100⟩

/-- A lock is tried for at least once. -/
def attempts (c : Config) : Nat := max 1 c.retries.toNat

end Config

/-- Where a lock is held. -/
inductive Place where
  | process
  | keyValue
  | database
  deriving DecidableEq, Inhabited

/-- A lock that was granted. -/
structure Guard where
  key : String
  owner : String
  place : Place
  deriving DecidableEq, Inhabited

/-- Nanoseconds in a millisecond. -/
def millisecond : Nat := 1000000

end Voucher.Lock
