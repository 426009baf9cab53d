import Voucher.Lock.Basic
import Voucher.Service.Error
import Voucher.Service.Script

/-!
Locks that several processes share. They are kept by a key-value server; if it fails, and there is a
database, by a table of the database. A server that answers that a lock is held is believed: only
its failure leads to the database.
-/
namespace Voucher.Lock.Distributed

/-- What is asked of the two backends; leases are in milliseconds. -/
inductive Call where
  /-- Puts an owner under a free key of the server. -/
  | claim (key owner : String) (lease : Nat)
  /-- Removes a key of the server if the owner still has it. -/
  | yieldKey (key owner : String)
  /-- Reads the clock of the process that asks. -/
  | clock
  /-- Deletes the row of a key from the database if it has expired. -/
  | purge (key : String)
  /-- Inserts the row of a key into the database unless there is one. -/
  | claimRow (key owner : String) (lease : Nat)
  /-- Deletes the row of a key from the database if the owner still has it. -/
  | yieldRow (key owner : String)
  deriving DecidableEq

/-- A backend answers or fails. -/
abbrev Reply (α : Type) := Except Unit α

/-- The type of the answers: whether it was done, or that the backend failed. -/
abbrev Call.Answer : Call → Type
  | claim .. => Reply Bool
  | yieldKey .. => Reply Bool
  | clock => Instant
  | purge _ => Reply Unit
  | claimRow .. => Reply Bool
  | yieldRow .. => Reply Bool

abbrev Action := Script Call Call.Answer

/-- The outcome of one try. -/
inductive Attempt where
  | granted (place : Place)
  | busy
  | failed
  /-- The lease would end after the last instant, and whoever asked is gone. -/
  | broken
  deriving DecidableEq

/-- What comes of asking for a lock. -/
inductive Outcome where
  | granted (guard : Guard)
  | denied
  /-- The asking broke off and nothing comes back. -/
  | broken
  deriving DecidableEq

def Outcome.guard? : Outcome → Option Guard
  | granted guard => some guard
  | denied | broken => none

def claim (key owner : String) (lease : Nat) : Action (Reply Bool) :=
  Script.call (Call.claim key owner lease)

def yieldKey (key owner : String) : Action (Reply Bool) := Script.call (Call.yieldKey key owner)

def clock : Action Instant := Script.call Call.clock

def purge (key : String) : Action (Reply Unit) := Script.call (Call.purge key)

def claimRow (key owner : String) (lease : Nat) : Action (Reply Bool) :=
  Script.call (Call.claimRow key owner lease)

def yieldRow (key owner : String) : Action (Reply Bool) := Script.call (Call.yieldRow key owner)

/-- The longest lease that is a length of time, in milliseconds. -/
def longestRowLease : Nat := 9223372036854775807

/-- A lease that starts now ends at an instant. -/
def leaseEnds (now : Instant) (lease : Nat) : Bool :=
  (now.addNanos (lease * millisecond)).le Instant.last

/-- Takes the row of a key, if it is free or has expired. -/
def takeRow (key owner : String) (lease : Nat) : Action Attempt := do
  match ← purge key with
  | .error _ => pure .failed
  | .ok _ =>
    match ← claimRow key owner lease with
    | .error _ => pure .failed
    | .ok true => pure (.granted .database)
    | .ok false => pure .busy

/-- One try in the database. It fails at once if the lease is no length of time; and if the lease
ends at no instant, all that was to follow is broken off. -/
def attemptRow (key owner : String) (lease : Nat) : Action Attempt :=
  if longestRowLease < lease then pure .failed
  else do
    let now ← clock
    if leaseEnds now lease then takeRow key owner lease else pure .broken

/-- One try: the server, and the database only if the server fails. -/
def attempt (fallback : Bool) (key owner : String) (lease : Nat) : Action Attempt := do
  match ← claim key owner lease with
  | .ok true => pure (.granted .keyValue)
  | .ok false => pure .busy
  | .error _ => if fallback then attemptRow key owner lease else pure .failed

/-- Tries up to a number of times. -/
def acquire (fallback : Bool) (key owner : String) (lease : Nat) : Nat → Action Outcome
  | 0 => pure .denied
  | attempts + 1 => do
    match ← attempt fallback key owner lease with
    | .granted place => pure (.granted ⟨key, owner, place⟩)
    | .broken => pure .broken
    | .busy | .failed => acquire fallback key owner lease attempts

/-- A lock that is denied is an error that names its key. -/
def result? (key : String) : Outcome → Option (Except ServiceError Guard)
  | .granted guard => some (.ok guard)
  | .denied => some (.error (.lock key))
  | .broken => none

/-- Gives a lock up where it is held; says whether its owner still held it. -/
def release (g : Guard) : Action (Reply Bool) :=
  match g.place with
  | .process => pure (.ok false)
  | .keyValue => yieldKey g.key g.owner
  | .database => yieldRow g.key g.owner

end Voucher.Lock.Distributed
