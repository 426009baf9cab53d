import Voucher.Instant
import Voucher.Json.Document
import Voucher.Lock.Basic

/-!
The lock table of a database: a row for each key, with its owner and the end of its lease, in the
order of the keys. A row that has expired counts until it is purged. A database that is down carries
out nothing.
-/
namespace Voucher.Lock

structure Row where
  owner : String
  expiry : Instant
  deriving DecidableEq, Inhabited

namespace Rows

inductive Command where
  | purge (key : String)
  | claim (key owner : String) (seconds : Nat)
  | yieldRow (key owner : String)
  deriving DecidableEq

def Command.toJson : Command → Json
  | purge key => .arr [.str "PURGE", .str key]
  | claim key owner seconds => .arr [.str "LOCK", .str key, .str owner, .int seconds]
  | yieldRow key owner => .arr [.str "UNLOCK", .str key, .str owner]

end Rows

structure Rows where
  rows : List (String × Row)
  isDown : Bool
  /-- What was carried out, the latest first. -/
  log : List Rows.Command
  deriving Inhabited

namespace Rows

def empty : Rows := ⟨[], false, []⟩

def row? (t : Rows) (key : String) : Option Row := t.rows.lookup key

def put (t : Rows) (key : String) (row : Row) : Rows :=
  { t with rows := Json.putMember key row t.rows }

def remove (t : Rows) (key : String) : Rows :=
  { t with rows := t.rows.filter fun r => r.1 != key }

/-- Carries out a command and notes it, unless the database is down. -/
def perform {α : Type} (t : Rows) (c : Command) (effect : Rows → α × Rows) : Except Unit α × Rows :=
  if t.isDown then (.error (), t)
  else
    let (a, after) := effect t
    (.ok a, { after with log := c :: after.log })

/-- Deletes the row of a key if its lease is over. -/
def purge (t : Rows) (key : String) (now : Instant) : Except Unit Unit × Rows :=
  t.perform (.purge key) fun t =>
    match t.row? key with
    | some row => if row.expiry.lt now then ((), t.remove key) else ((), t)
    | none => ((), t)

/-- Whole seconds nearest to a lease in milliseconds; a half is dropped. -/
def leaseSeconds (lease : Nat) : Nat := (lease + 499) / 1000

/-- Inserts a row for a lease in milliseconds, unless the key has one. -/
def claim (t : Rows) (key owner : String) (lease : Nat) (now : Instant) : Except Unit Bool × Rows :=
  t.perform (.claim key owner (leaseSeconds lease)) fun t =>
    if (t.row? key).isSome then (false, t)
    else (true, t.put key ⟨owner, now.addNanos (lease * millisecond)⟩)

/-- Deletes the row of a key if an owner has it. -/
def yieldRow (t : Rows) (key owner : String) : Except Unit Bool × Rows :=
  t.perform (.yieldRow key owner) fun t =>
    match t.row? key with
    | some row => if row.owner = owner then (true, t.remove key) else (false, t)
    | none => (false, t)

end Rows

end Voucher.Lock
