import Voucher.Cache.Glob
import Voucher.Instant

/-!
The cache in memory: texts by key, each with the instant at which it expires. A text that has
expired stays until it is read, and counts until then.
-/
namespace Voucher.Cache

structure Slot where
  text : String
  expiry : Instant
  deriving DecidableEq, Inhabited

structure Memory where
  slots : List (String × Slot)
  deriving Inhabited

namespace Memory

def empty : Memory := ⟨[]⟩

def size (m : Memory) : Nat := m.slots.length

def slot? (m : Memory) (key : String) : Option Slot := m.slots.lookup key

def delete (m : Memory) (key : String) : Memory := ⟨m.slots.filter (·.1 != key)⟩

/-- The text under a key that has not expired; one that has is removed. -/
def read (m : Memory) (key : String) (now : Instant) : Option String × Memory :=
  match m.slot? key with
  | some slot => if now.lt slot.expiry then (some slot.text, m) else (none, m.delete key)
  | none => (none, m)

/-- Puts a text under a key, for a number of nanoseconds. -/
def write (m : Memory) (key text : String) (life : Nat) (now : Instant) : Memory :=
  ⟨(m.delete key).slots ++ [(key, ⟨text, now.addNanos life⟩)]⟩

/-- Removes every key of a pattern, expired or not, and tells how many there were. -/
def deleteMatching (m : Memory) (pattern : String) : Nat × Memory :=
  let kept := m.slots.filter fun s => !Glob.acceptsString pattern s.1
  (m.slots.length - kept.length, ⟨kept⟩)

end Memory

end Voucher.Cache
