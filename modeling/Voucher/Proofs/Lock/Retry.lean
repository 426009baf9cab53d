import Voucher.Lock.Distributed
import Voucher.Proofs.Service.Script

/-! How a lock that several processes share is asked for. Whatever the two backends answer, one try
asks the server, and the database only if the server fails; tries follow one another until one is
granted or there are enough of them; and a guard is given up where it was granted. -/
namespace Voucher.Lock.Distributed

/-- A request with its answer. -/
abbrev Exchange := (q : Call) × q.Answer

/-- One try: what was asked and answered, and what came of it. -/
structure Try where
  exchanges : List Exchange
  outcome : Attempt

namespace Try

def Granted (t : Try) : Prop := ∃ place, t.outcome = .granted place

/-- The lease ends at an instant, by the clock as it was read in the try. -/
def Ends (t : Try) (lease : Nat) : Prop :=
  ∃ now, ⟨.clock, now⟩ ∈ t.exchanges ∧ leaseEnds now lease = true

end Try

variable {σ : Type} {fallback : Bool} {key owner : String} {lease : Nat} {t : Try} {g : Guard}

/-- What the answer to a request for a row comes to. -/
def rowOutcome : Reply Bool → Attempt
  | .ok true => .granted .database
  | .ok false => .busy
  | .error _ => .failed

/-- All that can happen in one try. -/
inductive Try.Made (fallback : Bool) (key owner : String) (lease : Nat) : Try → Prop where
  | granted : Made fallback key owner lease
      ⟨[⟨.claim key owner lease, .ok true⟩], .granted .keyValue⟩
  | busy : Made fallback key owner lease ⟨[⟨.claim key owner lease, .ok false⟩], .busy⟩
  | failed (alone : ¬ (fallback = true ∧ lease ≤ longestRowLease)) :
      Made fallback key owner lease ⟨[⟨.claim key owner lease, .error ()⟩], .failed⟩
  | broken (backed : fallback = true ∧ lease ≤ longestRowLease) (now : Instant)
      (endless : leaseEnds now lease = false) :
      Made fallback key owner lease
        ⟨[⟨.claim key owner lease, .error ()⟩, ⟨.clock, now⟩], .broken⟩
  | unpurged (backed : fallback = true ∧ lease ≤ longestRowLease) (now : Instant)
      (ends : leaseEnds now lease = true) :
      Made fallback key owner lease
        ⟨[⟨.claim key owner lease, .error ()⟩, ⟨.clock, now⟩, ⟨.purge key, .error ()⟩], .failed⟩
  | row (backed : fallback = true ∧ lease ≤ longestRowLease) (now : Instant)
      (ends : leaseEnds now lease = true) (reply : Reply Bool) :
      Made fallback key owner lease
        ⟨[⟨.claim key owner lease, .error ()⟩, ⟨.clock, now⟩, ⟨.purge key, .ok ()⟩,
          ⟨.claimRow key owner lease, reply⟩], rowOutcome reply⟩

section Run

variable (answer : (q : Call) → σ → q.Answer × σ)

/-- Nothing is tried after this one. -/
def Try.Last (t : Try) : Prop := t.Granted ∨ t.outcome = .broken

/-- Tries follow one another until one is granted or broken off. -/
structure Tries (fallback : Bool) (key owner : String) (lease attempts : Nat)
    (tries : List Try) : Prop where
  few : tries.length ≤ attempts
  made : ∀ t ∈ tries, t.Made fallback key owner lease
  last : ∀ before t after, tries = before ++ t :: after → t.Last → after = []
  enough : (∀ t ∈ tries, ¬ t.Last) → tries.length = attempts

theorem Tries.nil (fallback : Bool) (key owner : String) (lease : Nat) :
    Tries fallback key owner lease 0 [] where
  few := Nat.le_refl 0
  made := nofun
  last := by simp
  enough _ := rfl

theorem Tries.one (made : t.Made fallback key owner lease) (last : t.Last) (attempts : Nat) :
    Tries fallback key owner lease (attempts + 1) [t] where
  few := Nat.succ_le_succ (Nat.zero_le attempts)
  made := by simpa using made
  last before x after placed _ := by
    cases before with
    | nil => exact (List.cons.inj placed).2.symm
    | cons first before => simp at placed
  enough none := absurd last (none t List.mem_cons_self)

theorem Tries.next (made : t.Made fallback key owner lease) (missed : ¬ t.Last)
    (tries : Tries fallback key owner lease attempts rest) :
    Tries fallback key owner lease (attempts + 1) (t :: rest) where
  few := Nat.succ_le_succ tries.few
  made := by
    intro x member
    obtain rfl | member := List.mem_cons.mp member
    · exact made
    · exact tries.made x member
  last before x after placed last := by
    cases before with
    | nil =>
        obtain ⟨rfl, -⟩ := List.cons.inj placed
        exact absurd last missed
    | cons first before => exact tries.last before x after (List.cons.inj placed).2 last
  enough none :=
    congrArg (· + 1) (tries.enough fun x member => none x (List.mem_cons_of_mem t member))

end Run

/-- A server that fails beside a database that works. -/
def failing : (q : Call) → Unit → q.Answer × Unit
  | .claim .., s => (.error (), s)
  | .yieldKey .., s => (.error (), s)
  | .clock, s => (.epoch, s)
  | .purge _, s => (.ok (), s)
  | .claimRow .., s => (.ok true, s)
  | .yieldRow .., s => (.ok true, s)

/-- A lease of ten quadrillion milliseconds is a length of time, but ends after the last year. -/
example : ((acquire true "k" "o" 10000000000000000 3).run failing ()).1 = .broken := rfl

end Voucher.Lock.Distributed
