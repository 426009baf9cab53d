import Voucher.Ledger.Entry
import Voucher.Lock.Basic
import Voucher.Service.Error
import Voucher.Service.Script
import Voucher.Telemetry.Metrics

/-!
What services ask of their surroundings: the time, fresh identifiers, the cache, the stored
projects, the ledger, the locks and the counters. Each question has one answer, and nothing else of
the surroundings is seen.
-/
namespace Voucher.Service

/-- Settings that services follow. -/
structure Policy where
  /-- Entries keep the normalized code beside its hash. -/
  storePlainCodes : Bool
  /-- The budget of a custom check digit. -/
  maxSteps : Nat
  /-- The lease of a redemption lock, in milliseconds. -/
  lease : UInt64
  /-- How long rules stay in the cache, in seconds. -/
  cacheLife : UInt64
  deriving Inhabited

inductive Call where
  | now
  | freshId
  | readCache (key : String)
  | writeCache (key text : String) (life : UInt64)
  | deleteCached (key : String)
  | deleteCachedMatching (pattern : String)
  | fetchRuleBook (projectId : Uuid)
  | fetchEntry (ruleId : Uuid) (hash : String)
  | insertEntry (draft : Ledger.Draft)
  | incrementEntry (id : Uuid) (limit : Int32)
  | findDetail (id : Uuid)
  | listDetails (filter : Ledger.Filter)
  | statistics (projectId : Uuid) (since : Instant)
  | acquire (key : String) (lease : UInt64)
  | release (guard : Lock.Guard)
  | count (event : Telemetry.Event)

abbrev Result (α : Type) := Except ServiceError α

abbrev Call.Answer : Call → Type
  | now => Instant
  | freshId => Uuid
  | readCache _ => Except BackendError (Option String)
  | writeCache .. => Except BackendError Unit
  | deleteCached _ => Except BackendError Unit
  | deleteCachedMatching _ => Except BackendError Nat
  | fetchRuleBook _ => Result (Option RuleBook)
  | fetchEntry .. => Result (Option Ledger.Entry)
  | insertEntry _ => Result (Option Ledger.Entry)
  | incrementEntry .. => Result (Option Ledger.Entry)
  | findDetail _ => Result (Option Ledger.Detail)
  | listDetails _ => Result (List Ledger.Detail × Int)
  | statistics .. => Result Ledger.Statistics
  | acquire .. => Result Lock.Guard
  | release _ => Result Unit
  | count _ => Unit

/-- Something a service does. -/
abbrev Action := Script Call Call.Answer

namespace Action

def now : Action Instant := Script.call Call.now

def freshId : Action Uuid := Script.call Call.freshId

def readCache (key : String) : Action (Except BackendError (Option String)) :=
  Script.call (Call.readCache key)

def writeCache (key text : String) (life : UInt64) : Action (Except BackendError Unit) :=
  Script.call (Call.writeCache key text life)

def deleteCached (key : String) : Action (Except BackendError Unit) :=
  Script.call (Call.deleteCached key)

def deleteCachedMatching (pattern : String) : Action (Except BackendError Nat) :=
  Script.call (Call.deleteCachedMatching pattern)

def fetchRuleBook (projectId : Uuid) : Action (Result (Option RuleBook)) :=
  Script.call (Call.fetchRuleBook projectId)

def fetchEntry (ruleId : Uuid) (hash : String) : Action (Result (Option Ledger.Entry)) :=
  Script.call (Call.fetchEntry ruleId hash)

def insertEntry (draft : Ledger.Draft) : Action (Result (Option Ledger.Entry)) :=
  Script.call (Call.insertEntry draft)

def incrementEntry (id : Uuid) (limit : Int32) : Action (Result (Option Ledger.Entry)) :=
  Script.call (Call.incrementEntry id limit)

def findDetail (id : Uuid) : Action (Result (Option Ledger.Detail)) :=
  Script.call (Call.findDetail id)

def listDetails (filter : Ledger.Filter) : Action (Result (List Ledger.Detail × Int)) :=
  Script.call (Call.listDetails filter)

def statistics (projectId : Uuid) (since : Instant) : Action (Result Ledger.Statistics) :=
  Script.call (Call.statistics projectId since)

def acquire (key : String) (lease : UInt64) : Action (Result Lock.Guard) :=
  Script.call (Call.acquire key lease)

def release (guard : Lock.Guard) : Action (Result Unit) := Script.call (Call.release guard)

def count (event : Telemetry.Event) : Action Unit := Script.call (Call.count event)

/-- Goes on with a result, or ends with its error. -/
def andThen {α β : Type} (m : Action (Result α)) (f : α → Action (Result β)) : Action (Result β) :=
  m >>= fun
    | .ok a => f a
    | .error e => pure (.error e)

end Action

end Voucher.Service
