import Voucher.Cache.Memory
import Voucher.KeyValue.Server
import Voucher.Ledger.Store
import Voucher.Lock.Distributed
import Voucher.Lock.Rows
import Voucher.Lock.Table
import Voucher.Service.Outage

/-!
The surroundings of the services: the store in memory, and cache and locks either in the process or
on a key-value server, with a database for locks when the server fails. Every reading of the clock
is later than the one before, and every identifier is new.
-/
namespace Voucher.Service

/-- Where cache and locks are. -/
inductive Backing where
  | process (cache : Cache.Memory) (locks : Lock.Table)
  /-- On a server; `process` tells the owners of this process from those of others. -/
  | server (server : KeyValue.Server) (rows : Option Lock.Rows) (process : Uuid)

structure Deployment where
  lockConfig : Lock.Config
  store : Ledger.Store
  backing : Backing
  outages : List (Target × Outage)
  /-- What was counted, the latest first. -/
  events : List Telemetry.Event
  clock : Instant
  /-- How many identifiers have been given away. -/
  identifiers : Nat

namespace Deployment

/-- The time between two readings of the clock. -/
def tick : Nat := 1000

def readClock (d : Deployment) : Instant × Deployment :=
  (d.clock, { d with clock := d.clock.addNanos tick })

/-- Identifiers count up from here. -/
def firstIdentifier : Nat := 0x0198C0DE000070008000000000000000

def identifier (n : Nat) : Uuid := .ofNat (firstIdentifier + n)

def takeIdentifier (d : Deployment) : Uuid × Deployment :=
  (identifier d.identifiers, { d with identifiers := d.identifiers + 1 })

/-- An answer of the key-value server as an answer to a service. -/
def replied {α : Type} : Except Unit α → Except BackendError α
  | .ok a => .ok a
  | .error _ => .error .redis

def readCache (d : Deployment) (key : String) : Except BackendError (Option String) × Deployment :=
  match d.backing with
  | .process cache locks =>
    let (now, d) := d.readClock
    let (found, cache) := cache.read key now
    (.ok found, { d with backing := .process cache locks })
  | .server s rows process =>
    let (found, s) := s.get key
    (replied found, { d with backing := .server s rows process })

def writeCache (d : Deployment) (key text : String) (life : UInt64) :
    Except BackendError Unit × Deployment :=
  match d.backing with
  | .process cache locks =>
    let (now, d) := d.readClock
    (.ok (), { d with
      backing := .process (cache.write key text (life.toNat * 1000000000) now) locks })
  | .server s rows process =>
    let (done, s) := s.putFor key text life.toNat
    (replied done, { d with backing := .server s rows process })

def deleteCached (d : Deployment) (key : String) : Except BackendError Unit × Deployment :=
  match d.backing with
  | .process cache locks => (.ok (), { d with backing := .process (cache.delete key) locks })
  | .server s rows process =>
    let (done, s) := s.delete [key]
    ((replied done).map fun _ => (), { d with backing := .server s rows process })

def deleteCachedMatching (d : Deployment) (pattern : String) :
    Except BackendError Nat × Deployment :=
  match d.backing with
  | .process cache locks =>
    let (n, cache) := cache.deleteMatching pattern
    (.ok n, { d with backing := .process cache locks })
  | .server s rows process =>
    let (done, s) := s.deleteMatching pattern
    (replied done, { d with backing := .server s rows process })

/-- The two backends of distributed locks, and the time at which the database works. -/
structure Backends where
  server : KeyValue.Server
  rows : Option Lock.Rows
  now : Instant

/-- Carries out a command of the database; without a database it fails. -/
def Backends.onRows {α : Type} (b : Backends) (f : Lock.Rows → Except Unit α × Lock.Rows) :
    Except Unit α × Backends :=
  match b.rows with
  | some rows => ((f rows).1, { b with rows := some (f rows).2 })
  | none => (.error (), b)

/-- What the backends answer. -/
def Backends.answer : (q : Lock.Distributed.Call) → Backends → q.Answer × Backends
  | .claim key owner lease, b =>
    ((b.server.claim key owner lease).1, { b with server := (b.server.claim key owner lease).2 })
  | .yieldKey key owner, b =>
    ((b.server.yieldKey key owner).1, { b with server := (b.server.yieldKey key owner).2 })
  | .clock, b => (b.now, b)
  | .purge key, b => b.onRows (·.purge key b.now)
  | .claimRow key owner lease, b => b.onRows (·.claim key owner lease b.now)
  | .yieldRow key owner, b => b.onRows (·.yieldRow key owner)

/-- Asks for a lock. An asking that broke off never answers; the error stands in for that. -/
def acquire (d : Deployment) (key : String) (lease : UInt64) : Result Lock.Guard × Deployment :=
  let (id, d) := d.takeIdentifier
  let (now, d) := d.readClock
  match d.backing with
  | .process cache locks =>
    let owner := id.text
    let (granted, locks, last) := locks.acquire key owner (lease.toNat * Lock.millisecond)
      (d.lockConfig.pause.toNat * Lock.millisecond) d.lockConfig.attempts now
    (if granted then .ok ⟨key, owner, .process⟩ else .error (.lock key),
      { d with backing := .process cache locks, clock := last.addNanos tick })
  | .server server rows process =>
    let owner := process.text ++ ":" ++ id.text
    let (outcome, b) := (Lock.Distributed.acquire rows.isSome key owner lease.toNat
      d.lockConfig.attempts).run Backends.answer ⟨server, rows, now⟩
    ((Lock.Distributed.result? key outcome).getD (.error (.lock key)),
      { d with backing := .server b.server b.rows process })

/-- The failure of a place where a lock is held. -/
def placeFailure : Lock.Place → ServiceError
  | .database => .database
  | .process | .keyValue => .redis none

def release (d : Deployment) (g : Lock.Guard) : Result Unit × Deployment :=
  match d.backing with
  | .process cache locks =>
    (.ok (), { d with backing := .process cache (locks.release g.key g.owner).2 })
  | .server server rows process =>
    let (now, d) := d.readClock
    let (reply, b) := (Lock.Distributed.release g).run Backends.answer ⟨server, rows, now⟩
    (match reply with
      | .ok _ => .ok ()
      | .error _ => .error (placeFailure g.place),
      { d with backing := .server b.server b.rows process })

def insertEntry (d : Deployment) (draft : Ledger.Draft) : Option Ledger.Entry × Deployment :=
  let (id, d) := d.takeIdentifier
  let (now, d) := d.readClock
  let (made, store) := d.store.insertEntry draft id now
  (made, { d with store := store })

def incrementEntry (d : Deployment) (id : Uuid) (limit : Int32) :
    Option Ledger.Entry × Deployment :=
  let (raised, store) := d.store.incrementEntry id limit
  (raised, { d with store := store })

/-- The answer where nothing is struck. -/
def serve : (q : Call) → Deployment → q.Answer × Deployment
  | .now, d => d.readClock
  | .freshId, d => d.takeIdentifier
  | .readCache key, d => d.readCache key
  | .writeCache key text life, d => d.writeCache key text life
  | .deleteCached key, d => d.deleteCached key
  | .deleteCachedMatching pattern, d => d.deleteCachedMatching pattern
  | .fetchRuleBook projectId, d =>
    (.ok (d.store.fetchRuleBook projectId).1,
      { d with store := (d.store.fetchRuleBook projectId).2 })
  | .fetchEntry ruleId hash, d => (.ok (d.store.fetchEntry ruleId hash), d)
  | .insertEntry draft, d => (.ok (d.insertEntry draft).1, (d.insertEntry draft).2)
  | .incrementEntry id limit, d =>
    (.ok (d.incrementEntry id limit).1, (d.incrementEntry id limit).2)
  | .findDetail id, d => (.ok (d.store.findDetail id), d)
  | .listDetails filter, d => (.ok ((d.store.list filter).1, (d.store.list filter).2), d)
  | .statistics projectId since, d => (.ok (d.store.statistics projectId since), d)
  | .acquire key lease, d => d.acquire key lease
  | .release guard, d => d.release guard
  | .count event, d => ((), { d with events := event :: d.events })

/-- The answer to a question that an outage strikes. -/
def strike : (q : Call) → Outage → Deployment → q.Answer × Deployment
  | .readCache _, _, d => (.error .redis, d)
  | .writeCache .., _, d => (.error .redis, d)
  | .deleteCached _, _, d => (.error .redis, d)
  | .deleteCachedMatching _, _, d => (.error .redis, d)
  | .fetchRuleBook _, .fails e, d => (.error e, d)
  | .fetchEntry .., .fails e, d => (.error e, d)
  | .insertEntry _, .fails e, d => (.error e, d)
  | .incrementEntry .., .fails e, d => (.error e, d)
  | .findDetail _, .fails e, d => (.error e, d)
  | .listDetails _, .fails e, d => (.error e, d)
  | .statistics .., .fails e, d => (.error e, d)
  | .fetchEntry .., _, d => (.ok none, d)
  | .insertEntry draft, .overtakes, d => (.ok none, (d.insertEntry draft).2)
  | .insertEntry _, .refuses, d => (.ok none, d)
  | .incrementEntry .., _, d => (.ok none, d)
  | q, _, d => serve q d

/-- The answer of the surroundings. -/
def answer (q : Call) (d : Deployment) : q.Answer × Deployment :=
  match q.target?.bind fun t => d.outages.lookup t with
  | some outage => strike q outage d
  | none => serve q d

/-- Carries out what a service does. -/
def perform {α : Type} (d : Deployment) (a : Action α) : α × Deployment := a.run answer d

/-- Strikes a target from now on, or no longer. -/
def setOutage (d : Deployment) (target : Target) (outage : Option Outage) : Deployment :=
  let others := d.outages.filter fun o => o.1 != target
  { d with outages := match outage with
      | some o => (target, o) :: others
      | none => others }

end Deployment

end Voucher.Service
