import Mathlib.Algebra.BigOperators.Group.List.Basic
import Mathlib.Algebra.GroupWithZero.Nat
import Voucher.Proofs.Ledger.Interleaving

/-! What a service counts is told from its questions: its events, how often it loads a project, and
how often a lock is denied to it. Counters add up over whatever events are put together. -/
namespace Voucher

open Service
open Ledger.Interleaving (Answered)

namespace Service.Call

/-- The event that a question counts. -/
def event? : Call → Option Telemetry.Event
  | count event => some event
  | _ => none

/-- The question loads a project from storage. -/
def isFetch : Call → Bool
  | fetchRuleBook _ => true
  | _ => false

/-- The question counts nothing, loads no project and takes no lock. -/
def isSilent : Call → Bool
  | count _ | fetchRuleBook _ | acquire .. => false
  | _ => true

end Service.Call

namespace Telemetry

/-- How often events raised the counters of a kind. -/
def raises (kind : Counter → Bool) (events : List Event) : Nat :=
  (events.flatMap Event.counters).countP kind

variable {kind : Counter → Bool} {events more : List Event}

theorem total_eq_raises (events : List Event) (c : Counter) :
    total events c = raises (· == c) events := rfl

theorem raises_append (kind : Counter → Bool) (events more : List Event) :
    raises kind (events ++ more) = raises kind events + raises kind more := by
  rw [raises, List.flatMap_append, List.countP_append]
  rfl

/-- One for each that something holds of: that many are counted. -/
theorem sum_ite (p : α → Bool) (l : List α) :
    (l.map fun a => if p a then 1 else 0).sum = l.countP p := by
  induction l with
  | nil => rfl
  | cons a rest ih => rw [List.map_cons, List.sum_cons, ih, List.countP_cons, Nat.add_comm]

/-- The events that were counted, in their order. -/
def counted (told : List Answered) : List Event := told.filterMap (·.1.event?)

def fetched (told : List Answered) : Nat := (told.filter (·.1.isFetch)).length

theorem counted_append (told later : List Answered) :
    counted (told ++ later) = counted told ++ counted later :=
  List.filterMap_append

theorem fetched_append (told later : List Answered) :
    fetched (told ++ later) = fetched told + fetched later := by
  rw [fetched, List.filter_append, List.length_append]
  rfl

theorem counted_singleton (x : Answered) : counted [x] = x.1.event?.toList := by
  cases event : x.1.event? <;> simp [counted, event]

theorem fetched_singleton (x : Answered) : fetched [x] = if x.1.isFetch then 1 else 0 := by
  cases loads : x.1.isFetch <;> simp [fetched, loads]

/-- The answer denies a lock. -/
def isDenial : Answered → Bool
  | ⟨.acquire .., .error _⟩ => true
  | _ => false

def denied (told : List Answered) : Nat := (told.filter isDenial).length

theorem denied_append (told later : List Answered) :
    denied (told ++ later) = denied told + denied later := by
  rw [denied, List.filter_append, List.length_append]
  rfl

/-- All that is to be told: events in their order, projects loaded and locks denied. -/
structure Records (told : List Answered) (events : List Event) (fetches denials : Nat) : Prop where
  counted : Telemetry.counted told = events
  fetched : Telemetry.fetched told = fetches
  denied : Telemetry.denied told = denials

namespace Records

variable {told later : List Answered} {fetches denials n k : Nat} {q : Call}

theorem append (first : Records told events fetches denials) (second : Records later more n k) :
    Records (told ++ later) (events ++ more) (fetches + n) (denials + k) := by
  obtain ⟨rfl, rfl, rfl⟩ := first
  obtain ⟨rfl, rfl, rfl⟩ := second
  exact ⟨counted_append .., fetched_append .., denied_append ..⟩

theorem cons_silent (silent : q.isSilent = true) (answer : q.Answer)
    (records : Records told events fetches denials) :
    Records (⟨q, answer⟩ :: told) events fetches denials := by
  cases q with
  | count | fetchRuleBook | acquire => contradiction
  | _ => exact ⟨records.counted, records.fetched, records.denied⟩

theorem cons_count (event : Event) (answer : (Call.count event).Answer)
    (records : Records told events fetches denials) :
    Records (⟨.count event, answer⟩ :: told) (event :: events) fetches denials :=
  ⟨congrArg (event :: ·) records.counted, records.fetched, records.denied⟩

end Records

end Telemetry

namespace Service.Deployment

variable {d : Deployment}

/-- A question counts what it says. That a project was loaded is counted by the store, unless an
outage keeps the question from it. -/
structure Counts (q : Call) (d e : Deployment) : Prop where
  events : e.events = q.event?.toList ++ d.events
  fetches : d.outages.lookup .fetchProject = none →
    e.store.projectFetches = d.store.projectFetches + if q.isFetch then 1 else 0

theorem serve_counts (d : Deployment) (q : Call) : Counts q d (serve q d).2 := by
  cases q with
  | now | freshId | fetchRuleBook | fetchEntry | findDetail | listDetails | statistics | count =>
      exact ⟨rfl, fun _ => rfl⟩
  | readCache | writeCache | deleteCached | deleteCachedMatching | acquire | release =>
      cases held : d.backing <;>
        simp only [serve, readCache, writeCache, deleteCached, deleteCachedMatching, acquire,
          release, takeIdentifier, readClock, held] <;>
        exact ⟨rfl, fun _ => rfl⟩
  | insertEntry draft =>
      simp only [serve, insertEntry, Ledger.Store.insertEntry, takeIdentifier, readClock]
      cases d.store.index.lookup (draft.ruleId, draft.codeHash) <;> exact ⟨rfl, fun _ => rfl⟩
  | incrementEntry id limit =>
      simp only [serve, incrementEntry, Ledger.Store.incrementEntry]
      cases d.store.entry? id with
      | none => exact ⟨rfl, fun _ => rfl⟩
      | some e =>
          by_cases reached : limit ≤ e.count <;>
            simp only [reached, if_true, if_false] <;>
            exact ⟨rfl, fun _ => rfl⟩

theorem answer_counts (d : Deployment) (q : Call) : Counts q d (answer q d).2 := by
  unfold answer
  cases struck : q.target?.bind fun t => d.outages.lookup t with
  | none => exact serve_counts d q
  | some outage =>
      cases q with
      | fetchRuleBook =>
          refine ⟨?_, fun works => absurd (works.symm.trans struck) nofun⟩
          cases outage <;> rfl
      | insertEntry draft =>
          cases outage with
          | fails | refuses => exact ⟨rfl, fun _ => rfl⟩
          | overtakes => exact serve_counts d (.insertEntry draft)
      | _ => cases outage <;> first | exact ⟨rfl, fun _ => rfl⟩ | exact serve_counts d _

/-- While storage answers, the store counts every project that is loaded. -/
theorem perform_projectFetches (works : d.outages.lookup .fetchProject = none) (m : Action α) :
    (d.perform m).2.store.projectFetches =
      d.store.projectFetches + Telemetry.fetched (m.transcript answer d) := by
  induction m generalizing d with
  | done a => rfl
  | ask q k ih =>
      have rest :=
        ih (d.answer q).1 (d := (d.answer q).2) ((d.answer_sameCatalog q).outages ▸ works)
      rw [(d.answer_counts q).fetches works, Nat.add_assoc,
        ← Telemetry.fetched_singleton ⟨q, (d.answer q).1⟩, ← Telemetry.fetched_append] at rest
      exact rest

end Service.Deployment

end Voucher
