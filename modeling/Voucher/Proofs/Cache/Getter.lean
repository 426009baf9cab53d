import Voucher.Proofs.Cache.Memory
import Voucher.Proofs.Cache.Rules

/-! Getting a rule book, question by question: the phases that a reader goes through, whatever it is
answered, and what each of its questions does to a cache within the process. -/
namespace Voucher

namespace Script

variable {Ask : Type} {Answer : Ask → Type} {α σ : Type} {answer : (q : Ask) → σ → Answer q × σ}

/-- Asks the next question, if there is one. -/
def step (answer : (q : Ask) → σ → Answer q × σ) : Script Ask Answer α → σ → Script Ask Answer α × σ
  | done a, s => (done a, s)
  | ask q k, s => (k (answer q s).1, (answer q s).2)

theorem run_step (m : Script Ask Answer α) (s : σ) :
    (m.step answer s).1.run answer (m.step answer s).2 = m.run answer s := by
  cases m <;> rfl

end Script

namespace Service.Deployment

/-- Nothing is struck, and the cache is within the process. -/
structure InProcess (d : Deployment) : Prop where
  calm : d.outages = []
  process : ∃ cache locks, d.backing = .process cache locks

/-- What the cache within the process holds under a key, expired or not. -/
def slot? (d : Deployment) (key : String) : Option Cache.Slot :=
  match d.backing with
  | .process cache _ => cache.slot? key
  | .server .. => none

theorem slot?_of_process {d : Deployment} {cache : Cache.Memory} {locks : Lock.Table}
    (process : d.backing = .process cache locks) (key : String) :
    d.slot? key = cache.slot? key := by
  simp only [slot?, process]

/-- A question to the cache within the process has been answered. -/
def caching (d : Deployment) (cache : Cache.Memory) (locks : Lock.Table) : Deployment :=
  { d with backing := .process cache locks, clock := d.clock.addNanos tick }

/-- The load of a project has been counted. -/
def loading (d : Deployment) (projectId : Uuid) : Deployment :=
  { d with store := (d.store.fetchRuleBook projectId).2 }

/-- An event has been counted. -/
def counting (d : Deployment) (event : Telemetry.Event) : Deployment :=
  { d with events := event :: d.events }

theorem perform_step {d e : Deployment} {m rest : Action α} (step : m.step answer d = (rest, e)) :
    d.perform m = e.perform rest := by
  have run : (m.step answer d).2.perform (m.step answer d).1 = d.perform m := m.run_step d
  rw [step] at run
  exact run.symm

end Service.Deployment

namespace Cache.Rules

open Service

theorem key_inj {a b : Uuid} (same : key a = key b) : a = b := Uuid.text_inj (Key.project_inj same)

/-- The nanoseconds for which an entry counts. -/
def lifetime (life : UInt64) : Nat := life.toNat * 1000000000

/-- How far a reader of a book has come. -/
inductive Phase where
  | reading
  /-- The book was found; that is still to be counted. -/
  | hit (book : RuleBook)
  /-- No book was found; that is still to be counted. -/
  | missed (result : String)
  | fetching
  | writing (book : RuleBook)
  | done (result : Result (Option RuleBook))

namespace Phase

variable {life : UInt64} {projectId : Uuid} {book : RuleBook} {d : Deployment} {cache : Memory}
  {locks : Lock.Table}

/-- What a reader has still to do. -/
def script (life : UInt64) (projectId : Uuid) : Phase → Action (Result (Option RuleBook))
  | reading => get life projectId
  | hit book => do
    Action.count (.cacheLookup "hit")
    pure (.ok (some book))
  | missed result => do
    Action.count (.cacheLookup result)
    load life projectId
  | fetching => load life projectId
  | writing book => do
    let _ ← Action.writeCache (key projectId) (encode book) life
    pure (.ok (some book))
  | done result => pure result

/-- What comes after reading the cache. -/
def ofRead : Except BackendError (Option String) → Phase
  | .ok (some text) =>
    match decode? text with
    | some book => hit book
    | none => missed "error"
  | .ok none => missed "miss"
  | .error _ => missed "error"

/-- What comes after asking storage. -/
def ofFetch : Result (Option RuleBook) → Phase
  | .ok (some book) => writing book
  | .ok none => done (.ok none)
  | .error e => done (.error e)

theorem script_reading : reading.script life projectId =
    .ask (.readCache (key projectId)) fun found => (ofRead found).script life projectId := by
  refine congrArg (Script.ask (Call.readCache (key projectId))) (funext fun found => ?_)
  obtain e | none | text := found
  · rfl
  · rfl
  · simp only [Script.bind, ofRead]
    cases decode? text <;> rfl

theorem script_fetching : fetching.script life projectId =
    .ask (.fetchRuleBook projectId) fun found => (ofFetch found).script life projectId := by
  refine congrArg (Script.ask (Call.fetchRuleBook projectId)) (funext fun found => ?_)
  obtain e | none | book := found <;> rfl

theorem step_reading (calm : d.outages = []) (process : d.backing = .process cache locks)
    (life : UInt64) (projectId : Uuid) : (reading.script life projectId).step Deployment.answer d =
      ((ofRead (.ok (cache.read (key projectId) d.clock).1)).script life projectId,
        d.caching (cache.read (key projectId) d.clock).2 locks) := by
  rw [script_reading, Script.step, Deployment.answer_calm calm]
  simp only [Deployment.serve, Deployment.readCache, process, Deployment.readClock]
  rfl

theorem step_fetching (calm : d.outages = []) :
    (fetching.script life projectId).step Deployment.answer d =
      ((ofFetch (.ok (d.store.ruleBook? projectId))).script life projectId,
        d.loading projectId) := by
  rw [script_fetching, Script.step, Deployment.answer_calm calm]
  rfl

theorem step_writing (calm : d.outages = []) (process : d.backing = .process cache locks)
    (book : RuleBook) :
    ((writing book).script life projectId).step Deployment.answer d =
      ((done (.ok (some book))).script life projectId,
        d.caching (cache.write (key projectId) (encode book) (lifetime life) d.clock) locks) := by
  have answered := Deployment.answer_calm calm (.writeCache (key projectId) (encode book) life)
  simp only [Deployment.serve, Deployment.writeCache, process, Deployment.readClock] at answered
  exact congrArg (fun answer => ((done (.ok (some book))).script life projectId, answer.2)) answered

theorem step_hit (calm : d.outages = []) (book : RuleBook) :
    ((hit book).script life projectId).step Deployment.answer d =
      ((done (.ok (some book))).script life projectId, d.counting (.cacheLookup "hit")) :=
  congrArg (fun answer => ((done (.ok (some book))).script life projectId, answer.2))
    (Deployment.answer_calm calm (.count (.cacheLookup "hit")))

theorem step_missed (calm : d.outages = []) (result : String) :
    ((missed result).script life projectId).step Deployment.answer d =
      (fetching.script life projectId, d.counting (.cacheLookup result)) :=
  congrArg (fun answer => (fetching.script life projectId, answer.2))
    (Deployment.answer_calm calm (.count (.cacheLookup result)))

/-- What may come after a phase. -/
inductive Follows (projectId : Uuid) (d : Deployment) : Phase → Phase → Prop where
  | found {slot : Slot} {book : RuleBook} (held : d.slot? (key projectId) = some slot)
      (fresh : d.clock.lt slot.expiry) (read : decode? slot.text = some book) :
      Follows projectId d reading (hit book)
  | missed (result : String)
      (unread : ∀ slot, d.slot? (key projectId) = some slot → d.clock.lt slot.expiry →
        decode? slot.text = none) :
      Follows projectId d reading (missed result)
  | counted (book : RuleBook) : Follows projectId d (hit book) (done (.ok (some book)))
  | turned (result : String) : Follows projectId d (missed result) fetching
  | fetched : Follows projectId d fetching (ofFetch (.ok (d.store.ruleBook? projectId)))
  | written (book : RuleBook) : Follows projectId d (writing book) (done (.ok (some book)))
  | ended (result : Result (Option RuleBook)) : Follows projectId d (done result) (done result)

/-- One question more: the phase that follows, and what becomes of storage and the cache. -/
structure Turned (life : UInt64) (projectId : Uuid) (d : Deployment) (phase next : Phase)
    (e : Deployment) :
    Prop where
  step : (phase.script life projectId).step Deployment.answer d = (next.script life projectId, e)
  inProcess : e.InProcess
  store : ∀ p, e.store.ruleBook? p = d.store.ruleBook? p
  follows : phase.Follows projectId d next
  slots : ∀ k slot, e.slot? k = some slot → d.slot? k = some slot ∨
    k = key projectId ∧ ∃ book, phase = writing book ∧ slot.text = encode book ∧
      slot.expiry.le (e.clock.addNanos (lifetime life))

theorem step_cases (inProcess : d.InProcess) (life : UInt64) (projectId : Uuid) (phase : Phase) :
    ∃ next e, Turned life projectId d phase next e := by
  obtain ⟨calm, cache, locks, process⟩ := inProcess
  have slots := Deployment.slot?_of_process process
  cases phase with
  | reading =>
      have step := step_reading calm process life projectId
      obtain ⟨slot, held, fresh, read⟩ | ⟨stale, rest, read, left⟩ :=
        cache.read_cases (key projectId) d.clock
      · rw [read] at step
        cases decoded : decode? slot.text with
        | none =>
            simp only [ofRead, decoded] at step
            refine ⟨_, _, step, ⟨calm, cache, locks, rfl⟩, fun p => rfl,
              .missed "error" fun other found _ => ?_,
              fun k slot found => .inl ((slots k).trans found)⟩
            obtain rfl := Option.some.inj (held.symm.trans ((slots _).symm.trans found))
            exact decoded
        | some book =>
            simp only [ofRead, decoded] at step
            exact ⟨_, _, step, ⟨calm, cache, locks, rfl⟩, fun p => rfl,
              .found ((slots _).trans held) fresh decoded,
              fun k slot found => .inl ((slots k).trans found)⟩
      · rw [read] at step
        exact ⟨_, _, step, ⟨calm, rest, locks, rfl⟩, fun p => rfl,
          .missed "miss" fun slot found fresh => absurd fresh
            (stale slot ((slots _).symm.trans found)),
          fun k slot found => .inl ((slots k).trans (left k slot found))⟩
  | hit book =>
      exact ⟨_, _, step_hit calm book, ⟨calm, cache, locks, process⟩, fun p => rfl, .counted book,
        fun k slot found => .inl found⟩
  | missed result =>
      exact ⟨_, _, step_missed calm result, ⟨calm, cache, locks, process⟩, fun p => rfl,
        .turned result, fun k slot found => .inl found⟩
  | fetching =>
      exact ⟨_, _, step_fetching calm, ⟨calm, cache, locks, process⟩, fun p => rfl, .fetched,
        fun k slot found => .inl found⟩
  | writing book =>
      refine ⟨_, _, step_writing calm process book, ⟨calm, _, locks, rfl⟩, fun p => rfl,
        .written book, fun k slot found => ?_⟩
      by_cases own : k = key projectId
      · rw [own] at found ⊢
        obtain rfl := Option.some.inj ((Memory.slot?_write_self ..).symm.trans found)
        refine .inr ⟨rfl, book, rfl, rfl, ?_⟩
        rw [Deployment.caching, Instant.addNanos_addNanos]
        exact Instant.addNanos_le_addNanos _ (by omega)
      · exact .inl ((slots k).trans ((Memory.slot?_write_ne own).symm.trans found))
  | done result =>
      exact ⟨.done result, d, rfl, ⟨calm, cache, locks, process⟩, fun p => rfl, .ended result,
        fun k slot found => .inl found⟩

end Phase

end Cache.Rules

end Voucher
