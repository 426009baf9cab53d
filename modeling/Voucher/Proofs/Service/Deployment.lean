import Voucher.Proofs.Lock.Table
import Voucher.Proofs.Service.Script
import Voucher.Service.Deployment

/-! What the answers of a deployment leave as it was, and what taking and giving up a lock within
one process does. -/
namespace Voucher.Service

/-- The question takes no identifier, no lock and nothing from the ledger but what it says. -/
def Call.isStill : Call → Bool
  | freshId | insertEntry _ | incrementEntry .. | acquire .. | release _ => false
  | _ => true

/-- The question makes or raises an entry. -/
def Call.writes : Call → Bool
  | insertEntry _ | incrementEntry .. => true
  | _ => false

theorem Call.asks_still {q : Call} (still : q.isStill) :
    (Script.call q : Action q.Answer).Asks (·.isStill) := Script.asks_call still

namespace Deployment

variable {d e f : Deployment}

/-- A deployment in one process at its start, with nothing stored. -/
def inMemory (config : Lock.Config) (clock : Instant) (identifiers : Nat) : Deployment where
  lockConfig := config
  store := .empty
  backing := .process .empty .empty
  outages := []
  events := []
  clock := clock
  identifiers := identifiers

/-- The lock table, if the locks are within the process. -/
def locks? (d : Deployment) : Option Lock.Table :=
  match d.backing with
  | .process _ locks => some locks
  | .server .. => none

theorem locks?_eq_some {locks : Lock.Table} :
    d.locks? = some locks ↔ ∃ cache, d.backing = .process cache locks := by
  unfold locks?
  cases d.backing with
  | process cache held => simp
  | server => simp

/-- Between two moments nothing has happened to the ledger, the locks and the identifiers. -/
structure Still (d e : Deployment) : Prop where
  entries : e.store.entries = d.store.entries
  index : e.store.index = d.store.index
  locks : e.locks? = d.locks?
  outages : e.outages = d.outages
  identifiers : e.identifiers = d.identifiers
  lockConfig : e.lockConfig = d.lockConfig

theorem Still.refl (d : Deployment) : d.Still d := ⟨rfl, rfl, rfl, rfl, rfl, rfl⟩

theorem Still.trans (first : d.Still e) (second : e.Still f) : d.Still f :=
  ⟨second.entries.trans first.entries, second.index.trans first.index,
    second.locks.trans first.locks,
    second.outages.trans first.outages, second.identifiers.trans first.identifiers,
    second.lockConfig.trans first.lockConfig⟩

theorem serve_still {q : Call} (still : q.isStill) (d : Deployment) : d.Still (serve q d).2 := by
  cases q with
  | freshId | insertEntry | incrementEntry | acquire | release => simp [Call.isStill] at still
  | now | fetchRuleBook | fetchEntry | findDetail | listDetails | statistics | count =>
      exact ⟨rfl, rfl, rfl, rfl, rfl, rfl⟩
  | readCache | writeCache | deleteCached | deleteCachedMatching =>
      cases backing : d.backing <;>
        simp only [serve, readCache, writeCache, deleteCached, deleteCachedMatching, backing] <;>
        exact ⟨rfl, rfl, by simp [locks?, backing], rfl, rfl, rfl⟩

/-- Also an outage leaves a still question still. -/
theorem answer_still {q : Call} (still : q.isStill) (d : Deployment) : d.Still (answer q d).2 := by
  unfold answer
  split
  · rename_i outage struck
    cases q with
    | freshId | insertEntry | incrementEntry | acquire | release => simp [Call.isStill] at still
    | now | count => simp [Call.target?] at struck
    | readCache | writeCache | deleteCached | deleteCachedMatching => exact .refl d
    | fetchRuleBook | fetchEntry | findDetail | listDetails | statistics =>
        cases outage <;> exact ⟨rfl, rfl, rfl, rfl, rfl, rfl⟩
  · exact serve_still still d

theorem perform_still {m : Action α} (asks : m.Asks (·.isStill)) (d : Deployment) :
    d.Still (d.perform m).2 :=
  asks.run .refl .trans (fun _ d still => answer_still still d) d

/-- Without outages every question is served. -/
theorem answer_calm (calm : d.outages = []) (q : Call) : answer q d = serve q d := by
  unfold answer
  rw [calm]
  cases q.target? <;> rfl

theorem perform_call (calm : d.outages = []) (q : Call) : d.perform (Script.call q) = serve q d :=
  answer_calm calm q

/-- The ledger is not struck: entries are looked up, made and raised as they should be. -/
def LedgerUp (d : Deployment) : Prop :=
  ∀ t ∈ [Target.fetchEntry, .insertEntry, .incrementEntry], d.outages.lookup t = none

theorem LedgerUp.of_calm (calm : d.outages = []) : d.LedgerUp := by
  intro t _
  rw [calm]
  rfl

/-- A question that is not struck is served. -/
theorem perform_served {q : Call} (unstruck : ∀ t, q.target? = some t → d.outages.lookup t = none) :
    d.perform (Script.call q) = serve q d := by
  have served : answer q d = serve q d := by
    unfold answer
    cases target : q.target? with
    | none => rfl
    | some t => simp [unstruck t target]
  exact served

theorem LedgerUp.serve (up : d.LedgerUp) {q : Call}
    (ledger : q.target? ∈ [some .fetchEntry, some .insertEntry, some .incrementEntry]) :
    d.perform (Script.call q) = serve q d := by
  refine perform_served fun t target => up t ?_
  rw [target] at ledger
  simpa using ledger

theorem perform_bind (d : Deployment) (m : Action α) (f : α → Action β) :
    d.perform (m >>= f) = (d.perform m).2.perform (f (d.perform m).1) :=
  Script.run_bind answer m f d

theorem perform_pure (d : Deployment) (a : α) : d.perform (pure a) = (a, d) := rfl

theorem perform_andThen {m : Action (Result α)} (first : d.perform m = (.ok a, e))
    (f : α → Action (Result β)) : d.perform (m.andThen f) = e.perform (f a) :=
  Action.run_andThen first f

variable {cache : Cache.Memory} {locks : Lock.Table}

/-- What taking a lock within the process leaves, once it has been tried for the last time. -/
def tried (d : Deployment) (cache : Cache.Memory) (locks : Lock.Table) (last : Instant) :
    Deployment :=
  { d with
    backing := .process cache locks
    identifiers := d.identifiers + 1
    clock := last.addNanos tick }

/-- A free lock is granted at the instant at which it is asked for. -/
theorem acquire_free (process : d.backing = .process cache locks) (free : locks.isFree key d.clock)
    (lease : UInt64) :
    ∃ h : Lock.Holding, d.acquire key lease =
      (.ok ⟨key, h.owner, .process⟩, d.tried cache (locks.put key h) d.clock) := by
  obtain ⟨more, positive⟩ : ∃ more, d.lockConfig.attempts = more + 1 :=
    Nat.exists_eq_add_one.mpr (Nat.le_max_left 1 _)
  refine ⟨⟨(identifier d.identifiers).text,
    d.clock.addNanos (lease.toNat * Lock.millisecond : Nat)⟩, ?_⟩
  simp only [acquire, takeIdentifier, readClock, process, positive, Lock.Table.acquire_free free]
  rfl

/-- A lock is granted at some instant, or the table stays as it is. -/
theorem acquire_cases (process : d.backing = .process cache locks) (key : String) (lease : UInt64) :
    (∃ last, d.acquire key lease = (.error (.lock key), d.tried cache locks last)) ∨
      ∃ (h : Lock.Holding) (last : Instant), d.acquire key lease =
        (.ok ⟨key, h.owner, .process⟩, d.tried cache (locks.put key h) last) := by
  obtain ⟨last, refused⟩ | ⟨expiry, last, granted⟩ := Lock.Table.acquire_cases locks key
    (identifier d.identifiers).text (lease.toNat * Lock.millisecond)
    (d.lockConfig.pause.toNat * Lock.millisecond) d.lockConfig.attempts d.clock
  · refine .inl ⟨last, ?_⟩
    simp only [acquire, takeIdentifier, readClock, process, refused]
    rfl
  · refine .inr ⟨⟨(identifier d.identifiers).text, expiry⟩, last, ?_⟩
    simp only [acquire, takeIdentifier, readClock, process, granted]
    rfl

/-- Whoever was granted a lock and gives it up leaves the key free. -/
theorem release_held (cache : Cache.Memory) (locks : Lock.Table) (h : Lock.Holding)
    (held : d.backing = .process cache (locks.put key h)) :
    d.release ⟨key, h.owner, .process⟩ =
      (.ok (), { d with backing := .process cache (locks.without key) }) := by
  simp only [release, held, Lock.Table.release_put]

theorem acquire_store (d : Deployment) (key : String) (lease : UInt64) :
    (d.acquire key lease).2.store = d.store := by
  cases backing : d.backing <;> simp only [acquire, takeIdentifier, readClock, backing]

theorem release_store (d : Deployment) (guard : Lock.Guard) :
    (d.release guard).2.store = d.store := by
  cases backing : d.backing <;> simp only [release, readClock, backing]

theorem acquire_outages (d : Deployment) (key : String) (lease : UInt64) :
    (d.acquire key lease).2.outages = d.outages := by
  cases backing : d.backing <;> simp only [acquire, takeIdentifier, readClock, backing]

/-- Only making and raising entries changes them. -/
theorem serve_entries {q : Call} (reads : q.writes = false) (d : Deployment) :
    (serve q d).2.store.entries = d.store.entries ∧ (serve q d).2.store.index = d.store.index := by
  by_cases still : q.isStill
  · exact ⟨(serve_still still d).entries, (serve_still still d).index⟩
  · cases q with
    | insertEntry | incrementEntry => simp [Call.writes] at reads
    | freshId => exact ⟨rfl, rfl⟩
    | acquire key lease =>
        rw [serve, acquire_store]
        exact ⟨rfl, rfl⟩
    | release guard =>
        rw [serve, release_store]
        exact ⟨rfl, rfl⟩
    | _ => exact absurd rfl still

/-- A deployment but for what is counted in it: events, and how often projects were loaded. -/
def uncounted (d : Deployment) : Deployment :=
  { d with events := [], store := { d.store with projectFetches := 0 } }

theorem serve_uncounted (q : Call) (d : Deployment) :
    (serve q d.uncounted).1 = (serve q d).1 ∧
      (serve q d.uncounted).2.uncounted = (serve q d).2.uncounted := by
  cases q with
  | now | freshId | fetchRuleBook | fetchEntry | findDetail | listDetails | statistics | count =>
      exact ⟨rfl, rfl⟩
  | readCache | writeCache | deleteCached | deleteCachedMatching | acquire | release =>
      have backing : d.uncounted.backing = d.backing := rfl
      cases held : d.backing <;>
        simp only [serve, readCache, writeCache, deleteCached, deleteCachedMatching, acquire,
          release, takeIdentifier, readClock, backing, held] <;>
        constructor <;> trivial
  | insertEntry draft =>
      have index : d.uncounted.store.index = d.store.index := rfl
      simp only [serve, insertEntry, Ledger.Store.insertEntry, takeIdentifier, readClock, index]
      cases d.store.index.lookup (draft.ruleId, draft.codeHash) <;> exact ⟨rfl, rfl⟩
  | incrementEntry id limit =>
      have entry : d.uncounted.store.entry? id = d.store.entry? id := rfl
      simp only [serve, incrementEntry, Ledger.Store.incrementEntry, entry]
      cases d.store.entry? id with
      | none => exact ⟨rfl, rfl⟩
      | some e =>
          by_cases reached : limit ≤ e.count <;> simp only [reached, if_true, if_false]
            <;> constructor <;> trivial

theorem strike_uncounted (q : Call) (outage : Outage) (d : Deployment) :
    (strike q outage d.uncounted).1 = (strike q outage d).1 ∧
      (strike q outage d.uncounted).2.uncounted = (strike q outage d).2.uncounted := by
  cases q with
  | insertEntry draft =>
      cases outage with
      | fails | refuses => exact ⟨rfl, rfl⟩
      | overtakes => exact ⟨rfl, (serve_uncounted (.insertEntry draft) d).2⟩
  | _ => cases outage <;> first | exact ⟨rfl, rfl⟩ | exact serve_uncounted _ d

/-- What is counted makes no difference to any answer. -/
theorem answer_uncounted (q : Call) (d : Deployment) :
    (answer q d.uncounted).1 = (answer q d).1 ∧
      (answer q d.uncounted).2.uncounted = (answer q d).2.uncounted := by
  have struck : d.uncounted.outages = d.outages := rfl
  unfold answer
  rw [struck]
  cases q.target?.bind fun t => d.outages.lookup t with
  | none => exact serve_uncounted q d
  | some outage => exact strike_uncounted q outage d

theorem answer_alike (alike : d.uncounted = e.uncounted) (q : Call) :
    (answer q d).1 = (answer q e).1 ∧ (answer q d).2.uncounted = (answer q e).2.uncounted := by
  obtain ⟨toldD, leftD⟩ := answer_uncounted q d
  obtain ⟨toldE, leftE⟩ := answer_uncounted q e
  rw [alike] at toldD leftD
  exact ⟨toldD.symm.trans toldE, leftD.symm.trans leftE⟩

/-- Loading a project is counted and does nothing else. -/
theorem answer_fetchRuleBook_uncounted (projectId : Uuid) (d : Deployment) :
    (answer (.fetchRuleBook projectId) d).2.uncounted = d.uncounted := by
  unfold answer
  split
  · rename_i outage struck
    cases outage <;> rfl
  · rfl

/-- The same projects and rules are stored, and the same is struck. -/
structure SameCatalog (d e : Deployment) : Prop where
  projects : e.store.projects = d.store.projects
  rules : e.store.rules = d.store.rules
  outages : e.outages = d.outages

theorem SameCatalog.refl (d : Deployment) : d.SameCatalog d := ⟨rfl, rfl, rfl⟩

theorem SameCatalog.trans (first : d.SameCatalog e) (second : e.SameCatalog f) : d.SameCatalog f :=
  ⟨second.projects.trans first.projects, second.rules.trans first.rules,
    second.outages.trans first.outages⟩

theorem SameCatalog.ruleBook? (same : d.SameCatalog e) (projectId : Uuid) :
    e.store.ruleBook? projectId = d.store.ruleBook? projectId := by
  simp only [Ledger.Store.ruleBook?, Ledger.Store.project?, same.projects, same.rules]

theorem serve_sameCatalog (q : Call) (d : Deployment) : d.SameCatalog (serve q d).2 := by
  cases q with
  | now | freshId | fetchRuleBook | fetchEntry | findDetail | listDetails | statistics | count =>
      exact ⟨rfl, rfl, rfl⟩
  | readCache | writeCache | deleteCached | deleteCachedMatching | acquire | release =>
      cases held : d.backing <;>
        simp only [serve, readCache, writeCache, deleteCached, deleteCachedMatching, acquire,
          release, takeIdentifier, readClock, held] <;>
        exact ⟨rfl, rfl, rfl⟩
  | insertEntry draft =>
      simp only [serve, insertEntry, Ledger.Store.insertEntry, takeIdentifier, readClock]
      cases d.store.index.lookup (draft.ruleId, draft.codeHash) <;> exact ⟨rfl, rfl, rfl⟩
  | incrementEntry id limit =>
      simp only [serve, incrementEntry, Ledger.Store.incrementEntry]
      cases d.store.entry? id with
      | none => exact ⟨rfl, rfl, rfl⟩
      | some e =>
          by_cases reached : limit ≤ e.count <;> simp only [reached, if_true, if_false]
            <;> exact ⟨rfl, rfl, rfl⟩

theorem answer_sameCatalog (q : Call) (d : Deployment) : d.SameCatalog (answer q d).2 := by
  unfold answer
  cases q.target?.bind fun t => d.outages.lookup t with
  | none => exact serve_sameCatalog q d
  | some outage =>
      cases q with
      | insertEntry draft =>
          cases outage with
          | fails | refuses => exact .refl d
          | overtakes => exact serve_sameCatalog (.insertEntry draft) d
      | _ => cases outage <;> first | exact .refl d | exact serve_sameCatalog _ d

theorem perform_sameCatalog (d : Deployment) (m : Action α) : d.SameCatalog (d.perform m).2 := by
  induction m generalizing d with
  | done a => exact .refl d
  | ask q k ih => exact (answer_sameCatalog q d).trans (ih _ _)

end Deployment

end Voucher.Service
