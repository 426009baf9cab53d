import Voucher.Proofs.Cache.Entry
import Voucher.Proofs.Cache.Getter
import Voucher.Proofs.Cache.Key

/-! Rule books asked for one after the other, with changes of storage and waiting in between. A book
from the cache is one that storage held less than a lifetime ago, and not before it was last
invalidated. -/
namespace Voucher

namespace Cache.Rules

open Service

/-- What asking for a book does: it is found in the cache, or it is the one that storage has, and
then the cache may hold it too. -/
inductive Got (life : UInt64) (projectId : Uuid) (d e : Deployment) : Option RuleBook → Prop where
  | cached {slot : Slot} {book : RuleBook} (held : d.slot? (key projectId) = some slot)
      (fresh : d.clock.lt slot.expiry) (read : decode? slot.text = some book)
      (old : ∀ k slot, e.slot? k = some slot → d.slot? k = some slot) : Got life projectId d e
        (some book)
  | loaded
      (unread : ∀ slot, d.slot? (key projectId) = some slot → d.clock.lt slot.expiry →
        decode? slot.text = none)
      (origin : ∀ k slot, e.slot? k = some slot → d.slot? k = some slot ∨
        k = key projectId ∧ ∃ book, d.store.ruleBook? projectId = some book ∧
        slot.text = encode book ∧
          slot.expiry.le (e.clock.addNanos (lifetime life))) :
      Got life projectId d e (d.store.ruleBook? projectId)

variable {life : UInt64} {projectId : Uuid} {book : RuleBook} {d e : Deployment} {cache : Memory}
  {locks : Lock.Table} {slot : Slot}

theorem perform_get (inProcess : d.InProcess) (life : UInt64) (projectId : Uuid) :
    ∃ found e, d.perform (get life projectId) = (.ok found, e) ∧ e.InProcess ∧
      (∀ p, e.store.ruleBook? p = d.store.ruleBook? p) ∧ Got life projectId d e found := by
  obtain ⟨phase, a, read, inProcess, storeA, follows, slotsA⟩ :=
    Phase.step_cases inProcess life projectId .reading
  obtain ⟨next, b, counted, inProcess, storeB, follows', slotsB⟩ :=
    Phase.step_cases inProcess life projectId phase
  -- The first two questions read the cache and count what was found; storage is asked only after a
  -- miss.
  have started : d.perform (get life projectId) = b.perform (next.script life projectId) :=
    (Deployment.perform_step read).trans (Deployment.perform_step counted)
  have store (p : Uuid) := (storeB p).trans (storeA p)
  cases follows with
  | found held fresh decoded =>
      cases follows'
      refine ⟨_, b, started, inProcess, store, .cached held fresh decoded fun k slot found => ?_⟩
      exact (slotsA k slot ((slotsB k slot found).resolve_right (by simp))).resolve_right (by simp)
  | missed result unread =>
      cases follows'
      have old (k slot) (found : b.slot? k = some slot) : d.slot? k = some slot :=
        (slotsA k slot ((slotsB k slot found).resolve_right (by simp))).resolve_right (by simp)
      obtain ⟨phase, c, fetched, inProcess, storeC, follows, slotsC⟩ :=
        Phase.step_cases inProcess life projectId .fetching
      cases follows
      rw [store] at fetched
      rw [Deployment.perform_step fetched] at started
      cases held : d.store.ruleBook? projectId with
      | none =>
          rw [held] at started
          refine ⟨_, c, started, inProcess, fun p => (storeC p).trans (store p),
            held ▸ .loaded unread fun k slot found => ?_⟩
          exact .inl (old k slot ((slotsC k slot found).resolve_right (by simp)))
      | some book =>
          rw [held] at started
          obtain ⟨phase, e, written, inProcess, storeE, follows, slotsE⟩ :=
            Phase.step_cases inProcess life projectId (.writing book)
          cases follows
          rw [Phase.ofFetch, Deployment.perform_step written] at started
          refine ⟨_, e, started, inProcess, fun p => (storeE p).trans ((storeC p).trans (store p)),
            held ▸ .loaded unread fun k slot found => ?_⟩
          obtain left | ⟨own, other, same, text, expiry⟩ := slotsE k slot found
          · exact .inl (old k slot ((slotsC k slot left).resolve_right (by simp)))
          · cases same
            exact .inr ⟨own, book, held, text, expiry⟩

/-- What happens between two books that are asked for, or is one. -/
inductive Event where
  | get (projectId : Uuid)
  | invalidate (projectId : Uuid)
  | invalidateAll
  /-- Storage changes in any way. -/
  | store (s : Ledger.Store)
  /-- Nanoseconds go by. -/
  | wait (n : Nat)

namespace Event

def apply (life : UInt64) : Event → Deployment → Deployment
  | get projectId, d => (d.perform (Rules.get life projectId)).2
  | invalidate projectId, d => (d.perform (Rules.invalidate projectId)).2
  | invalidateAll, d => (d.perform Rules.invalidateAll).2
  | store s, d => { d with store := s }
  | wait n, d => { d with clock := d.clock.addNanos n }

/-- The book of a project is forgotten. -/
def Forgets (projectId : Uuid) : Event → Prop
  | invalidate p => p = projectId
  | invalidateAll => True
  | _ => False

end Event

/-- A deployment after some events, one after the other. -/
def replay (life : UInt64) (events : List Event) (d : Deployment) : Deployment :=
  events.foldl (fun d event => event.apply life d) d

theorem perform_invalidate (calm : d.outages = []) (process : d.backing = .process cache locks)
    (projectId : Uuid) :
    (d.perform (invalidate projectId)).2 =
      { d with backing := .process (cache.delete (key projectId)) locks } := by
  rw [invalidate, Deployment.perform_bind, Action.deleteCached, Deployment.perform_call calm]
  simp only [Deployment.serve, Deployment.deleteCached, process]
  rfl

theorem perform_invalidateAll (calm : d.outages = []) (process : d.backing = .process cache locks) :
    (d.perform invalidateAll).2 =
      { d with backing := .process (cache.deleteMatching Key.allProjects).2 locks } := by
  rw [Deployment.perform, invalidateAll_run, Deployment.answer_calm calm]
  simp only [Deployment.serve, Deployment.deleteCachedMatching, process]

/-- What an event does to the cache: it keeps entries, or a reader adds one with the book of
storage. What is forgotten is gone. -/
theorem apply_slot (inProcess : d.InProcess) (life : UInt64) (event : Event) (projectId : Uuid) :
    ∀ slot, (event.apply life d).slot? (key projectId) = some slot →
      d.slot? (key projectId) = some slot ∧ ¬ event.Forgets projectId ∨
      ∃ book, (event.apply life d).store.ruleBook? projectId = some book ∧ slot.text = encode book ∧
        slot.expiry.le ((event.apply life d).clock.addNanos (lifetime life)) := by
  have process := inProcess
  obtain ⟨calm, cache, locks, process⟩ := process
  have slots := Deployment.slot?_of_process process (key projectId)
  intro slot found
  cases event with
  | get p =>
      obtain ⟨book, e, got, -, store, outcome⟩ := perform_get inProcess life p
      have after : (Event.get p).apply life d = e := congrArg Prod.snd got
      rw [after] at found ⊢
      cases outcome with
      | cached held fresh read old => exact .inl ⟨old _ slot found, id⟩
      | loaded unread origin =>
          obtain old | ⟨own, book, stored, text, expiry⟩ := origin _ slot found
          · exact .inl ⟨old, id⟩
          · obtain rfl := key_inj own
            exact .inr ⟨book, (store _).trans stored, text, expiry⟩
  | invalidate p =>
      have after := perform_invalidate calm process p
      have left := Deployment.slot?_of_process (d := (d.perform (invalidate p)).2)
        (by rw [after]) (key projectId)
      rw [Event.apply, left] at found
      by_cases same : p = projectId
      · rw [same, Memory.slot?_delete_self] at found
        contradiction
      · exact .inl ⟨slots.trans (Memory.slot?_of_delete found), same⟩
  | invalidateAll =>
      have after := perform_invalidateAll calm process
      have left := Deployment.slot?_of_process (d := (d.perform invalidateAll).2)
        (by rw [after]) (key projectId)
      rw [Event.apply, left, Memory.slot?_deleteMatching, key,
        if_pos (Key.allProjects_accepts_iff.mpr ⟨_, rfl⟩)] at found
      contradiction
  | store s => exact .inl ⟨found, id⟩
  | wait n => exact .inl ⟨found, id⟩

theorem apply_inProcess (inProcess : d.InProcess) (life : UInt64) (event : Event) :
    (event.apply life d).InProcess := by
  have process := inProcess
  obtain ⟨calm, cache, locks, process⟩ := process
  cases event with
  | get p =>
      obtain ⟨book, e, got, still, -⟩ := perform_get inProcess life p
      have after : (Event.get p).apply life d = e := congrArg Prod.snd got
      rw [after]
      exact still
  | invalidate p =>
      rw [Event.apply, perform_invalidate calm process p]
      exact ⟨calm, _, locks, rfl⟩
  | invalidateAll =>
      rw [Event.apply, perform_invalidateAll calm process]
      exact ⟨calm, _, locks, rfl⟩
  | store | wait => exact ⟨calm, cache, locks, process⟩

/-- Only a change of storage changes what books there are. -/
theorem apply_ruleBook? (inProcess : d.InProcess) (life : UInt64) (event : Event)
    (projectId : Uuid) :
    (event.apply life d).store.ruleBook? projectId = match event with
      | .store s => s.ruleBook? projectId
      | _ => d.store.ruleBook? projectId := by
  have process := inProcess
  obtain ⟨calm, cache, locks, process⟩ := process
  cases event with
  | get p =>
      obtain ⟨book, e, got, -, store, -⟩ := perform_get inProcess life p
      have after : (Event.get p).apply life d = e := congrArg Prod.snd got
      rw [after]
      exact store projectId
  | invalidate p => simp only [Event.apply, perform_invalidate calm process p]
  | invalidateAll => simp only [Event.apply, perform_invalidateAll calm process]
  | store | wait => rfl

variable {events : List Event}

/-- An entry is the text of a book that storage held at some moment since the project was last
forgotten, and expires a lifetime after that moment at the latest. -/
def Origin (life : UInt64) (projectId : Uuid) (events : List Event) (d : Deployment)
    (book : RuleBook) (expiry : Instant) : Prop :=
  ∃ before after, events = before ++ after ∧ (∀ event ∈ after, ¬ event.Forgets projectId) ∧
    (replay life before d).store.ruleBook? projectId = some book ∧
    expiry.le ((replay life before d).clock.addNanos (lifetime life))

theorem Origin.now (held : (replay life events d).store.ruleBook? projectId = some book)
    {expiry : Instant} (limit : expiry.le ((replay life events d).clock.addNanos (lifetime life))) :
    Origin life projectId events d book expiry :=
  ⟨events, [], by simp, by simp, held, limit⟩

theorem Origin.concat {expiry : Instant} (origin : Origin life projectId events d book expiry)
    {event : Event} (kept : ¬ event.Forgets projectId) :
    Origin life projectId (events ++ [event]) d book expiry := by
  obtain ⟨before, after, split, unforgotten, held, limit⟩ := origin
  refine ⟨before, after ++ [event], by simp [split], fun other later => ?_, held, limit⟩
  obtain earlier | last := List.mem_append.mp later
  · exact unforgotten other earlier
  · exact List.mem_singleton.mp last ▸ kept

end Cache.Rules

end Voucher
