import Voucher.Cache.Rules
import Voucher.Proofs.Service.Deployment

/-! Rule books as a deployment gives them, and what asking for one leaves as it was. -/
namespace Voucher.Cache.Rules

open Service

variable {d : Deployment} {cache : Memory} {locks : Lock.Table}

/-- A book that is not cached comes from storage. -/
theorem perform_get_uncached (calm : d.outages = []) (process : d.backing = .process cache locks)
    (life : UInt64) (projectId : Uuid) (uncached : cache.slot? (key projectId) = none) :
    ∃ e, d.perform (get life projectId) = (.ok (d.store.ruleBook? projectId), e) := by
  have missed : d.perform (Action.readCache (key projectId)) =
      (.ok none, { d with clock := d.clock.addNanos Deployment.tick }) := by
    rw [Action.readCache, Deployment.perform_call calm]
    simp only [Deployment.serve, Deployment.readCache, process, Deployment.readClock, Memory.read,
      uncached]
  rw [get, Deployment.perform_bind, missed]
  simp only
  rw [Deployment.perform_bind, load, Deployment.perform_bind, Action.fetchRuleBook, Action.count,
    Deployment.perform_call (by exact calm), Deployment.perform_call (by exact calm)]
  simp only [Deployment.serve, Ledger.Store.fetchRuleBook]
  cases d.store.ruleBook? projectId with
  | none => exact ⟨_, rfl⟩
  | some book => exact ⟨_, rfl⟩

theorem load_found (works : d.outages.lookup .fetchProject = none) (life : UInt64)
    (projectId : Uuid) :
    ∃ found, (d.perform (load life projectId)).1 = .ok found := by
  have fetched : d.perform (Action.fetchRuleBook projectId) =
      Deployment.serve (.fetchRuleBook projectId) d :=
    Deployment.perform_served fun t target => by
      cases target
      exact works
  rw [load, Deployment.perform_bind, fetched]
  simp only [Deployment.serve]
  cases (d.store.fetchRuleBook projectId).1 with
  | none => exact ⟨none, rfl⟩
  | some book => exact ⟨some book, rfl⟩

/-- Only storage can make looking for a book fail. -/
theorem get_found (works : d.outages.lookup .fetchProject = none) (life : UInt64)
    (projectId : Uuid) :
    ∃ found, (d.perform (get life projectId)).1 = .ok found := by
  have read :=
    (Deployment.perform_still (Call.asks_still (q := .readCache (key projectId)) rfl) d).outages
  have loads (result : String) : ∃ found, ((d.perform (Action.readCache (key projectId))).2.perform
      (do Action.count (.cacheLookup result); load life projectId)).1 = .ok found := by
    have counted :=
      (Deployment.perform_still (Call.asks_still (q := .count (.cacheLookup result)) rfl)
      (d.perform (Action.readCache (key projectId))).2).outages
    rw [Deployment.perform_bind]
    exact load_found (counted.trans read ▸ works) life projectId
  rw [get, Deployment.perform_bind]
  obtain e | none | text := (d.perform (Action.readCache (key projectId))).1
  · exact loads _
  · exact loads _
  · cases found : decode? text with
    | none =>
        simp only [found]
        exact loads _
    | some book =>
        simp only [found]
        exact ⟨some book, rfl⟩

/-- The questions with which the book of a project is had. -/
def Loading (projectId : Uuid) : Call → Prop
  | .readCache k | .writeCache k _ _ => k = key projectId
  | .fetchRuleBook p => p = projectId
  | .count (.cacheLookup _) => True
  | _ => False

theorem Loading.isStill {q : Call} (loading : Loading projectId q) : q.isStill := by
  cases q with
  | readCache | writeCache | fetchRuleBook | count => rfl
  | _ => exact loading.elim

theorem load_asks_loading (life : UInt64) (projectId : Uuid) :
    (load life projectId).Asks (Loading projectId) := by
  have fetches : (Action.fetchRuleBook projectId).Asks (Loading projectId) :=
    ⟨rfl, fun _ => trivial⟩
  have writes (text : String) :
      (Action.writeCache (key projectId) text life).Asks (Loading projectId) :=
    ⟨rfl, fun _ => trivial⟩
  refine fetches.bind ?_
  rintro (e | book | book)
  · trivial
  · trivial
  · exact (writes _).bind fun _ => trivial

theorem get_asks_loading (life : UInt64) (projectId : Uuid) :
    (get life projectId).Asks (Loading projectId) := by
  have reads : (Action.readCache (key projectId)).Asks (Loading projectId) :=
    ⟨rfl, fun _ => trivial⟩
  have counts (result : String) : (Action.count (.cacheLookup result)).Asks (Loading projectId) :=
    ⟨trivial, fun _ => trivial⟩
  have loads (result : String) : Script.Asks (Loading projectId)
      (do Action.count (.cacheLookup result); load life projectId) :=
    (counts result).bind fun _ => load_asks_loading life projectId
  refine reads.bind ?_
  rintro (e | text | text)
  · exact loads _
  · exact loads _
  · cases found : decode? text with
    | none =>
        simp only [found]
        exact loads _
    | some book =>
        simp only [found]
        exact (counts _).bind fun _ => trivial

theorem get_asks (life : UInt64) (projectId : Uuid) : (get life projectId).Asks (·.isStill) :=
  (get_asks_loading life projectId).mono fun _ loading => loading.isStill

theorem invalidate_asks (projectId : Uuid) : (invalidate projectId).Asks (·.isStill) :=
  (Call.asks_still rfl).bind fun _ => Script.asks_pure _

/-- To forget all books is one question, whatever comes of it. -/
theorem invalidateAll_run {σ : Type} (answer : (q : Call) → σ → q.Answer × σ) (s : σ) :
    (invalidateAll.run answer s).2 = (answer (.deleteCachedMatching Key.allProjects) s).2 := by
  rw [invalidateAll, Script.run_bind, Action.deleteCachedMatching, Script.call, Script.run,
    Script.run]
  cases (answer (.deleteCachedMatching Key.allProjects) s).1 <;> rfl

theorem invalidateAll_asks : invalidateAll.Asks (·.isStill) := by
  refine (Call.asks_still rfl).bind ?_
  rintro (e | n) <;> exact Script.asks_pure _

end Voucher.Cache.Rules
