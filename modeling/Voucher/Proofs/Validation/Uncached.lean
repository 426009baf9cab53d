import Voucher.Proofs.Cache.Unreliable
import Voucher.Proofs.Validation.Questions
import Voucher.Proofs.Validation.ReadBack

/-! Validations with a cache that fails as it likes, and the same validations without a cache. The
clock goes alike for both: the cache takes no time. -/
namespace Voucher

open Service Cache

namespace Cache.Unreliable

variable {whims : Nat → Whim} {s t : Unreliable}

/-- Storage works, the books in it are exact, and the cache has nothing but texts of them. -/
structure Sound (s : Unreliable) : Prop where
  works : s.deployment.outages.lookup .fetchProject = none
  exact : s.deployment.store.Exact
  faithful : ∀ projectId text, s.texts (Rules.key projectId) = some text →
    ∃ book, s.deployment.store.ruleBook? projectId = some book ∧ text = Rules.encode book

theorem Sound.next (sound : s.Sound) (same : s.deployment.SameCatalog t.deployment)
    (origin : ∀ projectId text, t.texts (Rules.key projectId) = some text →
      s.texts (Rules.key projectId) = some text ∨
      ∃ book, s.deployment.store.ruleBook? projectId = some book ∧ text = Rules.encode book) :
      t.Sound := by
  refine ⟨same.outages ▸ sound.works, fun projectId book held => ?_, fun projectId text held => ?_⟩
  · rw [same.ruleBook?] at held
    exact sound.exact projectId book held
  · rw [same.ruleBook?]
    exact (origin projectId text held).elim (sound.faithful projectId text) id

/-- Forgetting does no harm, whether it is carried out or not. -/
theorem Sound.change (sound : s.Sound) (whim : Whim) {texts : String → Option String}
    (fewer : ∀ k text, texts k = some text → s.texts k = some text) :
    (s.change whim texts).Sound := by
  refine sound.next (.refl _) fun projectId text held => .inl ?_
  unfold Unreliable.change at held
  cases obeys : whim.obeys with
  | false =>
      rw [obeys] at held
      exact held
  | true =>
      rw [obeys] at held
      exact fewer _ text held

theorem Sound.fetched (sound : s.Sound) (projectId : Uuid) :
    (Deployment.answer (.fetchRuleBook projectId) s.deployment).1 =
      .ok (s.deployment.store.ruleBook? projectId) := by
  have served := Deployment.perform_served (d := s.deployment) (q := .fetchRuleBook projectId)
    fun t target => by
    cases target
    exact sound.works
  exact congrArg Prod.fst served

end Cache.Unreliable

namespace Validation

variable {whims : Nat → Whim} {s : Unreliable} {d : Deployment}

theorem run_readBack {σ : Type} {answer : (q : Call) → σ → q.Answer × σ}
    (m : Action (Result Outcome)) (s : σ) :
    (readBack m).run answer s =
      ((m.run answer s).1.map Outcome.withoutNulls, (m.run answer s).2) := by
  rw [readBack, Script.run_bind]
  rfl

/-- A validation that has its book from storage. -/
def runUncached (policy : Policy) (request : Request) : Action (Result Outcome) := do
  let found ← Action.fetchRuleBook request.projectId
  conclude policy request found

/-- A result as it is told. -/
def told (result : Result Outcome) : Result Json := result.map Outcome.toJson

theorem told_withoutNulls (result : Result Outcome) :
    told (result.map Outcome.withoutNulls) = told result := by
  cases result with
  | error e => rfl
  | ok o => exact congrArg Except.ok o.toJson_withoutNulls

/-- A validation that has its book does not come back to the cache. -/
theorem conclude_elsewhere (policy : Policy) (request : Request)
    (found : Result (Option RuleBook)) :
    (conclude policy request found).Asks (·.isCaching = false) := by
  refine (conclude_asks policy request found).mono fun q concluding => ?_
  cases q with
  | readCache | writeCache | deleteCached | deleteCachedMatching =>
      exact absurd concluding Bool.false_ne_true
  | _ => rfl

theorem run_told (sound : s.Sound) (alike : s.deployment.uncounted = d.uncounted)
    (whims : Nat → Whim) (policy : Policy) (request : Request) :
    told (s.perform whims (run policy request)).1 =
      told (d.perform (runUncached policy request)).1 ∧
      (s.perform whims (run policy request)).2.deployment.uncounted =
        (d.perform (runUncached policy request)).2.uncounted ∧
      (s.perform whims (run policy request)).2.Sound := by
  obtain ⟨found, stored⟩ : ∃ found, found = s.deployment.store.ruleBook? request.projectId :=
    ⟨_, rfl⟩
  have fetched := sound.fetched request.projectId
  rw [← stored] at fetched
  -- Both sides come to the same conclusion from the book; they differ in what the getter leaves
  -- behind.
  have uncached : d.perform (runUncached policy request) =
      (Deployment.answer (.fetchRuleBook request.projectId) d).2.perform
        (conclude policy request (.ok found)) := by
    rw [← fetched, (Deployment.answer_alike alike _).1]
    rfl
  obtain ⟨t, left, got⟩ := Rules.perform_get_unreliable s whims policy.cacheLife request.projectId
  rw [fetched] at got left
  have still : t.deployment.uncounted =
      (Deployment.answer (.fetchRuleBook request.projectId) d).2.uncounted := by
    rw [left.uncounted, Deployment.answer_fetchRuleBook_uncounted, alike]
  obtain ⟨result, after, texts⟩ :=
    Unreliable.perform_elsewhere (conclude_elsewhere policy request (.ok found)) whims still
  -- A book from the cache is the stored one as it is read back, and then all goes as with that.
  have concluded : told (s.perform whims (run policy request)).1 =
        told (t.perform whims (conclude policy request (.ok found))).1 ∧
      (s.perform whims (run policy request)).2 =
        (t.perform whims (conclude policy request (.ok found))).2 := by
    obtain loaded | ⟨text, book, held, decoded, hit⟩ := got
    · rw [Unreliable.perform, run_conclude loaded]
      exact ⟨rfl, rfl⟩
    · obtain ⟨original, there, rfl⟩ := sound.faithful _ _ held
      obtain rfl := Rules.eq_of_decode?_encode (sound.exact _ _ there) decoded
      rw [Unreliable.perform, run_conclude hit, conclude_withoutNulls, run_readBack, stored, there]
      exact ⟨told_withoutNulls _, rfl⟩
  rw [uncached, concluded.1, concluded.2, result]
  have kept := s.perform_sameCatalog whims (run policy request)
  refine ⟨rfl, after, sound.next (concluded.2 ▸ kept) ?_⟩
  intro projectId text held
  rw [texts] at held
  refine (left.texts _ text held).imp id ?_
  rintro ⟨own, book, there, written⟩
  obtain rfl := Rules.key_inj own
  exact ⟨book, stored.symm.trans (Except.ok.inj there), written⟩

inductive Step where
  | validates (request : Request)
  | forgets (projectId : Uuid)
  | forgetsAll
  | waits (n : Nat)

namespace Step

def withCache (whims : Nat → Whim) (policy : Policy) :
    Step → Unreliable → Option (Result Outcome) × Unreliable
  | validates request, s => (s.perform whims (run policy request)).map some id
  | forgets projectId, s => (none, (s.perform whims (Rules.invalidate projectId)).2)
  | forgetsAll, s => (none, (s.perform whims Rules.invalidateAll).2)
  | waits n, s =>
      (none, { s with deployment := { s.deployment with clock := s.deployment.clock.addNanos n } })

def withoutCache (policy : Policy) : Step → Deployment → Option (Result Outcome) × Deployment
  | validates request, d => (d.perform (runUncached policy request)).map some id
  | forgets _, d | forgetsAll, d => (none, d)
  | waits n, d => (none, { d with clock := d.clock.addNanos n })

end Step

/-- What is told at each step, and what is left at the end. -/
def inTurn {σ : Type} (act : Step → σ → Option (Result Outcome) × σ) :
    List Step → σ → List (Option (Result Json)) × σ
  | [], s => ([], s)
  | step :: rest, s =>
    let (result, s) := act step s
    let (results, s) := inTurn act rest s
    (result.map told :: results, s)

theorem step_told (sound : s.Sound) (alike : s.deployment.uncounted = d.uncounted)
    (whims : Nat → Whim) (policy : Policy) (step : Step) :
    (step.withCache whims policy s).1.map told = (step.withoutCache policy d).1.map told ∧
      (step.withCache whims policy s).2.deployment.uncounted =
        (step.withoutCache policy d).2.uncounted ∧
      (step.withCache whims policy s).2.Sound := by
  cases step with
  | validates request =>
      obtain ⟨result, after, still⟩ := run_told sound alike whims policy request
      exact ⟨congrArg some result, after, still⟩
  | forgets projectId =>
      refine ⟨rfl, alike, sound.change (whims s.asked) fun k text held => ?_⟩
      rw [Function.update_apply] at held
      split at held
      · contradiction
      · exact held
  | forgetsAll =>
      rw [Step.withCache, Unreliable.perform, Rules.invalidateAll_run]
      refine ⟨rfl, alike, sound.change (whims s.asked) fun k text held => ?_⟩
      split at held
      · contradiction
      · exact held
  | waits n =>
      refine ⟨rfl, ?_, sound.next ⟨rfl, rfl, rfl⟩ fun _ _ => .inl⟩
      exact congrArg (fun d : Deployment => { d with clock := d.clock.addNanos n }) alike

theorem inTurn_told (sound : s.Sound) (alike : s.deployment.uncounted = d.uncounted)
    (whims : Nat → Whim) (policy : Policy) (steps : List Step) :
    (inTurn (Step.withCache whims policy) steps s).1 =
      (inTurn (Step.withoutCache policy) steps d).1 ∧
      (inTurn (Step.withCache whims policy) steps s).2.deployment.uncounted =
        (inTurn (Step.withoutCache policy) steps d).2.uncounted := by
  induction steps generalizing s d with
  | nil => exact ⟨rfl, alike⟩
  | cons step rest ih =>
      obtain ⟨result, after, still⟩ := step_told sound alike whims policy step
      obtain ⟨results, last⟩ := ih still after
      exact ⟨congrArg₂ List.cons result results, last⟩

/-- A cache that fails as it likes is not seen: every validation is told and does to the
ledger what it would be told and do without a cache. Nor does it make looking for a book
fail: only storage does. -/
theorem cache_unseen (whims : Nat → Whim) (policy : Policy) :
    (∀ steps s, Unreliable.Sound s →
      (inTurn (Step.withCache whims policy) steps s).1 =
        (inTurn (Step.withoutCache policy) steps s.deployment).1 ∧
      (inTurn (Step.withCache whims policy) steps s).2.deployment.uncounted =
        (inTurn (Step.withoutCache policy) steps s.deployment).2.uncounted) ∧
    ∀ s projectId e, (Unreliable.perform s whims (Rules.get policy.cacheLife projectId)).1 =
      .error e →
      (Deployment.answer (.fetchRuleBook projectId) s.deployment).1 = .error e := by
  constructor
  · intro steps s sound
    exact inTurn_told sound rfl whims policy steps
  · intro s projectId e failed
    obtain ⟨t, -, loaded | ⟨text, book, -, -, hit⟩⟩ :=
      Rules.perform_get_unreliable s whims policy.cacheLife projectId
    · rw [← failed, loaded]
    · rw [hit] at failed
      contradiction

/-- A cache that fails every other time, and says that a change has failed when it has not. -/
def fickle (n : Nat) : Whim where
  finding := if n % 2 = 0 then .failure .redis else .stored
  changed := .error .redis
  removed := .error .redis
  obeys := true

theorem cache_unseen_fickle :
    (inTurn (Step.withCache fickle default)
        [.validates (trial "79927398713"), .validates (trial "79927398713")]
        ⟨{ Deployment.inMemory .standard .epoch 0 with store := Rules.storeOf .sample },
          fun _ => none, 0⟩).1 =
      (inTurn (Step.withoutCache default)
        [.validates (trial "79927398713"), .validates (trial "79927398713")]
        { Deployment.inMemory .standard .epoch 0 with store := Rules.storeOf .sample }).1 := by
  refine ((cache_unseen fickle default).1 _ _ ⟨rfl, Rules.storeOf_exact Rules.sample_exact, ?_⟩).1
  rintro projectId text ⟨⟩

end Validation

end Voucher
