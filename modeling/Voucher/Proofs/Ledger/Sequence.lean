import Voucher.Proofs.Ledger.Redeem
import Voucher.Rule.Sample

/-! Redemptions one after the other, each at its own moment, over any rules and codes. Each key sees
its own redemptions only, and counts them. -/
namespace Voucher.Ledger.Sequence

open Service

/-- A redemption that comes at a moment; identifiers are given to it from a number on. -/
structure Visit where
  rule : Rule
  normalized : String
  context : Context
  moment : Instant
  identifiers : Nat

namespace Visit

def key (v : Visit) : Key := (v.rule.id, codeHash v.normalized)

/-- The first identifier is the owner's of the lock, the second that of an entry. -/
def entryId (v : Visit) : Uuid := Deployment.identifier (v.identifiers + 1)

/-- The entry that the redemption makes if it is the first of its key. -/
def entry (policy : Policy) (v : Visit) : Entry :=
  (draft policy v.rule v.normalized v.context).entry v.entryId (v.moment.addNanos Deployment.tick)

/-- A deployment at the moment of a redemption. -/
def meet (d : Deployment) (v : Visit) : Deployment :=
  { d with clock := v.moment, identifiers := v.identifiers }

def perform (policy : Policy) (d : Deployment) (v : Visit) : Result Redemption × Deployment :=
  (v.meet d).perform (redeem policy v.rule v.normalized v.context)

end Visit

/-- A redemption with what came of it, and the ledger before and after. -/
structure Turn where
  visit : Visit
  outcome : Result Redemption
  before : Store
  after : Store

def turns (policy : Policy) : Deployment → List Visit → List Turn
  | _, [] => []
  | d, v :: rest =>
      ⟨v, (v.perform policy d).1, d.store, (v.perform policy d).2.store⟩ ::
        turns policy (v.perform policy d).2 rest

/-- The deployment after all redemptions. -/
def finish (policy : Policy) : Deployment → List Visit → Deployment
  | d, [] => d
  | d, v :: rest => finish policy (v.perform policy d).2 rest

def ofKey (key : Key) (visits : List Visit) : List Visit := visits.filter (·.key == key)

def turnsOf (key : Key) (turns : List Turn) : List Turn := turns.filter (·.visit.key == key)

/-- The locks are within the process and nobody else holds one that is asked for; the identifiers of
entries are new. -/
structure Ready (d : Deployment) (visits : List Visit) : Prop where
  calm : d.outages = []
  built : d.store.Built
  unlocked : ∃ cache locks, d.backing = .process cache locks ∧
    ∀ v ∈ visits, locks.isFree (lockKey v.rule v.normalized) v.moment
  distinct : (visits.map Visit.entryId).Nodup
  fresh : ∀ v ∈ visits, d.store.entry? v.entryId = none

theorem Ready.sublist (ready : Ready d visits) (fewer : chosen.Sublist visits) :
    Ready d chosen := by
  obtain ⟨calm, built, ⟨cache, locks, process, free⟩, distinct, fresh⟩ := ready
  exact ⟨calm, built, ⟨cache, locks, process, fun v member => free v (fewer.subset member)⟩,
    distinct.sublist (fewer.map _), fun v member => fresh v (fewer.subset member)⟩

/-- What a redemption is for the ledger. -/
def Visit.settle (policy : Policy) (s : Store) (v : Visit) : Redemption × Store :=
  s.settle v.rule.redemptionLimit (draft policy v.rule v.normalized v.context) v.entryId
    (v.moment.addNanos Deployment.tick)

theorem Ready.perform (policy : Policy) (ready : Ready d (v :: rest)) :
    (v.perform policy d).1 = .ok (v.settle policy d.store).1 ∧
      (v.perform policy d).2.store = (v.settle policy d.store).2 ∧
      Ready (v.perform policy d).2 rest := by
  obtain ⟨calm, built, ⟨cache, locks, process, free⟩, distinct, fresh⟩ := ready
  have new := fresh v List.mem_cons_self
  obtain ⟨h, granted⟩ := Deployment.acquire_free (d := v.meet d) process (free v List.mem_cons_self)
    policy.lease
  obtain ⟨clock, performed⟩ := perform_redeem_granted (d := v.meet d) policy v.rule
    v.normalized v.context calm built.consistent granted
  rw [Visit.perform, performed]
  refine ⟨rfl, rfl, calm, built.settle new _ _ _, ⟨cache, _, rfl, ?_⟩, ?_, ?_⟩
  · intro next member
    exact Lock.Table.isFree_without (free next (List.mem_cons_of_mem v member))
  · exact (List.nodup_cons.mp distinct).2
  · intro next member
    have ne : next.entryId ≠ v.entryId := by
      intro same
      exact (List.nodup_cons.mp distinct).1 (List.mem_map.mpr ⟨next, member, same⟩)
    exact built.consistent.settle_fresh new _ _ _ (fresh next (List.mem_cons_of_mem v member)) ne

theorem turns_visit (policy : Policy) (d : Deployment) (visits : List Visit) :
    (turns policy d visits).map (·.visit) = visits := by
  induction visits generalizing d with
  | nil => rfl
  | cons v rest ih => simp only [turns, List.map_cons, ih]

/-- Redemptions of one key as its entry sees them. -/
def count (policy : Policy) : Option Entry → List Visit → List Redemption × Option Entry
  | e, [] => ([], e)
  | e, v :: rest =>
      let first := Store.settleEntry v.rule.redemptionLimit (v.entry policy) e
      let later := count policy first.2 rest
      (first.1 :: later.1, later.2)

/-- What a key sees of a run is what its entry sees of its own redemptions. -/
theorem Ready.count (policy : Policy) (ready : Ready d visits) (key : Key) :
    ((turnsOf key (turns policy d visits)).map (·.outcome),
        (finish policy d visits).store.fetchEntry key.1 key.2) =
      ((count policy (d.store.fetchEntry key.1 key.2) (ofKey key visits)).1.map .ok,
        (count policy (d.store.fetchEntry key.1 key.2) (ofKey key visits)).2) := by
  induction visits generalizing d with
  | nil => rfl
  | cons v rest ih =>
      obtain ⟨outcome, store, next⟩ := ready.perform policy
      have consistent := ready.built.consistent
      have new := ready.fresh v List.mem_cons_self
      have later := ih next
      rw [store] at later
      by_cases own : v.key = key
      · subst own
        have settled :
            ((v.settle policy d.store).1, (v.settle policy d.store).2.fetchEntry v.key.1 v.key.2) =
              Store.settleEntry v.rule.redemptionLimit (v.entry policy)
                (d.store.fetchEntry v.key.1 v.key.2) :=
          consistent.settle_own new _ (draft policy v.rule v.normalized v.context) _
        have mine : ofKey v.key (v :: rest) = v :: ofKey v.key rest := by simp [ofKey]
        have turn : turnsOf v.key (turns policy d (v :: rest)) =
            ⟨v, (v.perform policy d).1, d.store, (v.perform policy d).2.store⟩ ::
              turnsOf v.key (turns policy (v.perform policy d).2 rest) := by
          simp [turnsOf, turns]
        obtain ⟨outcomes, entry⟩ := Prod.mk.inj later
        rw [mine, turn, List.map_cons, outcome, outcomes, Sequence.count, ← settled, finish, entry]
        rfl
      · have unchanged : (v.settle policy d.store).2.fetchEntry key.1 key.2 =
            d.store.fetchEntry key.1 key.2 :=
          consistent.settle_other (d := draft policy v.rule v.normalized v.context) new _ _ own
        have skipped : ofKey key (v :: rest) = ofKey key rest := by simp [ofKey, own]
        have passed : turnsOf key (turns policy d (v :: rest)) =
            turnsOf key (turns policy (v.perform policy d).2 rest) := by
          simp [turnsOf, turns, own]
        rw [skipped, passed, finish, later, unchanged]

/-- Redemptions of other keys change neither the outcomes nor the entry of a key. -/
theorem Ready.alone (policy : Policy) (ready : Ready d visits) (key : Key) :
    (turnsOf key (turns policy d visits)).map (·.outcome) =
        (turns policy d (ofKey key visits)).map (·.outcome) ∧
      (finish policy d visits).store.fetchEntry key.1 key.2 =
        (finish policy d (ofKey key visits)).store.fetchEntry key.1 key.2 := by
  have all := ready.count policy key
  have chosen : Ready d (ofKey key visits) := ready.sublist List.filter_sublist
  have own := chosen.count policy key
  have only : ofKey key (ofKey key visits) = ofKey key visits := by simp [ofKey]
  have every : turnsOf key (turns policy d (ofKey key visits)) =
      turns policy d (ofKey key visits) := by
    rw [turnsOf, List.filter_eq_self]
    intro turn member
    have visited : turn.visit ∈ ofKey key visits := by
      rw [← turns_visit policy d (ofKey key visits)]
      exact List.mem_map_of_mem member
    exact (List.mem_filter.mp visited).2
  rw [only, every, ← all] at own
  obtain ⟨outcomes, entry⟩ := Prod.mk.inj own
  exact ⟨outcomes.symm, entry.symm⟩

/-- What the next redemption ends with when there have been some: one more on the entry, or, once
the limit is reached, since when the code is used up. -/
def Next (limit : Int) (id : Uuid) (since : Instant) (done : Int) (r : Redemption) : Prop :=
  if done < limit then
    ∃ e, r = .redeemed e ∧ e.count.toInt = done + 1 ∧ e.id = id ∧ e.redeemedAt = since
  else r = .exhausted (some since)

theorem count_some (policy : Policy) {visits : List Visit} {e : Entry} {i : Nat} {r : Redemption}
    (steady : ∀ v ∈ visits, v.rule.redemptionLimit.toInt = limit)
    (turn : (count policy (some e) visits).1[i]? = some r) :
    Next limit e.id e.redeemedAt (e.count.toInt + i) r := by
  induction visits generalizing e i with
  | nil => simp [count] at turn
  | cons v rest ih =>
      have bound := steady v List.mem_cons_self
      have later := fun w member => steady w (List.mem_cons_of_mem v member)
      rw [count, Store.settleEntry] at turn
      by_cases full : v.rule.redemptionLimit ≤ e.count
      · have reached : limit ≤ e.count.toInt := by rwa [← bound, ← Int32.le_iff_toInt_le]
        rw [if_pos full] at turn
        cases i with
        | zero =>
            rw [Next, if_neg (by omega)]
            simpa using turn.symm
        | succ i =>
            have same := ih later turn
            rw [Next, if_neg (by omega)] at same ⊢
            exact same
      · have more := Store.increment_count full
        rw [if_neg full] at turn
        rw [Int32.le_iff_toInt_le, bound] at full
        cases i with
        | zero =>
            rw [Next, if_pos (by omega)]
            refine ⟨Store.increment e, by simpa using turn.symm, by omega, rfl, rfl⟩
        | succ i =>
            have next := ih later turn
            rw [more, Store.increment_id, Store.increment_redeemedAt] at next
            have shift : e.count.toInt + ((i + 1 : Nat) : Int) = e.count.toInt + 1 + i := by omega
            rwa [shift]

theorem count_none (policy : Policy) {visits : List Visit}
    (steady : ∀ v ∈ visits, v.rule.redemptionLimit.toInt = limit) :
    ∃ id since, ∀ (i : Nat) r, (count policy none visits).1[i]? = some r →
      Next limit id since i r := by
  cases visits with
  | nil => exact ⟨default, default, by simp [count]⟩
  | cons v rest =>
      have positive : 0 < limit := by
        rw [← steady v List.mem_cons_self, v.rule.toInt_redemptionLimit]
        omega
      refine ⟨v.entryId, v.moment.addNanos Deployment.tick, ?_⟩
      intro i r turn
      rw [count, Store.settleEntry] at turn
      cases i with
      | zero =>
          rw [Next, if_pos (by omega)]
          exact ⟨v.entry policy, by simpa using turn.symm, rfl, rfl, rfl⟩
      | succ i =>
          have next :=
            count_some policy (fun w member => steady w (List.mem_cons_of_mem v member)) turn
          have one : (v.entry policy).count.toInt = 1 := rfl
          rw [one] at next
          have shift : ((i + 1 : Nat) : Int) = 1 + i := by omega
          rwa [shift]

/-- Whoever comes too late leaves the ledger as it was. -/
theorem Ready.late (policy : Policy) (ready : Ready d visits) :
    ∀ turn ∈ turns policy d visits, turn.outcome = .ok (.exhausted since) →
      turn.after = turn.before := by
  induction visits generalizing d with
  | nil => simp [turns]
  | cons v rest ih =>
      obtain ⟨outcome, store, next⟩ := ready.perform policy
      intro turn member late
      obtain rfl | member := List.mem_cons.mp member
      · simp only [outcome, store] at late ⊢
        exact Store.settle_exhausted (Except.ok.inj late)
      · exact ih next turn member late

/-- Redemptions of one key in their order: up to the limit they count up on one entry, and each
later one is told when the first was and changes nothing. -/
def CountsUp (limit : Int) (turns : List Turn) : Prop :=
  ∃ id since, ∀ (i : Nat) turn, turns[i]? = some turn →
    if i < limit then
      ∃ e, turn.outcome = .ok (.redeemed e) ∧ e.count.toInt = i + 1 ∧ e.id = id ∧
      e.redeemedAt = since
    else turn.outcome = .ok (.exhausted (some since)) ∧ turn.after = turn.before

theorem Ready.countsUp (policy : Policy) (ready : Ready d visits) {key : Key}
    (steady : ∀ v ∈ ofKey key visits, max 1 v.rule.maxRedemptions.toInt = limit)
    (unused : d.store.fetchEntry key.1 key.2 = none) :
    CountsUp limit (turnsOf key (turns policy d visits)) := by
  have counted := ready.count policy key
  rw [unused] at counted
  obtain ⟨outcomes, -⟩ := Prod.mk.inj counted
  have bound : ∀ v ∈ ofKey key visits, v.rule.redemptionLimit.toInt = limit := by
    intro v member
    rw [v.rule.toInt_redemptionLimit, steady v member]
  obtain ⟨id, since, next⟩ := count_none policy bound
  refine ⟨id, since, ?_⟩
  intro i turn found
  have outcome : ((Sequence.count policy none (ofKey key visits)).1.map Except.ok)[i]? =
      some turn.outcome := by
    rw [← outcomes, List.getElem?_map, found]
    rfl
  rw [List.getElem?_map, Option.map_eq_some_iff] at outcome
  obtain ⟨r, counted, outcome⟩ := outcome
  have expected := next i r counted
  by_cases below : (i : Int) < limit
  · rw [Next, if_pos below] at expected
    rw [if_pos below, ← outcome]
    obtain ⟨e, rfl, count, sameId, sameTime⟩ := expected
    exact ⟨e, rfl, count, sameId, sameTime⟩
  · rw [Next, if_neg below] at expected
    subst expected
    rw [if_neg below]
    have member : turn ∈ turns policy d visits :=
      (List.mem_filter.mp (List.mem_of_getElem? found)).1
    exact ⟨outcome.symm, ready.late policy turn member outcome.symm⟩

/-- Redemptions one after the other answer each key as if there were no other, and count it up to
its limit while that stays the same. -/
theorem sequential_redemptions (policy : Policy) (ready : Ready d visits) (key : Key) :
    (turns policy d visits).map (·.visit) = visits ∧
    ((turnsOf key (turns policy d visits)).map (·.outcome) =
        (turns policy d (ofKey key visits)).map (·.outcome) ∧
      (finish policy d visits).store.fetchEntry key.1 key.2 =
        (finish policy d (ofKey key visits)).store.fetchEntry key.1 key.2) ∧
    ∀ limit : Int, (∀ v ∈ ofKey key visits, max 1 v.rule.maxRedemptions.toInt = limit) →
      d.store.fetchEntry key.1 key.2 = none →
      CountsUp limit (turnsOf key (turns policy d visits)) :=
  ⟨turns_visit policy d visits, ready.alone policy key, fun _ => ready.countsUp policy⟩

/-- Two redemptions of a code that may be redeemed once, with one of another code between them. -/
theorem sequential_redemptions_thrice :
    let visits : List Visit :=
  [⟨.sample, "A", default, .epoch, 0⟩, ⟨.prefixedSample, "B", default, .epoch, 2⟩,
      ⟨.sample, "A", default, .epoch, 4⟩]
    CountsUp 1 (turnsOf (Rule.sample.id, codeHash "A")
      (turns default (.inMemory .standard .epoch 0) visits)) := by
  intro visits
  have ready : Ready (.inMemory .standard .epoch 0) visits :=
    ⟨rfl, .empty, ⟨.empty, .empty, rfl, fun _ _ => rfl⟩, by decide, fun _ _ => rfl⟩
  have steady : ∀ v ∈ visits, max 1 v.rule.maxRedemptions.toInt = 1 := by decide
  exact (sequential_redemptions default ready (Rule.sample.id, codeHash "A")).2.2 1
    (fun v member => steady v (List.mem_filter.mp member).1) rfl

end Voucher.Ledger.Sequence
