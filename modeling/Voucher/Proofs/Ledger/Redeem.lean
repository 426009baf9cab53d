import Voucher.Ledger.Redeem
import Voucher.Proofs.Ledger.Store
import Voucher.Proofs.Service.Deployment

/-! What a redemption does to the ledger when nothing else happens meanwhile. The lock that it takes
it gives up again. -/
namespace Voucher.Ledger

open Service

namespace Store

/-- A redemption under the lock: the first makes the entry, and later ones
raise it up to the limit. -/
def settle (s : Store) (limit : Int32) (d : Draft) (id : Uuid) (now : Instant) :
    Redemption × Store :=
  match s.fetchEntry d.ruleId d.codeHash with
  | none => (.redeemed (d.entry id now), (s.insertEntry d id now).2)
  | some e =>
      if limit ≤ e.count then (.exhausted (some e.redeemedAt), s)
      else (.redeemed (increment e), (s.incrementEntry e.id limit).2)

/-- How many identifiers a redemption under the lock takes. -/
def takes (s : Store) (d : Draft) : Nat :=
  if (s.fetchEntry d.ruleId d.codeHash).isNone then 1 else 0

variable {s : Store} {d : Draft} {id other : Uuid} {now : Instant} {limit : Int32} {e : Entry}

theorem Built.settle (built : s.Built) (fresh : s.entry? id = none) (limit : Int32) (d : Draft)
    (now : Instant) : (s.settle limit d id now).2.Built := by
  unfold Store.settle
  split
  · exact built.insertEntry d now fresh
  · split
    · exact built
    · exact built.incrementEntry _ limit

/-- What the entry of a key sees of a redemption; `made` is what the first one would make. -/
def settleEntry (limit : Int32) (made : Entry) : Option Entry → Redemption × Option Entry
  | none => (.redeemed made, some made)
  | some e =>
      if limit ≤ e.count then (.exhausted (some e.redeemedAt), some e)
      else (.redeemed (increment e), some (increment e))

namespace Consistent

/-- The entry of the key alone decides how a redemption ends and what becomes of the entry. -/
theorem settle_own (h : s.Consistent) (fresh : s.entry? id = none) (limit : Int32) (d : Draft)
    (now : Instant) :
    ((s.settle limit d id now).1, (s.settle limit d id now).2.fetchEntry d.ruleId d.codeHash) =
      settleEntry limit (d.entry id now) (s.fetchEntry d.ruleId d.codeHash) := by
  unfold settle settleEntry
  cases found : s.fetchEntry d.ruleId d.codeHash with
  | none =>
      have own : d.key = (d.ruleId, d.codeHash) := rfl
      simp only [h.fetchEntry_inserted found fresh, if_pos own]
  | some e =>
      by_cases full : limit ≤ e.count
      · simp only [if_pos full, found]
      · obtain ⟨member, -⟩ := h.fetchEntry_eq_some.mp found
        simp only [if_neg full, h.fetchEntry_raised member full, found]
        rw [Option.map_some, raise, if_pos rfl]

theorem settle_other (h : s.Consistent) (fresh : s.entry? id = none) (limit : Int32) (now : Instant)
    {key : Key} (other : d.key ≠ key) :
    (s.settle limit d id now).2.fetchEntry key.1 key.2 = s.fetchEntry key.1 key.2 := by
  unfold settle
  cases found : s.fetchEntry d.ruleId d.codeHash with
  | none =>
      simp only [h.fetchEntry_inserted found fresh]
      exact if_neg other
  | some e =>
      by_cases full : limit ≤ e.count
      · simp only [if_pos full]
      · obtain ⟨member, own⟩ := h.fetchEntry_eq_some.mp found
        simp only [if_neg full, h.fetchEntry_raised member full]
        cases shown : s.fetchEntry key.1 key.2 with
        | none => rfl
        | some x =>
            obtain ⟨present, theirs⟩ := h.fetchEntry_eq_some.mp shown
            have apart : x.id ≠ e.id := by
              intro same
              obtain rfl := h.id_unique present member same
              exact other (own.symm.trans theirs)
            rw [Option.map_some, raise, if_neg apart]

/-- Each entry afterwards goes by an identifier from before, or is the one that was made. -/
theorem settle_ids (h : s.Consistent) (fresh : s.entry? id = none) (limit : Int32) (d : Draft)
    (now : Instant) (member : e ∈ (s.settle limit d id now).2.entries) :
    (∃ x ∈ s.entries, x.id = e.id) ∨ (e.id = id ∧ s.fetchEntry d.ruleId d.codeHash = none) := by
  unfold settle at member
  cases found : s.fetchEntry d.ruleId d.codeHash with
  | none =>
      simp only [found] at member
      rw [h.insertEntry_free found fresh] at member
      obtain old | rfl : e ∈ s.entries ∨ e = d.entry id now := by simpa using member
      · exact .inl ⟨e, old, rfl⟩
      · exact .inr ⟨rfl, rfl⟩
  | some x =>
      refine .inl ?_
      by_cases full : limit ≤ x.count
      · simp only [found, if_pos full] at member
        exact ⟨e, member, rfl⟩
      · obtain ⟨present, -⟩ := h.fetchEntry_eq_some.mp found
        simp only [found, if_neg full, h.incrementEntry_below present full] at member
        obtain ⟨y, old, rfl⟩ := List.mem_map.mp member
        exact ⟨y, old, (raise_id ..).symm⟩

/-- An identifier that is new and not the one of the entry that is made stays new. -/
theorem settle_fresh (h : s.Consistent) (fresh : s.entry? id = none) (limit : Int32) (d : Draft)
    (now : Instant) (new : s.entry? other = none) (ne : other ≠ id) :
    entry? (s.settle limit d id now).2 other = none := by
  apply Keyed.find?_eq_none_iff.mpr
  intro e member same
  obtain ⟨x, old, own⟩ | ⟨made, -⟩ := h.settle_ids fresh limit d now member
  · exact Keyed.find?_eq_none_iff.mp new x old (own.trans same)
  · exact ne (same.symm.trans made)

end Consistent

/-- Whoever comes too late changes nothing. -/
theorem settle_exhausted (late : (s.settle limit d id now).1 = .exhausted since) :
    (s.settle limit d id now).2 = s := by
  unfold settle at late ⊢
  split
  · rename_i free
    simp [free] at late
  · rename_i e found
    simp only [found] at late
    split
    · rfl
    · rename_i below
      simp [below] at late

theorem settle_ne_locked : (s.settle limit d id now).1 ≠ .locked := by
  unfold settle
  split
  · simp
  · split <;> simp

end Store

section Perform

variable {d : Deployment} {rule : Rule} {normalized : String} {cache : Cache.Memory}
  {locks : Lock.Table}

/-- Under the lock a redemption settles with the ledger, and changes nothing else but the clock and
the number of identifiers. -/
theorem perform_redeemLocked (up : d.LedgerUp) (consistent : d.store.Consistent) (rule : Rule)
    (dr : Draft) :
    ∃ clock, d.perform (redeemLocked rule dr) =
      (.ok (d.store.settle rule.redemptionLimit dr (Deployment.identifier d.identifiers) d.clock).1,
        { d with
          store :=
  (d.store.settle rule.redemptionLimit dr (Deployment.identifier d.identifiers) d.clock).2
          identifiers := d.identifiers + d.store.takes dr
          clock := clock }) := by
  have read : d.perform (Action.fetchEntry dr.ruleId dr.codeHash) =
      (.ok (d.store.fetchEntry dr.ruleId dr.codeHash), d) := up.serve (by simp [Call.target?])
  rw [redeemLocked, Deployment.perform_andThen read]
  unfold Store.settle Store.takes
  cases found : d.store.fetchEntry dr.ruleId dr.codeHash with
  | none =>
      have inserted : d.perform (Action.insertEntry dr) =
          (.ok (some (dr.entry (Deployment.identifier d.identifiers) d.clock)),
            { d with
              store := (d.store.insertEntry dr (Deployment.identifier d.identifiers) d.clock).2
              identifiers := d.identifiers + 1
              clock := d.clock.addNanos Deployment.tick }) := by
        rw [Action.insertEntry, up.serve (by simp [Call.target?])]
        simp only [Deployment.serve, Deployment.insertEntry, Deployment.takeIdentifier,
          Deployment.readClock, consistent.insertEntry_made found]
      rw [redeemFirst, Deployment.perform_andThen inserted]
      exact ⟨_, rfl⟩
  | some e =>
      simp only [redeemAgain]
      split
      · exact ⟨_, rfl⟩
      · rename_i below
        obtain ⟨member, -⟩ := consistent.fetchEntry_eq_some.mp found
        have raised : d.perform (Action.incrementEntry e.id rule.redemptionLimit) =
            (.ok (some (Store.increment e)),
              { d with store := (d.store.incrementEntry e.id rule.redemptionLimit).2 }) := by
          rw [Action.incrementEntry, up.serve (by simp [Call.target?])]
          simp only [Deployment.serve, Deployment.incrementEntry,
            consistent.incrementEntry_below member below]
        rw [Deployment.perform_andThen raised]
        exact ⟨_, rfl⟩

/-- Wherever the lock is held, once it is granted a redemption ends as the ledger settles it. -/
theorem redeem_settles (policy : Policy) (rule : Rule) (normalized : String) (c : Context)
    (up : d.LedgerUp) (consistent : d.store.Consistent) {held : Lock.Guard}
    (granted : (d.acquire (lockKey rule normalized) policy.lease).1 = .ok held) :
    ∃ id now, (d.perform (redeem policy rule normalized c)).1 =
      .ok (d.store.settle rule.redemptionLimit (draft policy rule normalized c) id now).1 := by
  have store := Deployment.acquire_store d (lockKey rule normalized) policy.lease
  have outages := Deployment.acquire_outages d (lockKey rule normalized) policy.lease
  have taken : d.perform (Action.acquire (lockKey rule normalized) policy.lease) =
      d.acquire (lockKey rule normalized) policy.lease := Deployment.perform_served nofun
  cases acquired : d.acquire (lockKey rule normalized) policy.lease with
  | mk result e =>
      rw [acquired] at granted store outages taken
      obtain rfl : result = .ok held := granted
      obtain ⟨clock, settled⟩ :=
        perform_redeemLocked (d := e) (fun t ledger => outages ▸ up t ledger)
        (store ▸ consistent) rule (draft policy rule normalized c)
      rw [store] at settled
      refine ⟨Deployment.identifier e.identifiers, e.clock, ?_⟩
      rw [redeem, Deployment.perform_bind, taken]
      simp only
      rw [Deployment.perform_bind, settled, Deployment.perform_bind, Deployment.perform_pure]

/-- Once the lock is granted, a redemption settles with the ledger and leaves the key free. -/
theorem perform_redeem_granted (policy : Policy) (rule : Rule) (normalized : String) (c : Context)
    (calm : d.outages = []) (consistent : d.store.Consistent)
    (granted : d.acquire (lockKey rule normalized) policy.lease =
      (.ok ⟨lockKey rule normalized, h.owner, .process⟩,
        d.tried cache (locks.put (lockKey rule normalized) h) last)) :
    ∃ clock, d.perform (redeem policy rule normalized c) =
      (.ok (d.store.settle rule.redemptionLimit (draft policy rule normalized c)
          (Deployment.identifier (d.identifiers + 1)) (last.addNanos Deployment.tick)).1,
        { d with
          store := (d.store.settle rule.redemptionLimit (draft policy rule normalized c)
            (Deployment.identifier (d.identifiers + 1)) (last.addNanos Deployment.tick)).2
          backing := .process cache (locks.without (lockKey rule normalized))
          identifiers := d.identifiers + 1 + d.store.takes (draft policy rule normalized c)
          clock := clock }) := by
  obtain ⟨clock, settled⟩ := perform_redeemLocked
    (d := d.tried cache (locks.put (lockKey rule normalized) h) last) (.of_calm calm)
    consistent rule
    (draft policy rule normalized c)
  refine ⟨clock, ?_⟩
  have taken : d.perform (Action.acquire (lockKey rule normalized) policy.lease) = _ :=
    (Deployment.perform_call calm _).trans granted
  rw [redeem, Deployment.perform_bind, taken, Deployment.perform_bind, settled,
    Deployment.perform_bind, Action.release, Deployment.perform_call (by exact calm)]
  simp only [Deployment.serve, Deployment.perform_pure]
  rw [Deployment.release_held cache locks h rfl]
  rfl

/-- A redemption that does not get the lock is counted as such and leaves the ledger alone. -/
theorem perform_redeem_refused (calm : d.outages = [])
    (refused : d.acquire (lockKey rule normalized) policy.lease =
      (.error e, d.tried cache locks last)) :
    d.perform (redeem policy rule normalized c) =
      (.ok .locked, { d.tried cache locks last with events := .lockFailure :: d.events }) := by
  have denied : d.perform (Action.acquire (lockKey rule normalized) policy.lease) = _ :=
    (Deployment.perform_call calm _).trans refused
  rw [redeem, Deployment.perform_bind, denied, Deployment.perform_bind, Action.count,
    Deployment.perform_call (by exact calm)]
  rfl

end Perform

end Voucher.Ledger
