import Voucher.Proofs.Ledger.Redeem

/-! What a stretch of work leaves in the ledger and in the lock table: at most one entry is made or
raised, and no lock is added. Identifiers count up, so that as long as they do not run out the next
one is new. -/
namespace Voucher.Ledger

open Service

/-- One entry is made with count one, or one is raised by one, and nothing else changes. -/
inductive Writes : List Entry → Entry → List Entry → Prop where
  | makes (entries : List Entry) {e : Entry} (new : ∀ x ∈ entries, x.id ≠ e.id)
      (first : e.count = 1) :
      Writes entries e (entries ++ [e])
  | raises (before after : List Entry) {old e : Entry} (same : e = { old with count := e.count })
      (more : e.count.toInt = old.count.toInt + 1) :
      Writes (before ++ old :: after) e (before ++ e :: after)

namespace Store.Consistent

variable {s : Store} {d : Draft} {id : Uuid} {now : Instant} {limit : Int32} {e : Entry}

/-- Raising the entry with an identifier changes one place. -/
theorem map_raise (h : s.Consistent) (member : e ∈ s.entries) :
    ∃ before after, s.entries = before ++ e :: after ∧
      s.entries.map (raise e.id) = before ++ increment e :: after := by
  obtain ⟨before, after, placed⟩ := List.append_of_mem member
  have others : ∀ x ∈ before ++ after, raise e.id x = x := by
    intro x there
    have distinct := h.ids
    rw [placed, List.map_append, List.map_cons, List.nodup_middle] at distinct
    have apart : x.id ≠ e.id := by
      intro same
      rw [← List.map_append] at distinct
      exact (List.nodup_cons.mp distinct).1 (List.mem_map.mpr ⟨x, there, same⟩)
    rw [raise, if_neg apart]
  refine ⟨before, after, placed, ?_⟩
  rw [placed, List.map_append, List.map_cons, raise, if_pos rfl,
    List.map_congr_left fun x there => others x (List.mem_append_left _ there),
    List.map_congr_left fun x there => others x (List.mem_append_right _ there)]
  simp

theorem settle (h : s.Consistent) (fresh : s.entry? id = none) (limit : Int32) (d : Draft)
    (now : Instant) :
    (s.settle limit d id now).2.Consistent := by
  unfold Store.settle
  split
  · exact h.insertEntry d now fresh
  · split
    · exact h
    · exact h.incrementEntry _ limit

/-- A redemption that settles as redeemed has written its entry. -/
theorem settle_writes (h : s.Consistent) (fresh : s.entry? id = none)
    (redeemed : (s.settle limit d id now).1 = .redeemed e) :
    Writes s.entries e (s.settle limit d id now).2.entries := by
  unfold Store.settle at redeemed ⊢
  cases found : s.fetchEntry d.ruleId d.codeHash with
  | none =>
      simp only [found, Redemption.redeemed.injEq] at redeemed
      subst redeemed
      rw [h.insertEntry_free found fresh]
      exact .makes s.entries (Keyed.find?_eq_none_iff.mp fresh) rfl
  | some old =>
      by_cases full : limit ≤ old.count
      · simp [found, full] at redeemed
      · simp only [found, if_neg full, Redemption.redeemed.injEq] at redeemed ⊢
        subst redeemed
        obtain ⟨member, -⟩ := h.fetchEntry_eq_some.mp found
        rw [h.incrementEntry_below member full]
        obtain ⟨before, after, placed, raised⟩ := h.map_raise member
        simp only [raised]
        rw [placed]
        exact .raises before after rfl (increment_count full)

end Store.Consistent

/-- How many identifiers there are. -/
def identifierCount : Nat := 0x100000000000000000000000000000000

theorem identifier_ne (before : m < n) (left : n < identifierCount) :
    Deployment.identifier m ≠ Deployment.identifier n := by
  intro same
  simp only [Deployment.identifier, Uuid.ofNat, Uuid.mk.injEq] at same
  have wrapped := congrArg BitVec.toNat same
  simp only [BitVec.toNat_ofNat] at wrapped
  unfold identifierCount at left
  omega

/-- All entries go by identifiers that the deployment has given away. -/
def Named (d : Deployment) : Prop :=
  ∀ e ∈ d.store.entries, ∃ n < d.identifiers, e.id = Deployment.identifier n

theorem Named.fresh (named : Named d) (upcoming : d.identifiers ≤ n) (left : n < identifierCount) :
    d.store.entry? (Deployment.identifier n) = none := by
  apply Keyed.find?_eq_none_iff.mpr
  intro e member
  obtain ⟨m, given, own⟩ := named e member
  rw [own]
  exact identifier_ne (Nat.lt_of_lt_of_le given upcoming) left

theorem Named.more (named : Named d) (entries : e.store.entries = d.store.entries)
    (more : d.identifiers ≤ e.identifiers) : Named e := by
  intro x member
  rw [entries] at member
  obtain ⟨n, given, own⟩ := named x member
  exact ⟨n, Nat.lt_of_lt_of_le given more, own⟩

/-- Of two moments, what was written in between, and that no lock was added. -/
structure Effect (d : Deployment) (written : Option Entry) (e : Deployment) : Prop where
  ledger : match written with
    | none => e.store.entries = d.store.entries
    | some x => Writes d.store.entries x e.store.entries
  locks : ∀ t ∈ d.locks?, ∃ u ∈ e.locks?, u.holdings.Sublist t.holdings
  outages : e.outages = d.outages
  consistent : d.store.Consistent → e.store.Consistent
  named : Named d → Named e

theorem Effect.of_still (still : d.Still e) : Effect d none e where
  ledger := still.entries
  locks t held := ⟨t, still.locks ▸ held, .refl _⟩
  outages := still.outages
  consistent h := h.of_same still.entries still.index
  named h := h.more still.entries (Nat.le_of_eq still.identifiers.symm)

theorem Effect.of_identifiers (d : Deployment) (more : d.identifiers ≤ n) :
    Effect d none { d with identifiers := n } where
  ledger := rfl
  locks t held := ⟨t, held, .refl _⟩
  outages := rfl
  consistent h := h
  named h := h.more rfl more

theorem Effect.after (first : Effect d none e) (effect : Effect e written f) :
    Effect d written f where
  ledger := by
    have ledger := effect.ledger
    rwa [first.ledger] at ledger
  locks t held := by
    obtain ⟨u, kept, fewer⟩ := first.locks t held
    obtain ⟨v, left, less⟩ := effect.locks u kept
    exact ⟨v, left, less.trans fewer⟩
  outages := effect.outages.trans first.outages
  consistent h := effect.consistent (first.consistent h)
  named h := effect.named (first.named h)

theorem Effect.before (effect : Effect d written e) (last : Effect e none f) :
    Effect d written f where
  ledger := by
    have unchanged : f.store.entries = e.store.entries := last.ledger
    rw [unchanged]
    exact effect.ledger
  locks t held := by
    obtain ⟨u, kept, fewer⟩ := effect.locks t held
    obtain ⟨v, left, less⟩ := last.locks u kept
    exact ⟨v, left, less.trans fewer⟩
  outages := last.outages.trans effect.outages
  consistent h := last.consistent (effect.consistent h)
  named h := last.named (effect.named h)

/-- A service in one process that nothing is wrong with. -/
structure InMemory (d : Deployment) : Prop where
  calm : d.outages = []
  process : ∃ locks, d.locks? = some locks
  consistent : d.store.Consistent
  named : Named d

theorem InMemory.next (inMemory : InMemory d) (effect : Effect d written e) : InMemory e := by
  obtain ⟨calm, ⟨t, held⟩, consistent, named⟩ := inMemory
  obtain ⟨u, kept, -⟩ := effect.locks t held
  exact ⟨effect.outages.trans calm, ⟨u, kept⟩, effect.consistent consistent, effect.named named⟩

/-- Work on a deployment has an effect, and its result tells of it. -/
def Honest (tells : α → Option Entry → Prop) (d : Deployment) (m : Action α) : Prop :=
  ∃ written, Effect d written (d.perform m).2 ∧ tells (d.perform m).1 written

namespace Honest

variable {tells : α → Option Entry → Prop} {m : Action α}

theorem of_pure (told : tells a none) : Honest tells d (pure a) := ⟨none, .of_still (.refl d), told⟩

theorem of_still (asks : m.Asks (·.isStill)) (told : ∀ a, tells a none) : Honest tells d m :=
  ⟨none, .of_still (Deployment.perform_still asks d), told _⟩

theorem after {tells : β → Option Entry → Prop} {f : α → Action β} (first : d.perform m = (a, e))
    (effect : Effect d none e) (honest : Honest tells e (f a)) : Honest tells d (m >>= f) := by
  obtain ⟨written, last, told⟩ := honest
  have performed : d.perform (m >>= f) = e.perform (f a) := by rw [Deployment.perform_bind, first]
  refine ⟨written, ?_, ?_⟩
  · rw [performed]
    exact effect.after last
  · rw [performed]
    exact told

/-- What writes nothing more may pass the result on. -/
theorem before {other : β → Option Entry → Prop} {f : α → Action β} (honest : Honest tells d m)
    (asks : ∀ a, (f a).Asks (·.isStill))
    (told : ∀ a written, tells a written → (f a).Yields (other · written)) :
    Honest other d (m >>= f) := by
  obtain ⟨written, effect, first⟩ := honest
  refine ⟨written, ?_, ?_⟩
  · rw [Deployment.perform_bind]
    exact effect.before (.of_still (Deployment.perform_still (asks _) _))
  · rw [Deployment.perform_bind]
    exact (told _ _ first).run Deployment.answer _

end Honest

/-- The entry that a redemption ends with. -/
def Redemption.written? : Redemption → Option Entry
  | redeemed e => some e
  | exhausted _ | locked => none

/-- The result of a redemption is no failure, and it ends with what was written. -/
def Redemption.Tells (result : Result Redemption) (written : Option Entry) : Prop :=
  ∃ redemption, result = .ok redemption ∧ redemption.written? = written

/-- A redemption within one process takes an identifier for the owner of the lock
and one for the entry. -/
theorem redeem_honest (policy : Policy) (rule : Rule) (normalized : String) (c : Context)
    (inMemory : InMemory d) (left : d.identifiers + 2 ≤ identifierCount) :
    Honest Redemption.Tells d (redeem policy rule normalized c) := by
  obtain ⟨calm, ⟨locks, held⟩, consistent, named⟩ := inMemory
  obtain ⟨cache, process⟩ := Deployment.locks?_eq_some.mp held
  have fresh := named.fresh (n := d.identifiers + 1) (by omega) (by omega)
  obtain ⟨last, refused⟩ | ⟨h, last, granted⟩ :=
    Deployment.acquire_cases process (lockKey rule normalized) policy.lease
  · refine ⟨none, ?_, .locked, by rw [perform_redeem_refused calm refused], rfl⟩
    rw [perform_redeem_refused calm refused]
    refine ⟨rfl, ?_, rfl, id, (Effect.of_identifiers d (Nat.le_succ _)).named⟩
    intro t there
    obtain rfl := Option.some.inj (held.symm.trans there)
    exact ⟨locks, rfl, .refl _⟩
  · obtain ⟨clock, performed⟩ :=
      perform_redeem_granted policy rule normalized c calm consistent granted
    refine ⟨_, ?_, _, by rw [performed], rfl⟩
    rw [performed]
    refine ⟨?_, ?_, rfl, fun _ => consistent.settle fresh _ _ _, ?_⟩
    · cases settled : (d.store.settle rule.redemptionLimit (draft policy rule normalized c)
          (Deployment.identifier (d.identifiers + 1)) (last.addNanos Deployment.tick)).1 with
      | redeemed e => exact consistent.settle_writes fresh settled
      | exhausted since => exact congrArg Store.entries (Store.settle_exhausted settled)
      | locked => exact absurd settled Store.settle_ne_locked
    · intro t there
      obtain rfl := Option.some.inj (held.symm.trans there)
      exact ⟨locks.without _, rfl, List.filter_sublist⟩
    · intro _ e member
      obtain ⟨x, old, own⟩ | ⟨made, free⟩ := consistent.settle_ids fresh _ _ _ member
      · obtain ⟨n, given, theirs⟩ := named x old
        exact ⟨n, by dsimp only; omega, own.symm.trans theirs⟩
      · refine ⟨d.identifiers + 1, ?_, made⟩
        simp only [Store.takes, free]
        simp

end Voucher.Ledger
