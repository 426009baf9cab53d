import Voucher.Proofs.Http.Effect
import Voucher.Rule.Sample

/-! What holds of every request that a service in memory comes to handle. -/
namespace Voucher.Http

open Service Ledger

/-- What a service in memory comes to: it starts with nothing stored and handles requests, one at a
time. In between, time passes, projects and rules are changed, and others take and give up locks. -/
inductive Reachable (policy : Policy) : Deployment → Prop where
  | start (config : Lock.Config) (clock : Instant) : Reachable policy (.inMemory config clock 0)
  | handled (reachable : Reachable policy d) (left : d.identifiers + 3 ≤ identifierCount)
      (r : Request) :
      Reachable policy (d.perform (handle policy r)).2
  | waited (reachable : Reachable policy d) (clock : Instant) :
      Reachable policy { d with clock := clock }
  | projectStored (reachable : Reachable policy d) (p : Project) :
      Reachable policy { d with store := d.store.insertProject p }
  | ruleStored (reachable : Reachable policy d) (rule : Rule) :
      Reachable policy { d with store := d.store.insertRule rule }
  | ruleChanged (reachable : Reachable policy d) (id : Uuid) (change : Rule → Rule) :
      Reachable policy { d with store := (d.store.updateRule id change).2 }
  | locked (reachable : Reachable policy d) (key : String) (lease : UInt64) :
      Reachable policy (d.acquire key lease).2
  | unlocked (reachable : Reachable policy d) (guard : Lock.Guard) :
      Reachable policy (d.release guard).2

theorem inMemory_start (config : Lock.Config) (clock : Instant) :
    InMemory (.inMemory config clock 0) where
  calm := rfl
  process := ⟨.empty, rfl⟩
  consistent := Store.consistent_empty
  named := nofun

theorem Reachable.inMemory (reachable : Reachable policy d) : InMemory d := by
  induction reachable with
  | start config clock => exact inMemory_start config clock
  | handled reachable left r inMemory =>
      obtain ⟨written, effect, -⟩ := handle_honest policy r inMemory left
      exact inMemory.next effect
  | waited | projectStored | ruleStored | ruleChanged =>
      rename_i inMemory
      obtain ⟨calm, process, consistent, named⟩ := inMemory
      exact ⟨calm, process, consistent.of_same rfl rfl, named⟩
  | locked reachable key lease inMemory =>
      obtain ⟨calm, ⟨locks, held⟩, consistent, named⟩ := inMemory
      obtain ⟨cache, process⟩ := Deployment.locks?_eq_some.mp held
      obtain ⟨last, tried⟩ | ⟨h, last, tried⟩ := Deployment.acquire_cases process key lease
      · rw [tried]
        exact ⟨calm, ⟨_, rfl⟩, consistent, named.more rfl (Nat.le_succ _)⟩
      · rw [tried]
        exact ⟨calm, ⟨_, rfl⟩, consistent, named.more rfl (Nat.le_succ _)⟩
  | unlocked reachable guard inMemory =>
      obtain ⟨calm, ⟨locks, held⟩, consistent, named⟩ := inMemory
      obtain ⟨cache, process⟩ := Deployment.locks?_eq_some.mp held
      simp only [Deployment.release, process]
      exact ⟨calm, ⟨_, rfl⟩, consistent, named⟩

/-- As long as identifiers are left, a request writes to the ledger only if it redeems a code and is
told so. Then it makes the entry that the reply names, with count one, or raises its count by one.
In any case it leaves no lock behind. -/
theorem only_redemptions_write (reachable : Reachable policy d) (r : Request)
    (left : d.identifiers + 3 ≤ identifierCount) :
    let (response, after) := d.perform (handle policy r)
    (Redeems r → response.reply.IsOk → ∃ e, Writes d.store.entries e after.store.entries ∧
      response.reply.Says "redemption_id" e.id.text) ∧
    (¬ (Redeems r ∧ response.reply.IsOk) → after.store.entries = d.store.entries) ∧
    ∃ locks ∈ d.locks?, ∃ kept ∈ after.locks?, kept.holdings.Sublist locks.holdings := by
  obtain ⟨locks, held⟩ := reachable.inMemory.process
  obtain ⟨written, effect, tells⟩ := handle_honest policy r reachable.inMemory left
  refine ⟨fun redeems ok => ?_, fun other => ?_, locks, held, effect.locks locks held⟩
  · cases written with
    | none => exact absurd ok (tells redeems)
    | some e => exact ⟨e, effect.ledger, tells.2.2⟩
  · cases written with
    | none => exact effect.ledger
    | some e => exact absurd ⟨tells.1, tells.2.1⟩ other

/-- The first redemption of a code, after which it is the only entry. -/
theorem only_redemptions_write_first :
    let order : Request :=
  ⟨"POST", ⟨"/api/v1/validate".toList, []⟩, [("content-type", "application/json")],
      "\x7b\"code\":\"79927398713\",\"project_id\":\"00000000-0000-0000-0000-000000000000\"\x7d",
      none⟩
    let start := Deployment.inMemory .standard .epoch 0
    let shop := { start with store := (start.store.insertProject .sample).insertRule .sample }
    let (response, after) := shop.perform (handle default order)
    ∃ e, Writes [] e after.store.entries ∧ response.reply.Says "redemption_id" e.id.text := by
  intro order start shop
  have reachable : Reachable default shop :=
    ((Reachable.start _ _).projectStored .sample).ruleStored .sample
  exact (only_redemptions_write reachable order (by decide +kernel)).1 (by decide +kernel)
    (by decide +kernel)

end Voucher.Http
