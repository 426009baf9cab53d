import Voucher.Http.Handle
import Voucher.Proofs.Http.Route
import Voucher.Proofs.Validation.Effect
import Voucher.Proofs.Validation.Outcome

/-! What requests do to the ledger and to the lock table, over all routes. -/
namespace Voucher.Http

open Service Ledger

variable {policy : Policy} {r : Request} {d e : Deployment}

/-- The validation that a request asks for, with what its headers say. -/
def asked (r : Request) (written : Voucher.Request) : Voucher.Request :=
  { written with sandbox := written.sandbox || asksSandbox r, ipAddress := clientAddress r }

/-- The body writes a validation that is to redeem. -/
def AsksLive (r : Request) : Prop :=
  ∃ written, Body.request r.body = .ok written ∧ (asked r written).mode = .live

theorem asksLive_iff (read : Body.request r.body = .ok written) :
    AsksLive r ↔ (asked r written).mode = .live := by simp [AsksLive, read]

instance (r : Request) : Decidable (AsksLive r) :=
  match read : Body.request r.body with
  | .ok _ => decidable_of_iff _ (asksLive_iff read).symm
  | .error _ => .isFalse (by simp [AsksLive, read])

/-- The request is one to validate and redeem a code. -/
def Redeems (r : Request) : Prop :=
  r.method = "POST" ∧ r.target.path = "/api/v1/validate".toList ∧ AsksLive r

instance (r : Request) : Decidable (Redeems r) := inferInstanceAs (Decidable (_ ∧ _ ∧ _))

namespace Reply

/-- The reply is a body with this text under a name. -/
def Says (reply : Reply) (name text : String) : Prop :=
  reply.body.bind (·.textMember? name) = some text

/-- The reply is an outcome that accepts the code. -/
def IsOk (reply : Reply) : Prop := reply.Says "status" "OK"

instance (reply : Reply) (name text : String) : Decidable (reply.Says name text) :=
  inferInstanceAs (Decidable (_ = _))

instance (reply : Reply) : Decidable reply.IsOk := inferInstanceAs (Decidable (Says ..))

theorem not_isOk_errorReply (e : ApiError) : ¬ (errorReply e).IsOk := by
  simp [IsOk, Says, errorReply, json, ApiError.body, Json.textMember?, Json.get?, Json.valuesOf,
    Json.asString?]

theorem not_isOk_bare (status : Nat) : ¬ (bare status).IsOk := by simp [IsOk, Says, bare]

theorem says_outcomeReply :
    (outcomeReply o).Says name text ↔ o.toJson.textMember? name = some text := by
  simp [Says, outcomeReply, json]

theorem isOk_outcomeReply : (outcomeReply o).IsOk ↔ ∃ a, o = .accepted a := by
  rw [IsOk, says_outcomeReply, Outcome.toJson_status]
  cases o <;> simp [Outcome.isAccepted]

end Reply

/-- A reply tells what the request has written: to a live validation an acceptance comes with the
entry that it names, and nothing else comes with any. -/
def Tells (live : Prop) (reply : Reply) : (written : Option Entry) → Prop
  | some e => live ∧ reply.IsOk ∧ reply.Says "redemption_id" e.id.text
  | none => live → ¬ reply.IsOk

theorem tells_none (other : ¬ live) (reply : Reply) : Tells live reply none :=
  fun asked => absurd asked other

theorem tells_reply (tells : Validation.Tells mode result written) :
    Tells (mode = .live) (reply outcomeReply result) written := by
  cases written with
  | some e =>
      obtain ⟨live, a, rfl, named⟩ := tells
      refine ⟨live, Reply.isOk_outcomeReply.mpr ⟨a, rfl⟩, Reply.says_outcomeReply.mpr ?_⟩
      rw [Outcome.toJson_redemptionId, named]
  | none =>
      intro live ok
      cases result with
      | error e => exact Reply.not_isOk_errorReply _ ok
      | ok o =>
          obtain ⟨a, rfl⟩ := Reply.isOk_outcomeReply.mp ok
          exact tells live a rfl

theorem validate_honest (policy : Policy) (r : Request) (inMemory : InMemory d)
    (left : d.identifiers + 2 ≤ identifierCount) :
    Honest (Tells (AsksLive r)) d (validate policy r) := by
  unfold validate
  split
  · exact .of_pure fun _ => Reply.not_isOk_bare _
  · split
    · exact .of_pure fun _ => Reply.not_isOk_bare _
    · exact .of_pure fun _ => Reply.not_isOk_bare _
    · rename_i written read
      split
      · exact .of_pure fun _ => Reply.not_isOk_errorReply _
      · rw [asksLive_iff read]
        exact (Validation.run_honest policy (asked r written) inMemory left).before
          (fun _ => Script.asks_pure _) fun _ _ tells => tells_reply tells

theorem checkRequest?_mode (read : checkRequest? fields = some written) :
    written.mode = .dryRun := by
  simp only [checkRequest?, Option.bind_eq_bind, Option.bind_eq_some_iff] at read
  obtain ⟨_, _, _, _, _, _, _, _, _, _, made⟩ := read
  cases made
  rfl

/-- Whoever only asks writes nothing. -/
theorem check_honest (policy : Policy) (r : Request) (inMemory : InMemory d)
    (left : d.identifiers + 2 ≤ identifierCount) : Honest (Tells False) d (check policy r) := by
  unfold check
  split
  · exact .of_pure (tells_none id _)
  · rename_i written read
    split
    · exact .of_pure (tells_none id _)
    · refine (Validation.run_honest policy written inMemory left).before
        (fun _ => Script.asks_pure _) ?_
      intro result entry tells
      cases entry with
      | none => exact tells_none id _
      | some x =>
          obtain ⟨live, -⟩ := tells
          rw [checkRequest?_mode read] at live
          contradiction

theorem withId_asks {f : Uuid → Action Reply} (asks : ∀ id, (f id).Asks (·.isStill))
    (part : List Char) :
    (withId part f).Asks (·.isStill) := by
  unfold withId
  split
  · exact Script.asks_pure _
  · exact asks _

theorem list_asks (r : Request) : (list r).Asks (·.isStill) := by
  unfold list
  split
  · exact Script.asks_pure _
  · refine Script.Asks.bind ?_ fun _ => Script.asks_pure _
    unfold Query.list
    split
    · exact Script.asks_pure _
    · exact Action.asks_andThen (Call.asks_still rfl) fun _ => Script.asks_pure _

/-- All but validations leave everything as it was but the cache, the clock and the counters. -/
theorem answer_asks (policy : Policy) (r : Request) (part : List Char)
    (other : route ∉ [Route.validate, Route.check]) :
    (answer policy r part route).Asks (·.isStill) := by
  cases route with
  | validate | check => simp at other
  | listing => exact list_asks r
  | redemption =>
      refine withId_asks (fun id => Script.Asks.bind ?_ fun _ => Script.asks_pure _) part
      refine Action.asks_andThen (Call.asks_still rfl) ?_
      rintro (missing | found) <;> exact Script.asks_pure _
  | statistics =>
      refine withId_asks (fun id => Script.Asks.bind ?_ fun _ => Script.asks_pure _) part
      exact (Call.asks_still rfl).bind fun _ => Call.asks_still rfl
  | allRules => exact Cache.Rules.invalidateAll_asks.bind fun _ => Script.asks_pure _
  | rules =>
      exact withId_asks
        (fun id => (Cache.Rules.invalidate_asks id).bind fun _ => Script.asks_pure _) part
  | health => exact Script.asks_pure _

theorem answer_honest (policy : Policy) (r : Request) (part : List Char) (route : Route)
    (inMemory : InMemory d) (left : d.identifiers + 2 ≤ identifierCount) :
    Honest (Tells (route = .validate ∧ AsksLive r)) d (answer policy r part route) := by
  cases route with
  | validate =>
      simp only [true_and]
      exact validate_honest policy r inMemory left
  | check =>
      simp only [reduceCtorEq, false_and]
      exact check_honest policy r inMemory left
  | listing | redemption | statistics | allRules | rules | health =>
      exact .of_still (answer_asks policy r part (by simp)) (tells_none (by simp))

theorem redeems_iff (found : Route.find? r.target = some (route, part))
    (allowed : r.method ∈ route.methods) :
    Redeems r ↔ route = .validate ∧ AsksLive r := by
  constructor
  · rintro ⟨-, path, live⟩
    obtain ⟨_, validates⟩ := Route.find?_validate.mpr path
    rw [found, Option.some.injEq, Prod.mk.injEq] at validates
    exact ⟨validates.1, live⟩
  · rintro ⟨rfl, live⟩
    exact ⟨List.mem_singleton.mp allowed, Route.find?_validate.mp ⟨part, found⟩, live⟩

theorem Redeems.allowed (redeems : Redeems r) :
    ∃ part, Route.find? r.target = some (.validate, part) ∧ r.method ∈ Route.validate.methods := by
  obtain ⟨method, path, -⟩ := redeems
  obtain ⟨part, found⟩ := Route.find?_validate.mpr path
  exact ⟨part, found, List.mem_singleton.mpr method⟩

theorem dispatch_honest (policy : Policy) (r : Request) (inMemory : InMemory d)
    (left : d.identifiers + 2 ≤ identifierCount) :
    Honest (Tells (Redeems r)) d (dispatch policy r) := by
  unfold dispatch
  split
  · rename_i missing
    refine .of_pure (tells_none ?_ _)
    intro redeems
    obtain ⟨part, found, -⟩ := redeems.allowed
    simp [missing] at found
  · rename_i route part found
    split
    · rename_i allowed
      rw [redeems_iff found (List.contains_iff_mem.mp allowed)]
      refine (answer_honest policy r part route inMemory left).before
        (fun _ => Script.asks_pure _) ?_
      intro reply written tells
      split
      · rename_i head
        have other : ¬ (route = .validate ∧ AsksLive r) := by
          rintro ⟨rfl, -⟩
          simp [head, Route.methods, Route.method] at allowed
        cases written with
        | none => exact tells_none other _
        | some e => exact absurd tells.1 other
      · exact tells
    · rename_i refused
      refine .of_pure (tells_none ?_ _)
      intro redeems
      obtain ⟨_, validates, allowed⟩ := redeems.allowed
      rw [found, Option.some.injEq, Prod.mk.injEq] at validates
      obtain ⟨rfl, -⟩ := validates
      exact refused (List.contains_iff_mem.mpr allowed)

theorem requestId_effect (r : Request) (calm : d.outages = []) :
    Effect d none (d.perform (requestId r)).2 ∧ (d.perform (requestId r)).2.identifiers ≤
      d.identifiers + 1 := by
  unfold requestId
  split
  · exact ⟨.of_still (.refl d), Nat.le_succ _⟩
  · have taken : d.perform Action.freshId = d.takeIdentifier := Deployment.perform_call calm _
    rw [Deployment.perform_bind, taken]
    exact ⟨.of_identifiers d (Nat.le_succ _), Nat.le_refl _⟩

/-- A request takes up to three identifiers: for itself, for the owner of a
lock and for an entry. -/
theorem handle_honest (policy : Policy) (r : Request) (inMemory : InMemory d)
    (left : d.identifiers + 3 ≤ identifierCount) :
    Honest (fun response => Tells (Redeems r) response.reply) d (handle policy r) := by
  obtain ⟨effect, taken⟩ := requestId_effect r inMemory.calm
  cases named : d.perform (requestId r) with
  | mk id e =>
      rw [named] at effect taken
      refine .after named effect ?_
      refine (dispatch_honest policy r (inMemory.next effect) (by omega)).before ?_ ?_
      · exact fun _ => (Call.asks_still rfl).bind fun _ => Script.asks_pure _
      · exact fun reply written tells _ => tells

end Voucher.Http
