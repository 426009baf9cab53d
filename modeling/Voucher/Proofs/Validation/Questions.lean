import Voucher.Proofs.Ledger.Interleaving
import Voucher.Proofs.Validation.FirstMatch

/-! What a validation asks: the book of its project, and then the clock, the ledger and the locks.
It never asks for anything else that is stored of projects and rules. -/
namespace Voucher

open Service

/-- The question is one with which a validation goes on once it has its book. -/
def Service.Call.isConcluding : Call → Bool
  | now | freshId | fetchEntry .. | insertEntry _ | incrementEntry .. | acquire .. | release _
  | count _ => true
  | _ => false

namespace Ledger

theorem redeemLocked_asks (rule : Rule) (d : Draft) :
    (redeemLocked rule d).Asks (·.isConcluding = true) := by
  refine (Interleaving.redeemLocked_storage rule d).mono fun q storage => ?_
  cases q with
  | fetchEntry | insertEntry | incrementEntry => rfl
  | _ => simp [Interleaving.isStorage] at storage

theorem redeem_asks (policy : Policy) (rule : Rule) (normalized : String) (c : Context) :
    (redeem policy rule normalized c).Asks (·.isConcluding = true) := by
  refine ⟨rfl, ?_⟩
  rintro (e | guard)
  · exact ⟨rfl, fun _ => trivial⟩
  · exact (redeemLocked_asks rule _).bind fun _ => ⟨rfl, fun _ => trivial⟩

end Ledger

namespace Validation

theorem use_asks (policy : Policy) (request : Request) (mode : Mode) (project : Project)
    (rule : Rule) (normalized : String) :
    (use policy request mode project rule normalized).Asks (·.isConcluding = true) := by
  cases mode with
  | sandbox => exact ⟨rfl, fun _ => ⟨rfl, fun _ => trivial⟩⟩
  | dryRun => exact ⟨rfl, fun _ => trivial⟩
  | live => exact Action.asks_andThen (Ledger.redeem_asks _ _ _ _) fun _ => trivial

theorem tryRule_asks (policy : Policy) (request : Request) (mode : Mode) (project : Project)
    (rule : Rule) :
    (tryRule policy request mode project rule).Asks (·.isConcluding = true) := by
  cases judged : Match.judge policy.maxSteps rule request.code with
  | mismatch =>
      rw [tryRule_mismatch judged]
      trivial
  | refused r =>
      rw [tryRule_refused judged]
      trivial
  | matched normalized =>
      rw [tryRule_matched judged]
      refine Action.asks_andThen ⟨rfl, fun now => ?_⟩ fun _ => trivial
      simp only [Script.bind]
      cases admission request project rule now with
      | error r => trivial
      | ok _ => exact use_asks policy request mode project rule normalized

theorem decide_asks (policy : Policy) (request : Request) (mode : Mode) (book : RuleBook) :
    (decide policy request mode book).Asks (·.isConcluding = true) := by
  refine Action.asks_andThen ?_ fun _ => trivial
  rw [tryRules_eq]
  cases book.rules.find? (Match.takes policy.maxSteps request.code) with
  | none => trivial
  | some rule => exact tryRule_asks policy request mode book.project rule

theorem conclude_asks (policy : Policy) (request : Request) (found : Result (Option RuleBook)) :
    (conclude policy request found).Asks (·.isConcluding = true) := by
  have counts (result : Result Outcome) :
      (do Action.count (event request.mode result); pure result : Action (Result Outcome)).Asks
        (·.isConcluding = true) := ⟨rfl, fun _ => trivial⟩
  obtain e | none | book := found
  · exact counts _
  · exact counts _
  · exact (decide_asks policy request request.mode book).bind counts

/-- What a validation for a project may ask. -/
def Asked (projectId : Uuid) (q : Call) : Prop :=
  Cache.Rules.Loading projectId q ∨ q.isConcluding = true

theorem run_asks (policy : Policy) (request : Request) :
    (run policy request).Asks (Asked request.projectId) := by
  rw [run_eq]
  have loads := (Cache.Rules.get_asks_loading policy.cacheLife request.projectId).mono
    (Q := Asked request.projectId) fun _ => .inl
  exact loads.bind fun found => (conclude_asks policy request found).mono fun _ => .inr

end Validation

end Voucher
