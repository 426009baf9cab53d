import Voucher.Proofs.Ledger.Exits
import Voucher.Proofs.Telemetry.Told
import Voucher.Proofs.Validation.FirstMatch

/-! What one validation counts, whatever it is answered: one lookup of its project, a denied lock if
its redemption has ended so, and then its own result. -/
namespace Voucher

open Service
open Ledger.Interleaving (Answered)
open Telemetry (Records)

namespace Cache.Rules

/-- The result under which a lookup is counted, and how many projects are loaded for it. -/
inductive Lookup : String → Nat → Prop where
  | hit : Lookup "hit" 0
  | miss : Lookup "miss" 1
  | error : Lookup "error" 1

theorem load_accounts (life : UInt64) (projectId : Uuid) :
    (load life projectId).Ends fun told _ => Records told [] 1 0 := by
  rintro (e | none | book)
  · exact ⟨rfl, rfl, rfl⟩
  · exact ⟨rfl, rfl, rfl⟩
  · exact fun _ => ⟨rfl, rfl, rfl⟩

/-- A lookup is counted once, and it loads the project unless it is a hit. -/
theorem get_accounts (life : UInt64) (projectId : Uuid) :
    (get life projectId).Ends fun told _ =>
      ∃ result n, Lookup result n ∧ Records told [.cacheLookup result] n 0 := by
  have loads {result : String} (lookup : Lookup result 1)
      (reply : Except BackendError (Option String)) :
      Script.Ends (fun told _ => ∃ result n, Lookup result n ∧
        Records (⟨.readCache (key projectId), reply⟩ :: told) [.cacheLookup result] n 0)
        (do Action.count (.cacheLookup result); load life projectId) := fun counted =>
    (load_accounts life projectId).mono fun _ _ records =>
      ⟨_, 1, lookup, (records.cons_count _ counted).cons_silent (q := .readCache _) rfl reply⟩
  rintro (e | none | text)
  · exact loads .error _
  · exact loads .miss _
  · simp only [Script.bind]
    cases decode? text with
    | none => exact loads .error _
    | some book => exact fun _ => ⟨_, 0, .hit, rfl, rfl, rfl⟩

end Cache.Rules

/-- The shape of a code never says that it has been redeemed. -/
theorem Match.refused_code {maxSteps : Nat} {rule : Rule} {code : String} {r : Rejection}
    (refused : judge maxSteps rule code = .refused r) : r.code ≠ .alreadyRedeemed := by
  unfold judge at refused
  simp only at refused
  split at refused
  · contradiction
  · split at refused
    · cases refused
      nofun
    · contradiction
    · split at refused
      · split at refused
        · rename_i fault
          cases refused
          simp [checkDigitFault?_code fault]
        · contradiction
      · contradiction

namespace Ledger

/-- What a redemption counts: a denied lock if it is locked out, and nothing otherwise. -/
def Barred (locked : Prop) (told : List Answered) : Prop :=
  locked ∧ Records told [.lockFailure] 0 1 ∨ ¬ locked ∧ Records told [] 0 0

theorem Barred.congr {p q : Prop} {told : List Answered} (same : p ↔ q) (barred : Barred p told) :
    Barred q told := by
  rwa [Barred, ← same]

theorem Barred.cons_silent {p : Prop} {q : Call} {told : List Answered} (silent : q.isSilent = true)
    (answer : q.Answer) (barred : Barred p told) : Barred p (⟨q, answer⟩ :: told) :=
  barred.imp (.imp_right (·.cons_silent silent answer)) (.imp_right (·.cons_silent silent answer))

theorem Exit.records {limit : Int32} {d : Draft} {told : List Answered} {result : Result Redemption}
    (exit : Exit limit d told result) : Records told [] 0 0 := by
  cases exit <;> exact ⟨rfl, rfl, rfl⟩

theorem redeem_accounts (policy : Policy) (rule : Rule) (normalized : String) (c : Context) :
    (redeem policy rule normalized c).Ends fun told result =>
      Barred (result = .ok .locked) told := by
  rintro (e | guard)
  · exact fun _ => .inl ⟨rfl, rfl, rfl, rfl⟩
  · refine (redeemLocked_ends rule (draft policy rule normalized c)).bind
      fun told result exit released => ?_
    have released : Records [⟨.release guard, released⟩] [] 0 0 := ⟨rfl, rfl, rfl⟩
    obtain ⟨counted, fetched, denied⟩ := exit.records.append released
    exact .inr ⟨exit.orderly.unlocked, counted, fetched, denied⟩

end Ledger

namespace Validation

/-- The lock of the code's redemption could not be had. -/
def IsLockedOut (result : Result Outcome) : Prop := result = .ok (.rejected lockedOut)

theorem settled_isLockedOut (request : Request) (project : Project) (rule : Rule)
    (normalized : String) (redemption : Ledger.Redemption) :
    IsLockedOut (.ok (settled request project rule normalized redemption)) ↔
      redemption = .locked := by
  cases redemption <;> simp [IsLockedOut, settled, alreadyRedeemed, lockedOut]

theorem not_isLockedOut {r : Rejection} (code : r.code ≠ .alreadyRedeemed) :
    ¬ IsLockedOut (.ok (.rejected r)) := by
  rintro ⟨⟩
  exact code rfl

theorem use_accounts (policy : Policy) (request : Request) (mode : Mode) (project : Project)
    (rule : Rule) (normalized : String) :
    (use policy request mode project rule normalized).Ends fun told result =>
      Ledger.Barred (IsLockedOut result) told := by
  cases mode with
  | sandbox => exact fun _ _ => .inr ⟨nofun, rfl, rfl, rfl⟩
  | dryRun => exact fun _ => .inr ⟨nofun, rfl, rfl, rfl⟩
  | live =>
      -- No rejection but that of a denied lock is the one for a denied lock, so the two ends say
      -- the same.
      refine (Ledger.redeem_accounts policy rule normalized _).bind fun told redemption barred => ?_
      cases redemption with
      | error e =>
          rw [Script.ends_pure, List.append_nil]
          exact barred.congr ⟨nofun, nofun⟩
      | ok redemption =>
          rw [Script.ends_pure, List.append_nil]
          exact barred.congr ((iff_of_eq (Except.ok.injEq ..)).trans (settled_isLockedOut ..).symm)

theorem useIfAdmitted_accounts (policy : Policy) (request : Request) (mode : Mode)
    (project : Project) (rule : Rule) (normalized : String) :
    (useIfAdmitted policy request mode project rule normalized).Ends fun told result =>
      Ledger.Barred (IsLockedOut result) told := by
  intro now
  cases admitted : admission request project rule now with
  | error r =>
      simp only [Script.bind, admitted]
      have apart : ¬ IsLockedOut (.ok (.rejected r)) := not_isLockedOut fun code => by
        have few := admission_code admitted
        simp [code] at few
      exact .inr ⟨apart, rfl, rfl, rfl⟩
  | ok _ =>
      simp only [Script.bind, admitted]
      exact (use_accounts policy request mode project rule normalized).mono fun _ _ barred =>
        barred.cons_silent rfl now

theorem decide_accounts (policy : Policy) (request : Request) (mode : Mode) (book : RuleBook) :
    (decide policy request mode book).Ends fun told result =>
      Ledger.Barred (IsLockedOut result) told := by
  cases first : book.rules.find? (Match.takes policy.maxSteps request.code) with
  | none =>
      rw [decide_none first]
      exact .inr ⟨not_isLockedOut nofun, rfl, rfl, rfl⟩
  | some rule =>
      cases judged : Match.judge policy.maxSteps rule request.code with
      | mismatch =>
          have takes := List.find?_some first
          simp [Match.takes, judged] at takes
      | refused r =>
          rw [decide_refused first judged]
          exact .inr ⟨not_isLockedOut (Match.refused_code judged), rfl, rfl, rfl⟩
      | matched normalized =>
          rw [decide_matched first judged]
          exact useIfAdmitted_accounts policy request mode book.project rule normalized

theorem outcomeOf_accounts (policy : Policy) (request : Request)
    (found : Result (Option RuleBook)) :
    (outcomeOf policy request found).Ends fun told result =>
      Ledger.Barred (IsLockedOut result) told := by
  obtain e | none | book := found
  · exact .inr ⟨nofun, rfl, rfl, rfl⟩
  · exact .inr ⟨not_isLockedOut nofun, rfl, rfl, rfl⟩
  · exact decide_accounts policy request request.mode book

def statusLabel : Result Outcome → String
  | .ok outcome => if outcome.isAccepted then "ok" else "ko"
  | .error _ => "error"

def codeLabel : Result Outcome → String
  | .ok outcome => (outcome.errorCode?.map ErrorCode.name).getD "none"
  | .error e => e.code

theorem event_eq (mode : Mode) (result : Result Outcome) :
    event mode result = .validation (statusLabel result) (codeLabel result) mode.name := by
  obtain e | a | r := result <;> rfl

/-- All that a validation counts: the lookup of its project, the denied lock if it ends locked out,
and its result. -/
inductive Accounted (request : Request) (told : List Answered) (result : Result Outcome) :
    Prop where
  | lockedOut {lookup : String} {n : Nat} (looked : Cache.Rules.Lookup lookup n)
      (out : IsLockedOut result)
      (records : Records told [.cacheLookup lookup, .lockFailure, event request.mode result] n 1)
  | free {lookup : String} {n : Nat} (looked : Cache.Rules.Lookup lookup n)
      (free : ¬ IsLockedOut result)
      (records : Records told [.cacheLookup lookup, event request.mode result] n 0)

theorem run_accounts (policy : Policy) (request : Request) :
    (run policy request).Ends (Accounted request) := by
  rw [run_eq]
  refine (Cache.Rules.get_accounts policy.cacheLife request.projectId).bind fun _ found counts => ?_
  obtain ⟨lookup, n, looked, loaded⟩ := counts
  refine (outcomeOf_accounts policy request found).bind fun _ result barred counted => ?_
  have ends : Records [⟨.count (event request.mode result), counted⟩]
      [event request.mode result] 0 0 :=
    ⟨rfl, rfl, rfl⟩
  obtain ⟨out, records⟩ | ⟨free, records⟩ := barred
  · exact .lockedOut looked out (loaded.append (records.append ends))
  · exact .free looked free (loaded.append (records.append ends))

end Validation

end Voucher
