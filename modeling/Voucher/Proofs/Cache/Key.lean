import Voucher.Ledger.Redeem
import Voucher.Proofs.Cache.Getter
import Voucher.Proofs.Cache.Glob
import Voucher.Proofs.KeyValue.Server
import Voucher.Proofs.Service.Deployment

/-! Rules and locks in one key space. A key tells what it was made of, as every hash has the same
length; and the pattern of all rules has the keys of projects and no others, so forgetting the rules
leaves the locks alone. -/
namespace Voucher

open Ledger (codeHash)
open Service

namespace Sha256

def hexDigits : List Char := "0123456789abcdef".toList

theorem digitChar_mem_hexDigits (n : Fin 16) : Nat.digitChar n.val ∈ hexDigits := by
  revert n
  decide

theorem length_hexWord (w : UInt32) : (hexWord w).length = 8 := by
  rw [hexWord, List.length_map]
  rfl

theorem mem_hexDigits_of_hexWord {c : Char} (member : c ∈ hexWord w) : c ∈ hexDigits := by
  obtain ⟨shift, -, rfl⟩ := List.mem_map.mp member
  exact digitChar_mem_hexDigits ⟨_, Nat.mod_lt _ (by decide)⟩

/-- A state is written in sixty-four digits. -/
theorem State.length_hex (s : State) : s.hex.length = 64 := by
  simp only [State.hex, List.length_append, length_hexWord]

theorem State.mem_hexDigits_of_hex {s : State} {c : Char} (member : c ∈ s.hex) : c ∈ hexDigits := by
  simp only [State.hex, List.mem_append] at member
  obtain ((((((word | word) | word) | word) | word) | word) | word) | word := member <;>
    exact mem_hexDigits_of_hexWord word

end Sha256

namespace Ledger

variable {normalized : String}

theorem toList_codeHash (normalized : String) :
    (codeHash normalized).toList = (Sha256.digest normalized.toUTF8.toList).hex :=
  String.toList_ofList

theorem length_codeHash (normalized : String) : (codeHash normalized).toList.length = 64 := by
  rw [toList_codeHash, Sha256.State.length_hex]

theorem mem_hexDigits_of_codeHash (member : c ∈ (codeHash normalized).toList) :
    c ∈ Sha256.hexDigits := by
  rw [toList_codeHash] at member
  exact Sha256.State.mem_hexDigits_of_hex member

end Ledger

/-- Texts that end in texts of one length are told apart in front and at the end. -/
theorem Text.append_eq_append_iff {a b x y : String} (length : x.toList.length = y.toList.length) :
    a ++ x = b ++ y ↔ a = b ∧ x = y := by
  refine ⟨fun same => ?_, fun ⟨fronts, ends⟩ => fronts ▸ ends ▸ rfl⟩
  have chars := congrArg String.toList same
  rw [String.toList_append, String.toList_append] at chars
  obtain ⟨fronts, ends⟩ := List.append_inj' chars length
  exact ⟨String.toList_inj.mp fronts, String.toList_inj.mp ends⟩

namespace Cache.Glob

/-- A pattern whose only star is its last character is the front of the keys that have its form. -/
theorem fits_star_iff {front key : List Char} (plain : '*' ∉ front) :
    Fits (front ++ ['*']) key ↔ ∃ text, key = front ++ text := by
  induction front generalizing key with
  | nil =>
      constructor
      · exact fun _ => ⟨key, rfl⟩
      · intro _
        have whole := Fits.star key .nil
        rwa [List.append_nil] at whole
  | cons c front ih =>
      obtain ⟨other, plain⟩ := not_or.mp (List.mem_cons.not.mp plain)
      rw [List.cons_append]
      constructor
      · rintro (_ | ⟨text, fits⟩ | ⟨-, fits⟩)
        · exact absurd rfl other
        · obtain ⟨text, rfl⟩ := (ih plain).mp fits
          exact ⟨text, rfl⟩
      · rintro ⟨text, rfl⟩
        exact .literal (Ne.symm other) ((ih plain).mpr ⟨text, rfl⟩)

theorem acceptsString_star_iff (front : String) {pattern key : String}
    (whole : pattern = front ++ "*") (plain : '*' ∉ front.toList) :
    acceptsString pattern key = true ↔ ∃ text, key = front ++ text := by
  have star : "*".toList = ['*'] := rfl
  rw [acceptsString, accepts_iff, whole, String.toList_append, star, fits_star_iff plain]
  constructor
  · rintro ⟨text, split⟩
    refine ⟨String.ofList text, String.toList_inj.mp ?_⟩
    rw [split, String.toList_append, String.toList_ofList]
  · rintro ⟨text, rfl⟩
    exact ⟨text.toList, String.toList_append⟩

end Cache.Glob

namespace Cache.Key

theorem project_eq_iff {a b : String} : project a = project b ↔ a = b :=
  ⟨project_inj, congrArg project⟩

theorem redemption_ne_project (rule hash id : String) : redemption rule hash ≠ project id := by
  intro same
  have lock : (redemption rule hash).toList =
      "codeguard:".toList ++ 'l' ::
        ("ock:".toList ++ (rule.toList ++ (":".toList ++ hash.toList))) := by
    have head : "codeguard:lock:".toList = "codeguard:".toList ++ 'l' :: "ock:".toList := rfl
    unfold redemption
    rw [String.toList_append, String.toList_append, String.toList_append, head]
    simp only [List.append_assoc, List.cons_append]
  have key : (project id).toList = "codeguard:".toList ++ 'p' ::
      ("roject:".toList ++ id.toList) := by
    have head : "codeguard:project:".toList = "codeguard:".toList ++ 'p' :: "roject:".toList := rfl
    unfold project
    rw [String.toList_append, head]
    simp only [List.append_assoc, List.cons_append]
  rw [same, key] at lock
  exact absurd (List.cons.inj (List.append_cancel_left lock)).1 (by decide)

/-- The rule of a lock may hold any text, colons too: what stands behind it is of a known length. -/
theorem redemption_eq_iff {rule other hash code : String}
    (length : hash.toList.length = code.toList.length) :
    redemption rule hash = redemption other code ↔ rule = other ∧ hash = code := by
  unfold redemption
  rw [Text.append_eq_append_iff length, String.append_left_inj, String.append_right_inj]

theorem allProjects_accepts_iff {key : String} :
    Glob.acceptsString allProjects key = true ↔ ∃ id, key = project id :=
  Glob.acceptsString_star_iff "codeguard:project:" (by decide) (by decide)

theorem allProjects_refuses (rule hash : String) :
    Glob.acceptsString allProjects (redemption rule hash) = false := by
  refine Bool.eq_false_iff.mpr fun accepted => ?_
  obtain ⟨id, same⟩ := allProjects_accepts_iff.mp accepted
  exact redemption_ne_project rule hash id same

/-- Whatever has gone, no lock has. -/
def SparesLocks (before after : String → Option α) : Prop :=
  ∀ rule code, after (redemption rule (codeHash code)) = before (redemption rule (codeHash code))

def ForgetsProjects (after : String → Option α) : Prop := ∀ id, after (project id) = none

/-- The keys of the pattern have gone and all others are as they were. -/
theorem clears {before after : String → Option α}
    (cleared : ∀ key, after key = if Glob.acceptsString allProjects key then none else before key) :
    SparesLocks before after ∧ ForgetsProjects after := by
  constructor
  · intro rule code
    rw [cleared, allProjects_refuses]
    rfl
  · intro id
    rw [cleared, if_pos (allProjects_accepts_iff.mpr ⟨id, rfl⟩)]

end Cache.Key

namespace Cache.Rules

variable {d : Deployment} {server : KeyValue.Server} {rows : Option Lock.Rows} {process : Uuid}

/-- On a server that others share, rules are forgotten and locks are not; a server that fails
forgets nothing. -/
theorem invalidateAll_shared (shared : d.backing = .server server rows process) :
    ∃ left, (d.perform invalidateAll).2.backing = .server left rows process ∧
      Key.SparesLocks server.value? left.value? ∧
      (server.isDown = false → d.outages.lookup .deleteCache = none →
        Key.ForgetsProjects left.value?) := by
  rw [Deployment.perform, invalidateAll_run]
  cases struck : d.outages.lookup .deleteCache with
  | some outage =>
      have failed : Deployment.answer (.deleteCachedMatching Key.allProjects) d =
          (.error .redis, d) := by
        simp only [Deployment.answer, Call.target?, Option.bind_some, struck, Deployment.strike]
      rw [failed]
      exact ⟨server, shared, fun _ _ => rfl, fun _ unstruck =>
        absurd unstruck (Option.some_ne_none outage)⟩
  | none =>
      have served : (Deployment.answer (.deleteCachedMatching Key.allProjects) d).2.backing =
          .server (server.deleteMatching Key.allProjects).2 rows process := by
        simp only [Deployment.answer, Call.target?, Option.bind_some, struck, Deployment.serve,
          Deployment.deleteCachedMatching, shared]
      refine ⟨_, served, ?_⟩
      cases down : server.isDown with
      | true =>
          rw [server.deleteMatching_down down]
          exact ⟨fun _ _ => rfl, fun up => absurd up.symm Bool.false_ne_true⟩
      | false =>
          obtain ⟨spares, forgets⟩ :=
            Key.clears (KeyValue.Server.value?_deleteMatching down Key.allProjects)
          exact ⟨spares, fun _ _ => forgets⟩

end Cache.Rules

namespace Cache.Key

/-- Keys are the same only if they were made of the same texts, and locks have other keys than
projects. To forget all rules, in memory or on a server that is shared with the locks, touches no
lock and leaves no project's rules. -/
theorem key_spaces_apart :
    (∀ rule other code copy, redemption rule (codeHash code) = redemption other (codeHash copy) ↔
      rule = other ∧ codeHash code = codeHash copy) ∧
    (∀ code, (codeHash code).toList.length = 64 ∧ ∀ c ∈ (codeHash code).toList,
      c ∈ Sha256.hexDigits) ∧
    (∀ a b, project a = project b ↔ a = b) ∧ (∀ p q, Rules.key p = Rules.key q ↔ p = q) ∧
    (∀ id, Glob.acceptsString allProjects (project id) = true) ∧
    (∀ rule code, Glob.acceptsString allProjects (redemption rule (codeHash code)) = false) ∧
    (∀ m : Memory, SparesLocks m.slot? (m.deleteMatching allProjects).2.slot? ∧
      ForgetsProjects (m.deleteMatching allProjects).2.slot?) ∧
    ∀ (d : Deployment) server rows process, d.backing = .server server rows process →
      ∃ left, (d.perform Rules.invalidateAll).2.backing = .server left rows process ∧
        SparesLocks server.value? left.value? ∧
        (server.isDown = false → d.outages.lookup .deleteCache = none →
          ForgetsProjects left.value?) := by
  refine ⟨?_, ?_, ?_, ?_, ?_, ?_, ?_, ?_⟩
  · intro rule other code copy
    exact redemption_eq_iff ((Ledger.length_codeHash code).trans (Ledger.length_codeHash copy).symm)
  · intro code
    exact ⟨Ledger.length_codeHash code, fun c member => Ledger.mem_hexDigits_of_codeHash member⟩
  · exact fun a b => project_eq_iff
  · exact fun p q => ⟨Rules.key_inj, congrArg Rules.key⟩
  · exact fun id => allProjects_accepts_iff.mpr ⟨id, rfl⟩
  · exact fun rule code => allProjects_refuses rule (codeHash code)
  · exact fun m => clears (m.slot?_deleteMatching allProjects)
  · exact fun d server rows process shared => Rules.invalidateAll_shared shared

/-- A server with the rules of a project and a lock whose rule is written like a pattern. -/
def sharedServer : KeyValue.Server :=
  (KeyValue.Server.empty.put (Rules.key .nil) "old").put (redemption "a:*" (codeHash "A")) "owner"

theorem key_spaces_apart_shared : ∃ left,
    (({ Deployment.inMemory .standard .epoch 0 with
        backing := .server sharedServer none .nil }).perform Rules.invalidateAll).2.backing =
      .server left none .nil ∧
    sharedServer.value? (Rules.key .nil) = some "old" ∧ left.value? (Rules.key .nil) = none ∧
    left.value? (redemption "a:*" (codeHash "A")) = some "owner" := by
  obtain ⟨-, -, -, -, -, -, -, shared⟩ := key_spaces_apart
  obtain ⟨left, cleared, spares, forgets⟩ := shared
    { Deployment.inMemory .standard .epoch 0 with backing := .server sharedServer none .nil }
    _ _ _ rfl
  refine ⟨left, cleared, ?_, forgets rfl rfl Uuid.nil.text, ?_⟩
  · have apart := (redemption_ne_project "a:*" (codeHash "A") Uuid.nil.text).symm
    exact (KeyValue.Server.value?_put_ne _ apart "owner").trans (KeyValue.Server.value?_put_self ..)
  · exact (spares "a:*" "A").trans (KeyValue.Server.value?_put_self ..)

end Cache.Key

end Voucher
