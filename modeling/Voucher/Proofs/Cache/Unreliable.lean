import Mathlib.Logic.Function.Basic
import Voucher.Proofs.Cache.Entry
import Voucher.Proofs.Cache.Getter

/-! A cache that fails as it likes but makes up no entry. Each question to it is answered by the
next of a row of whims; all others are answered by a deployment, whose own cache is not used. -/
namespace Voucher

namespace Service

/-- The question goes to the cache. -/
def Call.isCaching : Call → Bool
  | readCache _ | writeCache .. | deleteCached _ | deleteCachedMatching _ => true
  | _ => false

end Service

namespace Cache

open Service

/-- What is found when the cache is read. -/
inductive Finding where
  | failure (e : BackendError)
  | nothing
  | garbage (text : String) (unread : Rules.decode? text = none)
  /-- What was stored last. -/
  | stored

/-- What the cache is up to when it is asked. -/
structure Whim where
  finding : Finding
  changed : Except BackendError Unit
  removed : Except BackendError Nat
  /-- A change is carried out, whatever the answer is. -/
  obeys : Bool

/-- A deployment with such a cache. -/
structure Unreliable where
  deployment : Deployment
  texts : String → Option String
  /-- How often the cache has been asked. -/
  asked : Nat

namespace Unreliable

def find (texts : String → Option String) (key : String) :
    Finding → Except BackendError (Option String)
  | .failure e => .error e
  | .nothing => .ok none
  | .garbage text _ => .ok (some text)
  | .stored => .ok (texts key)

def change (whim : Whim) (s : Unreliable) (texts : String → Option String) : Unreliable :=
  { s with texts := if whim.obeys then texts else s.texts, asked := s.asked + 1 }

def answer (whims : Nat → Whim) : (q : Call) → Unreliable → q.Answer × Unreliable
  | .readCache key, s => (find s.texts key (whims s.asked).finding, { s with asked := s.asked + 1 })
  | .writeCache key text _, s =>
    ((whims s.asked).changed, s.change (whims s.asked) (Function.update s.texts key (some text)))
  | .deleteCached key, s =>
    ((whims s.asked).changed, s.change (whims s.asked) (Function.update s.texts key none))
  | .deleteCachedMatching pattern, s =>
    ((whims s.asked).removed,
      s.change (whims s.asked) fun key =>
        if Glob.acceptsString pattern key then none else s.texts key)
  | q, s =>
    ((Deployment.answer q s.deployment).1,
      { s with deployment := (Deployment.answer q s.deployment).2 })

theorem answer_elsewhere (whims : Nat → Whim) {q : Call} (elsewhere : q.isCaching = false)
    (s : Unreliable) :
    answer whims q s =
      ((Deployment.answer q s.deployment).1,
        { s with deployment := (Deployment.answer q s.deployment).2 }) := by
  cases q <;> first | rfl | contradiction

theorem texts_writeCache {whims : Nat → Whim} {s : Unreliable} {key text k found : String}
    {life : UInt64} (held : (answer whims (.writeCache key text life) s).2.texts k = some found) :
    s.texts k = some found ∨ k = key ∧ found = text := by
  simp only [answer, change] at held
  cases obeys : (whims s.asked).obeys with
  | false =>
      rw [obeys] at held
      exact .inl held
  | true =>
      rw [obeys, if_pos rfl, Function.update_apply] at held
      split at held
      · exact .inr ⟨‹k = key›, (Option.some.inj held).symm⟩
      · exact .inl held

variable {whims : Nat → Whim} {s : Unreliable} {d : Deployment} {α : Type} {m : Action α}

def perform (s : Unreliable) (whims : Nat → Whim) (m : Action α) : α × Unreliable :=
  m.run (answer whims) s

theorem perform_sameCatalog (s : Unreliable) (whims : Nat → Whim) (m : Action α) :
    s.deployment.SameCatalog (s.perform whims m).2.deployment := by
  induction m generalizing s with
  | done a => exact .refl _
  | ask q k ih =>
      refine .trans ?_ (ih _ _)
      cases q <;> first | exact .refl _ | exact Deployment.answer_sameCatalog _ _

/-- What does not ask the cache goes as it does without one. -/
theorem perform_elsewhere (asks : m.Asks (·.isCaching = false)) (whims : Nat → Whim)
    (alike : s.deployment.uncounted = d.uncounted) :
    (s.perform whims m).1 = (d.perform m).1 ∧
      (s.perform whims m).2.deployment.uncounted = (d.perform m).2.uncounted ∧
      (s.perform whims m).2.texts = s.texts := by
  induction m generalizing s d with
  | done a => exact ⟨rfl, alike, rfl⟩
  | ask q k ih =>
      obtain ⟨elsewhere, after⟩ := asks
      obtain ⟨told, left⟩ := Deployment.answer_alike alike q
      have rest := ih (Deployment.answer q d).1 (after _)
        (s := { s with deployment := (Deployment.answer q s.deployment).2 }) left
      simp only [perform, Script.run, answer_elsewhere whims elsewhere, told, Deployment.perform]
      exact rest

end Unreliable

namespace Rules

open Unreliable

variable {whims : Nat → Whim} {s : Unreliable} {projectId : Uuid}

/-- A reader that storage has told something leaves nothing new but counts, and maybe the book in
the cache. -/
structure LeftBy (projectId : Uuid) (told : Result (Option RuleBook)) (s t : Unreliable) :
    Prop where
  uncounted : t.deployment.uncounted = s.deployment.uncounted
  texts : ∀ k text, t.texts k = some text → s.texts k = some text ∨
    k = key projectId ∧ ∃ book, told = .ok (some book) ∧ text = encode book

/-- A reader that has not found a book in the cache comes to what storage says. -/
theorem perform_missed (s : Unreliable) (whims : Nat → Whim) (life : UInt64) (projectId : Uuid)
    (result : String) :
    ∃ t, LeftBy projectId (Deployment.answer (.fetchRuleBook projectId) s.deployment).1 s t ∧
      s.perform whims ((Phase.missed result).script life projectId) =
        ((Deployment.answer (.fetchRuleBook projectId) s.deployment).1, t) := by
  have counted : (s.deployment.counting (.cacheLookup result)).uncounted = s.deployment.uncounted :=
    rfl
  have told := (Deployment.answer_alike counted (.fetchRuleBook projectId)).1
  have left := (Deployment.answer_fetchRuleBook_uncounted projectId _).trans counted
  have turned : answer whims (.count (.cacheLookup result)) s =
    ((), { s with deployment := s.deployment.counting (.cacheLookup result) }) := rfl
  have asked : (Phase.missed result).script life projectId =
    .ask (.count (.cacheLookup result)) fun _ => Phase.fetching.script life projectId := rfl
  rw [asked, perform, Script.run, turned, Phase.script_fetching, Script.run,
    answer_elsewhere whims rfl]
  simp only [told]
  obtain e | none | book := (Deployment.answer (.fetchRuleBook projectId) s.deployment).1
  · refine ⟨_, ?_, rfl⟩
    exact ⟨left, fun _ _ => .inl⟩
  · refine ⟨_, ?_, rfl⟩
    exact ⟨left, fun _ _ => .inl⟩
  · refine ⟨_, ?_, rfl⟩
    refine ⟨left, fun k text held => (texts_writeCache held).imp id ?_⟩
    rintro ⟨own, written⟩
    exact ⟨own, book, rfl, written⟩

theorem ofRead_find (texts : String → Option String) (key : String) (finding : Finding) :
    (∃ result, Phase.ofRead (find texts key finding) = .missed result) ∨
      ∃ text book, texts key = some text ∧ decode? text = some book ∧
        Phase.ofRead (find texts key finding) = .hit book := by
  cases finding with
  | failure e => exact .inl ⟨"error", rfl⟩
  | nothing => exact .inl ⟨"miss", rfl⟩
  | garbage text unread => exact .inl ⟨"error", by simp only [find, Phase.ofRead, unread]⟩
  | stored =>
      cases held : texts key with
      | none => exact .inl ⟨"miss", by simp only [find, held, Phase.ofRead]⟩
      | some text =>
          cases read : decode? text with
          | none => exact .inl ⟨"error", by simp only [find, held, Phase.ofRead, read]⟩
          | some book =>
              exact .inr ⟨text, book, rfl, read, by simp only [find, held, Phase.ofRead, read]⟩

/-- A reader finds a book that was stored and can be read, or it comes to what storage says. -/
theorem perform_get_unreliable (s : Unreliable) (whims : Nat → Whim) (life : UInt64)
    (projectId : Uuid) :
    ∃ t, LeftBy projectId (Deployment.answer (.fetchRuleBook projectId) s.deployment).1 s t ∧
      (s.perform whims (get life projectId) =
        ((Deployment.answer (.fetchRuleBook projectId) s.deployment).1, t) ∨
        ∃ text book, s.texts (key projectId) = some text ∧ decode? text = some book ∧
          s.perform whims (get life projectId) = (.ok (some book), t)) := by
  have read : s.perform whims (get life projectId) =
      perform { s with asked := s.asked + 1 } whims
        ((Phase.ofRead (find s.texts (key projectId) (whims s.asked).finding)).script life
          projectId) :=
    congrArg (perform s whims) Phase.script_reading
  obtain ⟨result, missed⟩ | ⟨text, book, held, decoded, hit⟩ :=
    ofRead_find s.texts (key projectId) (whims s.asked).finding
  · obtain ⟨t, left, loaded⟩ :=
      perform_missed { s with asked := s.asked + 1 } whims life projectId result
    rw [missed, loaded] at read
    exact ⟨t, ⟨left.uncounted, left.texts⟩, .inl read⟩
  · rw [hit] at read
    exact ⟨{ s with
        asked := s.asked + 1, deployment := s.deployment.counting (.cacheLookup "hit") },
      ⟨rfl, fun _ _ => .inl⟩, .inr ⟨text, book, held, decoded, read⟩⟩

end Rules

end Cache

end Voucher
