import Voucher.Proofs.Match.Normalize
import Voucher.Proofs.Validation.Run
import Voucher.Rule.Sample

/-! A rule that reads codes in upper case does not see the case of ASCII letters, and does and says
the same for codes that differ in nothing else. Separators go before the case does, so this holds of
all codes exactly if the separator has no letter. -/
namespace Voucher

/-- Texts that differ at most in the case of ASCII letters. -/
def Text.SameButCase (a b : List Char) : Prop := a.map Char.toUpper = b.map Char.toUpper

namespace Rule

variable {r : Rule} {a b code : List Char}

/-- Removing separators from a code does not hang on case: the separator has no letter, or no text
that differs from it at most in case occurs in the code. -/
def Caseless (r : Rule) (code : List Char) : Prop :=
  (∀ c ∈ r.separatorChars, c.isAlpha = false) ∨
    ¬ r.separatorChars.map Char.toUpper <:+: (Text.trimChars code).map Char.toUpper

theorem remove_map_toUpper (letterless : ∀ c ∈ r.separatorChars, c.isAlpha = false)
    (code : List Char) :
    Text.remove r.separatorChars (code.map Char.toUpper) =
      (Text.remove r.separatorChars code).map Char.toUpper := by
  refine Text.remove_map (fun c member => Text.toUpper_of_not_isAlpha (letterless c member)) ?_
  intro c member
  have letter := letterless c.toUpper member
  rw [Text.isAlpha_toUpper] at letter
  exact Text.toUpper_of_not_isAlpha letter

theorem normalize_sameButCase (insensitive : r.caseSensitive = false) (same : Text.SameButCase a b)
    (caseless : r.Caseless a) : r.normalize a = r.normalize b := by
  have trimmed : (Text.trimChars a).map Char.toUpper = (Text.trimChars b).map Char.toUpper := by
    rw [← Text.trimChars_map Text.isBlank_toUpper, ← Text.trimChars_map Text.isBlank_toUpper, same]
  rw [normalize_eq, normalize_eq, inCase_insensitive insensitive, inCase_insensitive insensitive,
    ← Text.upperChars_map_toUpper, ← Text.upperChars_map_toUpper (Text.remove _ (Text.trimChars b))]
  obtain letterless | absent := caseless
  · rw [← remove_map_toUpper letterless, ← remove_map_toUpper letterless, trimmed]
  · have unseparated :
        ∀ code, (Text.trimChars code).map Char.toUpper = (Text.trimChars a).map Char.toUpper →
        Text.remove r.separatorChars (Text.trimChars code) = Text.trimChars code := by
      intro code alike
      refine Text.remove_eq_self_iff.mpr fun _ occurs => absent ?_
      rw [← alike]
      exact occurs.map Char.toUpper
    rw [unseparated a rfl, unseparated b trimmed.symm, trimmed]

/-- A text between two zeros. -/
def framed (cs : List Char) : List Char := '0' :: cs ++ ['0']

theorem trimChars_framed (cs : List Char) : Text.trimChars (framed cs) = framed cs := by
  have front : Text.trimLeft ('0' :: cs) = '0' :: cs :=
    Text.trimLeft_eq_self_iff.mpr (by simp [Text.isBlank])
  rw [framed, Text.trimChars_append (by simp) (by simp [Text.isBlank]), front]

/-- A separator with a letter is removed in one case of the letter and kept in the other. -/
theorem exists_normalize_ne (insensitive : r.caseSensitive = false) {c : Char}
    (member : c ∈ r.separatorChars)
    (letter : c.isAlpha = true) : ∃ a b, Text.SameButCase a b ∧ r.normalize a ≠ r.normalize b := by
  obtain ⟨front, back, separator⟩ := List.append_of_mem member
  obtain ⟨d, other, cases⟩ := Text.exists_other_case letter
  have some : r.separatorChars ≠ [] := List.ne_nil_of_mem member
  have same : Text.SameButCase (framed r.separatorChars) (framed (front ++ d :: back)) := by
    simp [Text.SameButCase, framed, separator, cases]
  -- The other form has one letter too few for the separator to occur in it.
  have absent : ¬ r.separatorChars <:+: framed (front ++ d :: back) := by
    intro occurs
    have zero : '0' ≠ c := by
      rintro rfl
      contradiction
    have whole : r.separatorChars.count c = front.count c + (back.count c + 1) := by
      rw [separator, List.count_append, List.count_cons_self]
    have rest : (framed (front ++ d :: back)).count c = front.count c + back.count c := by
      simp [framed, other, zero]
    have letters := occurs.sublist.count_le c
    omega
  refine ⟨_, _, same, fun equal => ?_⟩
  rw [normalize_eq, normalize_eq, trimChars_framed, trimChars_framed,
    Text.remove_eq_self_iff.mpr fun _ => absent, inCase_insensitive insensitive,
    inCase_insensitive insensitive, ← Text.upperChars_map_toUpper (framed (_ ++ _)),
    ← same, Text.upperChars_map_toUpper] at equal
  have occurs : r.separatorChars <:+: framed r.separatorChars := ⟨['0'], ['0'], rfl⟩
  have shorter := Text.length_upperChars_lt (Text.remove_sublist _ _)
    (Text.length_remove_lt some occurs)
  rw [equal] at shorter
  exact Nat.lt_irrefl _ shorter

end Rule

namespace Match

theorem judge_eq {r : Rule} {a b : String} (same : r.normalize a.toList = r.normalize b.toList)
    (maxSteps : Nat) :
    judge maxSteps r a = judge maxSteps r b := by
  rw [judge, judge, same]

end Match

namespace Outcome

/-- The outcome with the code as it was typed. -/
def typed (code : String) : Outcome → Outcome
  | accepted a => accepted { a with code := code }
  | rejected r => rejected r

end Outcome

namespace Validation

open Service

variable {policy : Policy} {request : Request} {mode : Mode} {project : Project} {rule : Rule}
  {a b : String}

/-- A validation whose outcome tells another code as the one typed. -/
def retyped (code : String) (m : Action (Result (Option Outcome))) :
    Action (Result (Option Outcome)) :=
  m.andThen fun outcome => pure (.ok (outcome.map (Outcome.typed code)))

theorem use_typed (policy : Policy) (request : Request) (mode : Mode) (project : Project)
    (rule : Rule) (normalized code : String) :
    use policy { request with code := code } mode project rule normalized =
      (use policy request mode project rule normalized).andThen fun outcome =>
        pure (.ok (outcome.typed code)) := by
  cases mode with
  | sandbox => rfl
  | dryRun => rfl
  | live =>
      simp only [use, Action.andThen_assoc]
      congr
      funext redemption
      cases redemption <;> rfl

theorem useIfAdmitted_typed (policy : Policy) (request : Request) (mode : Mode) (project : Project)
    (rule : Rule) (normalized code : String) :
    useIfAdmitted policy { request with code := code } mode project rule normalized =
      (useIfAdmitted policy request mode project rule normalized).andThen fun outcome =>
        pure (.ok (outcome.typed code)) := by
  simp only [useIfAdmitted, Action.bind_andThen]
  congr
  funext now
  have admitted : admission { request with code := code } project rule now =
    admission request project rule now := rfl
  rw [admitted]
  cases admission request project rule now with
  | error r => rfl
  | ok _ => exact use_typed policy request mode project rule normalized code

/-- Codes that normalize alike are tried in the same way, and told apart by nothing but how they
were typed. -/
theorem tryRule_typed (same : rule.normalize a.toList = rule.normalize b.toList) :
    tryRule policy { request with code := b } mode project rule =
      retyped b (tryRule policy { request with code := a } mode project rule) := by
  have judged := Match.judge_eq same policy.maxSteps
  cases found : Match.judge policy.maxSteps rule b with
  | mismatch =>
      have first : tryRule policy { request with code := a } mode project rule = pure (.ok none) :=
        tryRule_mismatch (judged.trans found)
      have second : tryRule policy { request with code := b } mode project rule = pure (.ok none) :=
        tryRule_mismatch found
      rw [first, second]
      rfl
  | refused r =>
      have first : tryRule policy { request with code := a } mode project rule =
        pure (.ok (some (.rejected r))) :=
        tryRule_refused (judged.trans found)
      have second : tryRule policy { request with code := b } mode project rule =
        pure (.ok (some (.rejected r))) :=
        tryRule_refused found
      rw [first, second]
      rfl
  | matched normalized =>
      have first : tryRule policy { request with code := a } mode project rule =
          (useIfAdmitted policy { request with code := a } mode project rule normalized).andThen
            fun outcome =>
            pure (.ok (some outcome)) := tryRule_matched (judged.trans found)
      have second : tryRule policy { request with code := b } mode project rule =
          (useIfAdmitted policy { request with code := b } mode project rule normalized).andThen
            fun outcome =>
            pure (.ok (some outcome)) := tryRule_matched found
      have typed :=
        useIfAdmitted_typed policy { request with code := a } mode project rule normalized b
      rw [first, second, typed, retyped, Action.andThen_assoc, Action.andThen_assoc]
      rfl

/-- Codes that differ at most in the case of ASCII letters are one code to a rule that reads them in
upper case, where removing separators does not hang on case. For a separator with a letter it does
hang on case, of some codes. -/
theorem letter_case_unseen (insensitive : rule.caseSensitive = false) :
    (∀ a b : String, Text.SameButCase a.toList b.toList → rule.Caseless a.toList →
      rule.normalize a.toList = rule.normalize b.toList ∧
        ∀ (policy : Policy) (request : Request) (mode : Mode) (project : Project),
          Match.judge policy.maxSteps rule b = Match.judge policy.maxSteps rule a ∧
            tryRule policy { request with code := b } mode project rule =
              retyped b (tryRule policy { request with code := a } mode project rule)) ∧
    ((∀ a b, Text.SameButCase a b → rule.normalize a = rule.normalize b) ↔
      ∀ c ∈ rule.separatorChars, c.isAlpha = false) := by
  refine ⟨?alike, ?letterless, ?all⟩
  case alike =>
    intro a b same caseless
    have normalized := Rule.normalize_sameButCase insensitive same caseless
    exact ⟨normalized, fun policy request mode project =>
      ⟨Match.judge_eq normalized.symm policy.maxSteps, tryRule_typed normalized⟩⟩
  case letterless =>
    intro always c member
    rw [← Bool.not_eq_true]
    intro letter
    obtain ⟨a, b, same, differ⟩ := Rule.exists_normalize_ne insensitive member letter
    exact differ (always a b same)
  case all =>
    intro letterless a b same
    exact Rule.normalize_sameButCase insensitive same (.inl letterless)

/-- A printed code may be typed in small letters. -/
theorem letter_case_unseen_dashed :
    Text.SameButCase "dn-2026-abcd1234-3".toList "DN-2026-ABCD1234-3".toList ∧
      Rule.prefixedSample.normalize "dn-2026-abcd1234-3".toList =
        Rule.prefixedSample.normalize "DN-2026-ABCD1234-3".toList := by
  have same : Text.SameButCase "dn-2026-abcd1234-3".toList "DN-2026-ABCD1234-3".toList := by
    unfold Text.SameButCase
    decide
  obtain ⟨alike, -⟩ := letter_case_unseen (show Rule.prefixedSample.caseSensitive = false from rfl)
  have letterless : ∀ c ∈ Rule.prefixedSample.separatorChars, c.isAlpha = false := by
    simp [Rule.prefixedSample, Rule.separatorChars]
  exact ⟨same, (alike _ _ same (.inl letterless)).1⟩

/-- A rule for codes that a small letter separates. -/
def crossedRule : Rule := { Rule.sample with separator := some "x" }

/-- A small letter is removed as the separator, and its capital is not. -/
theorem letter_case_seen :
    crossedRule.caseSensitive = false ∧ Text.SameButCase "1x2".toList "1X2".toList ∧
      crossedRule.normalize "1x2".toList = "12".toList ∧
      crossedRule.normalize "1X2".toList = "1X2".toList := by
  refine ⟨rfl, ?_, ?_, ?_⟩
  · unfold Text.SameButCase
    decide
  · decide +kernel
  · decide +kernel

end Validation

end Voucher
