import Voucher.Proofs.Rule.Wire
import Voucher.Proofs.Validation.FirstMatch

/-! Validating against a rule book that has been read back. Nothing is said or done in another way,
except that an acceptance may leave a free-form field out in place of an explicit null, and as JSON
that is the same. -/
namespace Voucher

@[simp] theorem Json.ofOption_unlessNull (d : Option Document) :
    ofOption .ofDocument (Document.unlessNull d) = ofOption .ofDocument d := by
  match d with
  | none | some ⟨.null, _⟩ => rfl
  | some ⟨.bool _, _⟩ | some ⟨.int _, _⟩ | some ⟨.float _, _⟩ | some ⟨.str _, _⟩ | some ⟨.arr _, _⟩
  | some ⟨.obj _, _⟩ => rfl

namespace Outcome

def withoutNulls : Outcome → Outcome
  | accepted a => accepted { a with
      productInfo := Document.unlessNull a.productInfo
      campaignInfo := Document.unlessNull a.campaignInfo }
  | rejected r => rejected r

theorem toJson_withoutNulls (o : Outcome) : o.withoutNulls.toJson = o.toJson := by
  cases o with
  | accepted a => simp [withoutNulls, toJson, Acceptance.members]
  | rejected r => rfl

end Outcome

namespace CheckDigit

/-- A definition that is null is as bad as none. -/
theorem verify_unlessNull (budget : Nat) (a : Algorithm) (d : Option Document)
    (input check : List Char) :
    verify budget a ((Document.unlessNull d).map (·.value)) input check =
      verify budget a (d.map (·.value)) input check := by
  match d with
  | none => rfl
  | some ⟨.null, _⟩ => cases a <;> rfl
  | some ⟨.bool _, _⟩ | some ⟨.int _, _⟩ | some ⟨.float _, _⟩ | some ⟨.str _, _⟩ | some ⟨.arr _, _⟩
  | some ⟨.obj _, _⟩ => rfl

end CheckDigit

namespace Match

theorem checkDigitFault?_withoutNulls (maxSteps : Nat) (rule : Rule) (fields : Fields) :
    checkDigitFault? maxSteps rule.withoutNulls fields = checkDigitFault? maxSteps rule fields := by
  simp only [checkDigitFault?, Rule.withoutNulls, algorithm?, CheckDigit.verifyAll_eq,
    CheckDigit.verify_unlessNull]

theorem judge_withoutNulls (maxSteps : Nat) (rule : Rule) (code : String) :
    judge maxSteps rule.withoutNulls code = judge maxSteps rule code := by
  simp only [judge, checkDigitFault?_withoutNulls]
  rfl

theorem takes_withoutNulls (maxSteps : Nat) (code : String) :
    takes maxSteps code ∘ Rule.withoutNulls = takes maxSteps code := by
  funext rule
  simp only [Function.comp_apply, takes, judge_withoutNulls]

end Match

namespace Validation

open Service

variable {policy : Policy} {request : Request} {mode : Mode} {project : Project} {rule : Rule}
  {rules : List Rule} {book : RuleBook} {normalized : String}

/-- An outcome that is told as it is with a book that has been read back. -/
def readBack (m : Action (Result Outcome)) : Action (Result Outcome) := do
  let result ← m
  pure (result.map Outcome.withoutNulls)

theorem use_withoutNulls (policy : Policy) (request : Request) (mode : Mode) (project : Project)
    (rule : Rule) (normalized : String) :
    use policy request mode project.withoutNulls rule.withoutNulls normalized =
      readBack (use policy request mode project rule normalized) := by
  cases mode with
  | sandbox => rfl
  | dryRun => rfl
  | live =>
      unfold readBack use Action.andThen
      rw [Script.bind_assoc]
      refine congrArg (Script.bind _) (funext fun redemption => ?_)
      obtain e | redeemed | since | _ := redemption <;> rfl

theorem useIfAdmitted_withoutNulls (policy : Policy) (request : Request) (mode : Mode)
    (project : Project) (rule : Rule) (normalized : String) :
    useIfAdmitted policy request mode project.withoutNulls rule.withoutNulls normalized =
      readBack (useIfAdmitted policy request mode project rule normalized) := by
  refine congrArg (Script.ask Call.now) (funext fun now => ?_)
  have admitted : admission request project.withoutNulls rule.withoutNulls now =
    admission request project rule now := rfl
  simp only [Script.bind, admitted]
  cases admission request project rule now with
  | error r => rfl
  | ok _ => exact use_withoutNulls policy request mode project rule normalized

theorem decide_withoutNulls (policy : Policy) (request : Request) (mode : Mode) (book : RuleBook) :
    decide policy request mode book.withoutNulls = readBack (decide policy request mode book) := by
  have first : book.withoutNulls.rules.find? (Match.takes policy.maxSteps request.code) =
      (book.rules.find? (Match.takes policy.maxSteps request.code)).map Rule.withoutNulls := by
    rw [RuleBook.withoutNulls, List.find?_map, Match.takes_withoutNulls]
  cases found : book.rules.find? (Match.takes policy.maxSteps request.code) with
  | none =>
      rw [found] at first
      rw [decide_none found, decide_none first, RuleBook.withoutNulls, List.length_map]
      rfl
  | some rule =>
      rw [found] at first
      have same := Match.judge_withoutNulls policy.maxSteps rule request.code
      cases judged : Match.judge policy.maxSteps rule request.code with
      | mismatch =>
          have takes := List.find?_some found
          simp [Match.takes, judged] at takes
      | refused r =>
          rw [decide_refused found judged, decide_refused first (same.trans judged)]
          rfl
      | matched normalized =>
          rw [decide_matched found judged, decide_matched first (same.trans judged)]
          exact useIfAdmitted_withoutNulls policy request mode book.project rule normalized

theorem event_withoutNulls (mode : Mode) (result : Result Outcome) :
    event mode (result.map Outcome.withoutNulls) = event mode result := by
  obtain e | a | r := result <;> rfl

/-- Whether its book has been read back is not seen of a validation, but in its outcome. -/
theorem conclude_withoutNulls (policy : Policy) (request : Request) (book : RuleBook) :
    conclude policy request (.ok (some book.withoutNulls)) =
      readBack (conclude policy request (.ok (some book))) := by
  have decided : outcomeOf policy request (.ok (some book.withoutNulls)) =
      readBack (outcomeOf policy request (.ok (some book))) :=
        decide_withoutNulls policy request request.mode book
  rw [conclude, conclude, decided, readBack, readBack, Script.bind_assoc, Script.bind_assoc]
  congr
  funext result
  rw [Script.bind_assoc]
  simp only [pure, Script.done_bind, event_withoutNulls]

end Validation

end Voucher
