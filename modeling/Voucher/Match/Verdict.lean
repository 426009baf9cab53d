import Voucher.CheckDigit.Custom
import Voucher.Match.Fields
import Voucher.Match.Payload
import Voucher.Validation.Admission

/-!
What the shape of a code says under one rule. A code of another shape leaves the rule aside. A code
of the rule's shape is the rule's, for good: it is refused if the layout does not fit or the check
digit is wrong.
-/
namespace Voucher.Match

inductive Verdict where
  | mismatch
  | refused (r : Rejection)
  | matched (normalized : String)

def misfit (segment : String) (offset length payloadLength : Nat) : Rejection where
  code := .invalidSegment
  message := "Segment exceeds code length"
  details := some (.ofMembers
    [("segment", .str segment), ("offset", .ofNat offset), ("length", .ofNat length),
      ("payload_length", .ofNat payloadLength)])

/-- The refusal of a check digit; details name the algorithm, if there is one. -/
def wrongCheckDigit (algorithm : Option CheckDigit.Algorithm) : Rejection where
  code := .invalidCheckDigit
  message := "Check digit verification failed"
  details := algorithm.map fun a => .ofMembers [("algorithm", .str a.name)]

/-- The algorithm that counts: the rule's, otherwise the one that the check segment names. -/
def algorithm? (rule : Rule) (named : Option String) : Option CheckDigit.Algorithm :=
  rule.checkAlgorithm.orElse fun _ => named.bind CheckDigit.Algorithm.ofText?

/-- The refusal of a code's check digit, if it is wrong. Without a check segment there is none. -/
def checkDigitFault? (maxSteps : Nat) (rule : Rule) (fields : Fields) : Option Rejection :=
  match rule.layout.checkSegment? with
  | some ⟨name, _, _, .check named appliesTo⟩ =>
    match algorithm? rule named with
    | none => some (wrongCheckDigit none)
    | some a =>
      let valid := CheckDigit.verifyAll maxSteps a (rule.customCheck.map (·.value))
        (fields.values appliesTo) ((fields.get? name).getD [])
      if valid then none else some (wrongCheckDigit (some a))
  | _ => none

/-- Judges a code as it was typed. -/
def judge (maxSteps : Nat) (rule : Rule) (code : String) : Verdict :=
  let normalized := rule.normalize code.toList
  match rule.payload normalized with
  | .error _ => .mismatch
  | .ok payload =>
    match rule.layout.split payload with
    | .error (.overflow segment offset length payloadLength) =>
      .refused (misfit segment offset length payloadLength)
    | .error (.invalid ..) => .mismatch
    | .ok fields =>
      if rule.hasCheckDigit then
        match checkDigitFault? maxSteps rule fields with
        | some r => .refused r
        | none => .matched (String.ofList normalized)
      else .matched (String.ofList normalized)

end Voucher.Match
