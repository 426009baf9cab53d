import Voucher.Match.Verdict
import Voucher.Proofs.CheckDigit.Sum
import Voucher.Proofs.Match.Fields

/-! Which check value a rule asks for, and where it is looked for: under the name of the check
segment, which need not be the check segment's own place. -/
namespace Voucher

namespace CheckDigit

/-- The check value of an input, if there is one. -/
def value? (budget : Nat) (a : Algorithm) (definition : Option Json) (input : List Char) :
    Option (List Char) :=
  match a with
  | .custom => definition.bind fun j => (Definition.run budget j input).toOption
  | builtin => (builtin.calculate input).toOption

theorem verify_iff {definition : Option Json} :
    verify budget a definition input check = true ↔ value? budget a definition input =
      some check := by
  cases a with
  | custom =>
      cases definition with
      | none => simp [verify, value?]
      | some j =>
          simp only [verify, value?, Option.bind_some]
          cases Definition.run budget j input <;> simp [Except.toOption]
  | _ =>
      simp only [verify, value?]
      exact validate_iff _ input check

theorem verifyAll_eq (budget : Nat) (a : Algorithm) (definition : Option Json)
    (values : List (List Char)) (check : List Char) :
    verifyAll budget a definition values check =
      verify budget a definition values.flatten check := by
  cases a with
  | custom => rfl
  | _ => simp only [verifyAll, verify, validateAll_eq]

end CheckDigit

/-- The first check segment of a layout, behind the segments before it. -/
structure Layout.ChecksAt (l : Layout) (before : List Segment) (s : Segment) : Prop where
  isCheck : s.isCheck
  first : ∀ x ∈ before, x.isCheck = false
  placed : ∃ after, l.segments = before ++ s :: after

theorem Layout.checkSegment?_eq_some {l : Layout} :
    l.checkSegment? = some s ↔ ∃ before, l.ChecksAt before s := by
  unfold Layout.checkSegment?
  rw [List.find?_eq_some_iff_append]
  constructor
  · rintro ⟨isCheck, before, after, placed, first⟩
    exact ⟨before, isCheck, fun x member => by simpa using first x member, after, placed⟩
  · rintro ⟨before, isCheck, first, after, placed⟩
    exact ⟨isCheck, before, after, placed, fun x member => by simp [first x member]⟩

theorem Layout.ChecksAt.before_eq {l : Layout} (checks : l.ChecksAt before s) :
    before = l.segments.takeWhile fun x => !x.isCheck := by
  obtain ⟨isCheck, first, after, placed⟩ := checks
  rw [placed, List.takeWhile_append_of_pos
    (by simpa using first), List.takeWhile_cons_of_neg (by simp [isCheck]), List.append_nil]

theorem Layout.ChecksAt.unique {l : Layout} (one : l.ChecksAt before s)
    (other : l.ChecksAt earlier t) :
    before = earlier ∧ s = t := by
  have found := Layout.checkSegment?_eq_some.mpr ⟨before, one⟩
  rw [Layout.checkSegment?_eq_some.mpr ⟨earlier, other⟩] at found
  exact ⟨one.before_eq.trans other.before_eq.symm, (Option.some.inj found).symm⟩

namespace Match

variable {maxSteps : Nat} {rule : Rule} {payload : List Char} {fields : Fields} {s : Segment}
  {before : List Segment}

/-- The check value that a rule asks of a code: the effective algorithm's, of the values that the
check segment names. -/
def checkValue? (maxSteps : Nat) (rule : Rule) (fields : Fields) (s : Segment) :
    Option (List Char) :=
  match s.kind with
  | .check named appliesTo => (algorithm? rule named).bind fun a =>
        CheckDigit.value? maxSteps a (rule.customCheck.map (·.value)) (fields.concat appliesTo)
  | _ => none

/-- The check segment is there and carries the check value at its own place. -/
def Checked (maxSteps : Nat) (rule : Rule) (payload : List Char) (fields : Fields) : Prop :=
  ∃ before s, rule.layout.ChecksAt before s ∧
    checkValue? maxSteps rule fields s = some (s.slice payload before)

theorem checkDigitFault?_code (fault : checkDigitFault? maxSteps rule fields = some r) :
    r.code = .invalidCheckDigit := by
  unfold checkDigitFault? at fault
  split at fault
  · split at fault
    · cases fault
      rfl
    · simp only at fault
      split at fault
      · contradiction
      · cases fault
        rfl
  · contradiction

/-- The code passes if what stands under the check segment's name is the check value. -/
theorem checkDigitFault?_eq_none (checks : rule.layout.checkSegment? = some s) :
    checkDigitFault? maxSteps rule fields = none ↔
      checkValue? maxSteps rule fields s = some ((fields.get? s.name).getD []) := by
  obtain ⟨name, length, description, kind⟩ := s
  obtain ⟨_, ⟨isCheck, -, -⟩⟩ := Layout.checkSegment?_eq_some.mp checks
  cases kind with
  | check named appliesTo =>
      simp only [checkDigitFault?, checks, checkValue?]
      cases algorithm? rule named with
      | none => simp
      | some a =>
          simp only [Option.bind_some]
          rw [← CheckDigit.verify_iff, Fields.concat, ← CheckDigit.verifyAll_eq]
          cases CheckDigit.verifyAll maxSteps a (rule.customCheck.map (·.value))
            (fields.values appliesTo) ((fields.get? name).getD []) <;> simp
  | _ => simp [Segment.isCheck] at isCheck

/-- A code has the shape of a rule. -/
structure Fits (rule : Rule) (code : String) (payload : List Char) (fields : Fields) : Prop where
  read : rule.payload (rule.normalize code.toList) = .ok payload
  split : rule.layout.split payload = .ok fields

theorem Fits.judge (fits : Fits rule code payload fields) (required : rule.hasCheckDigit = true)
    (maxSteps : Nat) :
    judge maxSteps rule code = match checkDigitFault? maxSteps rule fields with
      | some r => .refused r
      | none => .matched (String.ofList (rule.normalize code.toList)) := by
  cases fault : checkDigitFault? maxSteps rule fields <;>
    simp only [Match.judge, fits.read, fits.split, required, if_true, fault]

/-- Without a check segment nothing is checked. -/
theorem checkDigitFault?_unplaced (missing : rule.layout.checkSegment? = none) :
    checkDigitFault? maxSteps rule fields = none := by
  simp only [checkDigitFault?, missing]

/-- What stands under the check segment's name stands at its own place, or
is not the check value. -/
def InPlace (maxSteps : Nat) (rule : Rule) (payload : List Char) (fields : Fields) : Prop :=
  ∃ before s, rule.layout.ChecksAt before s ∧
    (fields.get? s.name = some (s.slice payload before) ∨
      checkValue? maxSteps rule fields s ≠ fields.get? s.name)

/-- A check segment whose name no earlier segment has is read in its place. -/
theorem Fits.inPlace (fits : Fits rule code payload fields) (placed : rule.layout.ChecksAt before s)
    (own : ∀ x ∈ before, x.name ≠ s.name) (maxSteps : Nat) :
    InPlace maxSteps rule payload fields := by
  obtain ⟨after, segments⟩ := placed.placed
  exact ⟨before, s, placed, .inl (Layout.split_get? fits.split segments own)⟩

/-- A code that passes carries its check value exactly if what is read stands in its place. -/
theorem Fits.passes_checked_iff (fits : Fits rule code payload fields) :
    (checkDigitFault? maxSteps rule fields = none → Checked maxSteps rule payload fields) ↔
      InPlace maxSteps rule payload fields := by
  cases checks : rule.layout.checkSegment? with
  | none =>
      have unplaced : ∀ before s, ¬ rule.layout.ChecksAt before s := by
        intro before s placed
        rw [Layout.checkSegment?_eq_some.mpr ⟨before, placed⟩] at checks
        contradiction
      simp [Checked, InPlace, unplaced, checkDigitFault?_unplaced checks]
  | some s =>
      obtain ⟨before, placed⟩ := Layout.checkSegment?_eq_some.mp checks
      obtain ⟨value, read⟩ := Option.isSome_iff_exists.mp
        (Layout.split_isSome fits.split (List.mem_of_find?_eq_some checks))
      rw [checkDigitFault?_eq_none checks, read, Option.getD_some]
      constructor
      · intro sound
        refine ⟨before, s, placed, ?_⟩
        by_cases found : checkValue? maxSteps rule fields s = some value
        · obtain ⟨other, t, there, own⟩ := sound found
          obtain ⟨rfl, rfl⟩ := placed.unique there
          exact .inl (by rw [read, ← found, own])
        · exact .inr (by rw [read]; exact found)
      · rintro ⟨other, t, there, inPlace⟩ passes
        obtain ⟨rfl, rfl⟩ := placed.unique there
        obtain own | differs := inPlace
        · exact ⟨before, s, placed, by rw [passes, ← read, own]⟩
        · exact absurd (passes.trans read.symm) differs

end Match

end Voucher
