import Voucher.CheckDigit.Builtin
import Voucher.Proofs.CheckDigit.Misprint
import Voucher.Proofs.Text.Digit

/-! Check digits of texts that digits write. Where one digit is checked, a misprint is noticed if it
leads out of the codes that carry their check digit. -/
namespace Voucher.CheckDigit

theorem validate_iff (a : Algorithm) (input check : List Char) :
    a.validate input check = true ↔ (a.calculate input).toOption = some check := by
  unfold Algorithm.validate
  cases a.calculate input <;> simp [Except.toOption]

/-- The text that digits write. -/
def text (ds : List Digit) : List Char := ds.map Text.digitChar

theorem text_append (xs ys : List Digit) : text (xs ++ ys) = text xs ++ text ys := List.map_append

theorem text_inj {xs ys : List Digit} (same : text xs = text ys) : xs = ys :=
  (List.map_inj_right Text.digitChar_inj).mp same

theorem text_concat_iff {xs ys : List Digit} {c : Char} :
    text xs ++ [c] = text ys ↔ ∃ d, ys = xs ++ [d] ∧ c = Text.digitChar d := by
  constructor
  · intro written
    obtain ⟨front, back, rfl, fronts, backs⟩ := List.map_eq_append_iff.mp written.symm
    obtain rfl := text_inj fronts
    obtain ⟨d, rfl, last⟩ := List.map_eq_singleton_iff.mp backs
    exact ⟨d, rfl, last.symm⟩
  · rintro ⟨d, rfl, rfl⟩
    exact (text_append xs [d]).symm

theorem readDigits_iff {input : List Char} {ds : List Digit} (position : Nat) :
    readDigits position input = .ok ds ↔ input = text ds := by
  induction input generalizing position ds with
  | nil => cases ds <;> simp [readDigits, text]
  | cons c rest ih =>
      rw [readDigits]
      cases found : Text.digit? c with
      | none =>
          constructor
          · intro read
            contradiction
          · intro written
            obtain ⟨d, more, -, rfl, -⟩ := List.map_eq_cons_iff.mp written.symm
            rw [Text.digit?_digitChar] at found
            contradiction
      | some d =>
          obtain rfl := Text.digit?_eq_some_iff.mp found
          constructor
          · intro read
            cases remaining : readDigits (position + 1) rest with
            | error e => simp [remaining] at read
            | ok more =>
                simp only [remaining, Except.ok.injEq] at read
                rw [← read, (ih (position + 1)).mp remaining]
                rfl
          · intro written
            obtain ⟨d', more, rfl, first, remaining⟩ := List.map_eq_cons_iff.mp written.symm
            obtain rfl := Text.digitChar_inj d' d first
            rw [(ih (position + 1)).mpr remaining.symm]

theorem readDigits_text (ds : List Digit) : readDigits 0 (text ds) = .ok ds :=
  (readDigits_iff 0).mpr rfl

theorem exists_text {x : List Char} (numeric : ∀ c ∈ x, c.isDigit = true) : ∃ ds, x = text ds :=
  Text.exists_digits numeric

theorem decimal_digit (d : Digit) : Text.decimal d.val = [Text.digitChar d] := by
  rw [Text.decimal_eq, Text.digits, dif_pos d.isLt]
  rfl

/-- The check value is one digit, a function of the digits of the input. -/
def Algorithm.Gives (a : Algorithm) (check : List Digit → Digit) : Prop :=
  ∀ input, a.calculate input = (readDigits 0 input).map fun ds => Text.decimal (check ds).val

namespace Algorithm.Gives

variable {a : Algorithm} {check : List Digit → Digit}

theorem calculate_text (gives : a.Gives check) (ds : List Digit) :
    a.calculate (text ds) = .ok [Text.digitChar (check ds)] := by
  rw [gives, readDigits_text, ← decimal_digit]
  rfl

theorem calculate_iff (gives : a.Gives check) {input value : List Char} :
    a.calculate input = .ok value ↔ ∃ ds, input = text ds ∧
      value = [Text.digitChar (check ds)] := by
  constructor
  · intro calculated
    cases read : readDigits 0 input with
    | error e =>
        rw [gives, read] at calculated
        contradiction
    | ok ds =>
        obtain rfl := (readDigits_iff 0).mp read
        rw [gives.calculate_text] at calculated
        exact ⟨ds, rfl, (Except.ok.inj calculated).symm⟩
  · rintro ⟨ds, rfl, rfl⟩
    exact gives.calculate_text ds

/-- A full code is accepted if it carries its own check digit. -/
theorem validate_iff (gives : a.Gives check) {input : List Char} {c : Char} :
    a.validate input [c] = true ↔ ∃ ds, input ++ [c] = text (ds ++ [check ds]) := by
  have calculated : (a.calculate input).toOption = some [c] ↔ a.calculate input = .ok [c] := by
    cases a.calculate input <;> simp [Except.toOption]
  rw [CheckDigit.validate_iff, calculated, gives.calculate_iff]
  simp only [text_append, List.cons.injEq, and_true]
  constructor
  · rintro ⟨ds, rfl, rfl⟩
    exact ⟨ds, rfl⟩
  · rintro ⟨ds, written⟩
    obtain ⟨rfl, last⟩ := List.append_inj' written rfl
    exact ⟨ds, rfl, (List.cons.inj last).1⟩

theorem validate_text_iff (gives : a.Gives check) {input : List Char} {c : Char} {full : List Digit}
    (written : input ++ [c] = text full) :
    a.validate input [c] = true ↔ ∃ ds, full = ds ++ [check ds] := by
  rw [gives.validate_iff, written]
  constructor
  · rintro ⟨ds, same⟩
    exact ⟨ds, text_inj same⟩
  · rintro ⟨ds, rfl⟩
    exact ⟨ds, rfl⟩

/-- If no misprint leads from one code with its check digit to another,
every misprint is noticed. -/
theorem notices (gives : a.Gives check)
    (apart : ∀ xs ys, ¬ Misprinted (xs ++ [check xs]) (ys ++ [check ys])) (ds : List Digit)
    {y : List Char} {d : Char}
    (misprint : Misprinted (text ds ++ [Text.digitChar (check ds)]) (y ++ [d])) :
    a.validate y [d] = false := by
  rw [← Bool.not_eq_true]
  intro accepted
  obtain ⟨ys, written⟩ := gives.validate_iff.mp accepted
  have original : text ds ++ [Text.digitChar (check ds)] = text (ds ++ [check ds]) :=
    (text_append ds [check ds]).symm
  rw [original, written] at misprint
  exact apart ds ys (misprint.of_map Text.digitChar_inj)

end Algorithm.Gives

theorem verhoeff_gives : Algorithm.verhoeff.Gives Verhoeff.check := fun _ => rfl

theorem damm_gives : Algorithm.damm.Gives Damm.check := fun _ => rfl

end Voucher.CheckDigit
