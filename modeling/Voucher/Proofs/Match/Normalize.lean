import Voucher.Match.Payload
import Voucher.Proofs.Text.Search
import Voucher.Proofs.Text.Upper

/-! Normalizing in two halves: blanks and separators go, and what is left is put into the rule's
case. A rule finds its payload in a normalized code exactly where the code is its prefix, in that
case, and then the payload. -/
namespace Voucher

namespace Text

variable {p xs : List Char}

theorem trimLeft_sublist (cs : List Char) : (trimLeft cs).Sublist cs := List.dropWhile_sublist _

theorem trimLeft_eq_self_iff {cs : List Char} :
    trimLeft cs = cs ↔ ∀ c ∈ cs.head?, isBlank c = false := by
  cases cs with
  | nil => simp [trimLeft]
  | cons c rest =>
      cases blank : isBlank c with
      | false => simp [trimLeft, blank]
      | true =>
          have shorter : (trimLeft (c :: rest)).length ≤ rest.length := by
            rw [trimLeft, List.dropWhile_cons_of_pos blank]
            exact (List.dropWhile_sublist _).length_le
          constructor
          · intro same
            rw [same, List.length_cons] at shorter
            omega
          · intro unblanked
            simp [blank] at unblanked

/-- Blanks are trimmed only in front of a text that has none. -/
theorem trimChars_append (some : p ≠ []) (unblanked : ∀ c ∈ p, isBlank c = false) :
    trimChars (xs ++ p) = trimLeft xs ++ p := by
  have front : trimLeft (xs ++ p) = trimLeft xs ++ p := by
    have own : trimLeft p = p :=
      trimLeft_eq_self_iff.mpr fun c first => unblanked c (List.mem_of_mem_head? first)
    simp only [trimLeft] at own ⊢
    rw [List.dropWhile_append]
    split
    · rename_i blank
      rw [List.isEmpty_iff.mp blank, own, List.nil_append]
    · rfl
  have back : ∀ ys : List Char, trimRight (ys ++ p) = ys ++ p := by
    intro ys
    obtain ⟨last, rest, reversed⟩ := List.exists_cons_of_ne_nil (mt List.reverse_eq_nil_iff.mp some)
    have plain : isBlank last = false :=
      unblanked last (by rw [← List.mem_reverse, reversed]; exact List.mem_cons_self)
    have kept : p = (last :: rest).reverse := by rw [← reversed, List.reverse_reverse]
    rw [trimRight, List.reverse_append, reversed, List.cons_append,
      List.dropWhile_cons_of_neg (by simp [plain]), ← List.cons_append, List.reverse_append,
      List.reverse_reverse, kept]
  rw [trimChars, front, back]

theorem trimChars_map {f : Char → Char} (keeps : ∀ c, isBlank (f c) = isBlank c) (cs : List Char) :
    trimChars (cs.map f) = (trimChars cs).map f := by
  have same : isBlank ∘ f = isBlank := funext keeps
  simp only [trimChars, trimRight, trimLeft, List.dropWhile_map, same, ← List.map_reverse]

end Text

namespace Rule

variable {r : Rule} {code p xs ys : List Char}

/-- A text in the case in which the rule reads codes. -/
def inCase (r : Rule) (cs : List Char) : List Char :=
  if r.caseSensitive then cs else Text.upperChars cs

/-- The prefix as it is printed; empty if the rule has none. -/
def prefixChars (r : Rule) : List Char :=
  match r.codePrefix with
  | some p => p.toList
  | none => []

theorem normalize_eq (r : Rule) (code : List Char) :
    r.normalize code = r.inCase (Text.remove r.separatorChars (Text.trimChars code)) := rfl

@[simp] theorem inCase_nil (r : Rule) : r.inCase [] = [] := by
  unfold inCase
  split <;> rfl

theorem inCase_append (r : Rule) (xs ys : List Char) :
    r.inCase (xs ++ ys) = r.inCase xs ++ r.inCase ys := by
  unfold inCase
  split
  · rfl
  · exact Text.upperChars_append xs ys

theorem inCase_sensitive (sensitive : r.caseSensitive = true) (cs : List Char) : r.inCase cs = cs :=
  if_pos sensitive

theorem inCase_insensitive (insensitive : r.caseSensitive = false) (cs : List Char) :
    r.inCase cs = Text.upperChars cs := by
  rw [inCase, insensitive]
  rfl

/-- What has lost characters does not look the same in the rule's case. -/
theorem eq_of_inCase_eq (sublist : xs.Sublist ys) (same : r.inCase xs = r.inCase ys) : xs = ys := by
  refine sublist.eq_of_length_le (Nat.le_of_not_lt fun fewer => ?_)
  cases sensitive : r.caseSensitive with
  | true =>
      rw [inCase_sensitive sensitive, inCase_sensitive sensitive] at same
      exact absurd fewer (by rw [same]; exact Nat.lt_irrefl _)
  | false =>
      rw [inCase_insensitive sensitive, inCase_insensitive sensitive] at same
      exact absurd (Text.length_upperChars_lt sublist fewer) (by rw [same]; exact Nat.lt_irrefl _)

/-- A payload of the rule's length and charset. -/
structure Suits (r : Rule) (payload : List Char) : Prop where
  length : payload.length = r.totalLength.toNat
  some : payload ≠ []
  admitted : ∀ c ∈ payload, r.charset.admits r.customCharset c = true

theorem suits_iff {payload : List Char} : r.Suits payload ↔
    payload.length = r.totalLength.toNat ∧ r.charset.accepts r.customCharset payload = true := by
  have accepted : r.charset.accepts r.customCharset payload = true ↔
      payload ≠ [] ∧ ∀ c ∈ payload, r.charset.admits r.customCharset c = true := by
    simp [Charset.accepts]
  rw [accepted]
  exact ⟨fun suits => ⟨suits.length, suits.some, suits.admitted⟩,
    fun ⟨length, nonempty, admitted⟩ => ⟨length, nonempty, admitted⟩⟩

instance (r : Rule) (payload : List Char) : Decidable (r.Suits payload) :=
  decidable_of_iff _ suits_iff.symm

theorem checkPayload_eq_ok_iff {found payload : List Char} :
    r.checkPayload found = .ok payload ↔ found = payload ∧ r.Suits payload := by
  rw [suits_iff]
  constructor
  · intro taken
    unfold checkPayload at taken
    split at taken
    · contradiction
    · rename_i length
      split at taken
      · rename_i accepted
        obtain rfl := Except.ok.inj taken
        exact ⟨rfl, Decidable.of_not_not length, accepted⟩
      · contradiction
  · rintro ⟨rfl, length, accepted⟩
    rw [checkPayload, if_neg (not_not_intro length), if_pos accepted]

theorem effectivePrefix_cases (r : Rule) :
    r.effectivePrefix = none ∧ r.inCase r.prefixChars = [] ∨
      ∃ text, r.effectivePrefix = some text ∧ text.toList = r.inCase r.prefixChars := by
  unfold effectivePrefix prefixChars
  cases r.codePrefix with
  | none => exact .inl ⟨rfl, r.inCase_nil⟩
  | some p =>
      simp only
      split
      · rename_i empty
        rw [String.isEmpty_iff.mp empty]
        exact .inl ⟨rfl, r.inCase_nil⟩
      · refine .inr ⟨_, (apply_ite some _ _ _).symm, ?_⟩
        unfold inCase
        split
        · rfl
        · exact Text.toList_upper p

/-- A normalized code is read as its prefix, in the rule's case, and a suitable payload. -/
theorem payload_eq_ok_iff {normalized payload : List Char} :
    r.payload normalized = .ok payload ↔ normalized = r.inCase r.prefixChars ++ payload ∧
      r.Suits payload := by
  obtain ⟨effective, empty⟩ | ⟨text, effective, written⟩ := r.effectivePrefix_cases
  · rw [Rule.payload, effective, empty, List.nil_append]
    exact checkPayload_eq_ok_iff
  · rw [Rule.payload, effective, ← written]
    simp only
    cases found : Text.dropLiteral? text.toList normalized with
    | none =>
        constructor
        · intro refused
          contradiction
        · rintro ⟨split, -⟩
          rw [Text.dropLiteral?_eq_some_iff.mpr split] at found
          contradiction
    | some rest =>
        rw [Text.dropLiteral?_eq_some_iff.mp found, List.append_cancel_left_eq]
        exact checkPayload_eq_ok_iff

end Rule

end Voucher
