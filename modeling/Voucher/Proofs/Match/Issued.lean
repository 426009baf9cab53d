import Voucher.Proofs.Match.Normalize
import Voucher.Rule.Sample

/-! Codes as they are printed, a prefix and then a payload. Normalizing leaves such a code its
payload, in the rule's case, so it has the rule's shape if its prefix is left alone too. -/
namespace Voucher

/-- Upper case leads out of no set but that of the small letters and lists of characters. -/
theorem Charset.admits_toUpper {set : Charset} {allowed : Option String} {c : Char}
    (upper : set ≠ .alphaLower)
    (unlisted : set = .custom → allowed = none) (admitted : set.admits allowed c = true) :
    set.admits allowed c.toUpper = true := by
  obtain same | ⟨small, capital⟩ := Text.toUpper_cases c
  · rwa [same]
  · have letter := Text.isLower_iff.mp small
    cases set with
    | numeric =>
        have digit : c.isDigit = true := by rwa [← Text.isAsciiDigit_eq]
        have range := Text.isDigit_iff.mp digit
        omega
    | alphaUpper =>
        have large : c.isUpper = true := by rwa [← Text.isAsciiUpper_eq]
        have range := Text.isUpper_iff.mp large
        omega
    | alphaLower => exact absurd rfl upper
    | alphanumeric =>
        rw [admits, Text.isAsciiLetter_eq, Text.isAlpha_eq, capital]
        rfl
    | custom =>
        rw [unlisted rfl]
        rfl

/-- A character of a set, which the custom set has if it has no list. -/
def Charset.member : Charset → Char
  | numeric => '7'
  | alphaLower => 'a'
  | _ => 'A'

theorem Charset.admits_member {set : Charset} {allowed : Option String}
    (unlisted : set = .custom → allowed = none) :
    set.admits allowed set.member = true := by
  cases set with
  | custom =>
      rw [unlisted rfl]
      rfl
  | _ => rfl

theorem Charset.member_plain (set : Charset) :
    set.member.toNat < 128 ∧ Text.isBlank set.member = false ∧ set.member.isAlphanum = true := by
  cases set <;> decide

namespace Rule

variable {r : Rule} {p payload : List Char}

/-- The code that is printed for a payload. -/
def issued (r : Rule) (p : List Char) : List Char := r.prefixChars ++ p

/-- A payload of the rule's length, which is at least one, and charset, that has no blank and no
character of the separator. -/
structure Printable (r : Rule) (p : List Char) : Prop extends r.Suits p where
  unblanked : ∀ c ∈ p, Text.isBlank c = false
  unseparated : ∀ c ∈ p, c ∉ r.separatorChars

instance (r : Rule) (p : List Char) : Decidable (r.Printable p) :=
  decidable_of_iff (r.Suits p ∧ p.all (fun c => !Text.isBlank c) = true ∧
    p.all (· ∉ r.separatorChars) = true) <| by
    simp only [List.all_eq_true, Bool.not_eq_true', decide_eq_true_eq]
    exact ⟨fun ⟨suits, unblanked, unseparated⟩ => ⟨suits, unblanked, unseparated⟩,
      fun ⟨suits, unblanked, unseparated⟩ => ⟨suits, unblanked, unseparated⟩⟩

/-- A prefix, if there is one, that does not begin with a blank and in which the
separator does not occur. -/
structure PlainPrefix (r : Rule) : Prop where
  unblanked : ∀ c ∈ r.prefixChars.head?, Text.isBlank c = false
  unseparated : r.separatorChars ≠ [] → ¬ r.separatorChars <:+: r.prefixChars

/-- Upper case, where the rule reads codes in it, leads no ASCII text out of the charset. -/
def KeepsCase (r : Rule) : Prop :=
  r.caseSensitive = true ∨ r.charset ≠ .alphaLower ∧ (r.charset = .custom → r.customCharset = none)

/-- What is left of the prefix when a printed code is normalized, before its case is changed. -/
def keptPrefix (r : Rule) : List Char := Text.remove r.separatorChars (Text.trimLeft r.prefixChars)

theorem keptPrefix_sublist (r : Rule) : r.keptPrefix.Sublist r.prefixChars :=
  (Text.remove_sublist _ _).trans (Text.trimLeft_sublist _)

theorem keptPrefix_eq_iff : r.keptPrefix = r.prefixChars ↔ r.PlainPrefix := by
  constructor
  · intro kept
    have trimmed : Text.trimLeft r.prefixChars = r.prefixChars := by
      have shorter := (Text.remove_sublist r.separatorChars (Text.trimLeft r.prefixChars)).length_le
      rw [← keptPrefix, kept] at shorter
      exact (Text.trimLeft_sublist _).eq_of_length_le shorter
    refine ⟨Text.trimLeft_eq_self_iff.mp trimmed, Text.remove_eq_self_iff.mp ?_⟩
    rwa [keptPrefix, trimmed] at kept
  · rintro ⟨unblanked, unseparated⟩
    rw [keptPrefix, Text.trimLeft_eq_self_iff.mpr unblanked,
      Text.remove_eq_self_iff.mpr unseparated]

theorem normalize_issued (printable : r.Printable p) :
    r.normalize (r.issued p) = r.inCase r.keptPrefix ++ r.inCase p := by
  rw [normalize_eq, issued, Text.trimChars_append printable.some printable.unblanked,
    Text.remove_append printable.unseparated, inCase_append]
  rfl

/-- A printed code is taken exactly if its prefix is left alone, and its payload is then the one
printed, in the rule's case. -/
theorem payload_issued_iff (printable : r.Printable p) (suits : r.Suits (r.inCase p)) :
    r.payload (r.normalize (r.issued p)) = .ok payload ↔ payload = r.inCase p ∧ r.PlainPrefix := by
  rw [payload_eq_ok_iff, normalize_issued printable, ← keptPrefix_eq_iff]
  constructor
  · rintro ⟨split, found⟩
    -- Both payloads have the rule's length, so the prefixes end at the same place.
    obtain ⟨prefixes, payloads⟩ := List.append_inj' split (suits.length.trans found.length.symm)
    exact ⟨payloads.symm, eq_of_inCase_eq r.keptPrefix_sublist prefixes⟩
  · rintro ⟨rfl, kept⟩
    exact ⟨by rw [kept], suits⟩

theorem inCase_ascii (ascii : ∀ c ∈ p, c.toNat < 128) :
    r.inCase p = if r.caseSensitive then p else p.map Char.toUpper := by
  rw [inCase, Text.upperChars_ascii ascii]

theorem Suits.inCase (suits : r.Suits p) (keeps : r.KeepsCase) (ascii : ∀ c ∈ p, c.toNat < 128) :
    r.Suits (r.inCase p) := by
  rw [inCase_ascii ascii]
  cases sensitive : r.caseSensitive with
  | true => exact suits
  | false =>
      obtain insensitive | ⟨upper, unlisted⟩ := keeps
      · rw [sensitive] at insensitive
        contradiction
      refine ⟨by simpa using suits.length, by simpa using suits.some, ?_⟩
      intro d member
      obtain ⟨c, inside, rfl⟩ := List.mem_map.mp member
      exact Charset.admits_toUpper upper unlisted (suits.admitted c inside)

/-- A character of ASCII that may stand in a printed payload. -/
structure PrintableChar (r : Rule) (c : Char) : Prop where
  ascii : c.toNat < 128
  admitted : r.charset.admits r.customCharset c = true
  unblanked : Text.isBlank c = false
  unseparated : c ∉ r.separatorChars

theorem PrintableChar.replicate {c : Char} (printable : r.PrintableChar c)
    (positive : 1 ≤ r.totalLength) :
    r.Printable (List.replicate r.totalLength.toNat c) := by
  have some : r.totalLength.toNat ≠ 0 := Nat.ne_of_gt (UInt64.le_iff_toNat_le.mp positive)
  refine ⟨⟨List.length_replicate, by simpa using some, ?_⟩, ?_, ?_⟩
  · intro d member
    rw [List.eq_of_mem_replicate member]
    exact printable.admitted
  · intro d member
    rw [List.eq_of_mem_replicate member]
    exact printable.unblanked
  · intro d member
    rw [List.eq_of_mem_replicate member]
    exact printable.unseparated

/-- A separator without letters and digits leaves every set a character. -/
theorem exists_printableChar (unlisted : r.charset = .custom → r.customCharset = none)
    (unseparated : ∀ c ∈ r.separatorChars, c.isAlphanum = false) : ∃ c, r.PrintableChar c := by
  obtain ⟨ascii, unblanked, alphanumeric⟩ := r.charset.member_plain
  refine ⟨r.charset.member, ascii, Charset.admits_member unlisted, unblanked, fun separates => ?_⟩
  have other := unseparated _ separates
  rw [alphanumeric] at other
  contradiction

/-- A printed code is taken with the payload that was printed, in the rule's case, if that
suits the rule and the prefix is plain. Payloads of ASCII keep to the charset in the rule's
case, but for small letters and listed characters in upper case, so of all charsets there are
codes that are taken. -/
theorem issued_codes_match (r : Rule) :
    (∀ p, r.Printable p → r.Suits (r.inCase p) → ∀ payload,
      r.payload (r.normalize (r.issued p)) = .ok payload ↔ payload = r.inCase p ∧ r.PlainPrefix) ∧
    (∀ p, r.Printable p → (∀ c ∈ p, c.toNat < 128) →
      r.inCase p = (if r.caseSensitive then p else p.map Char.toUpper) ∧
      (r.KeepsCase → r.Suits (r.inCase p))) ∧
    (r.KeepsCase → r.PlainPrefix → 1 ≤ r.totalLength → (∃ c, r.PrintableChar c) →
      ∃ p, r.Printable p ∧ r.payload (r.normalize (r.issued p)) = .ok (r.inCase p)) ∧
    ((r.charset = .custom → r.customCharset = none) →
      (∀ c ∈ r.separatorChars, c.isAlphanum = false) →
      ∃ c, r.PrintableChar c) := by
  refine ⟨fun p printable suits payload => payload_issued_iff printable suits, ?_, ?_,
    exists_printableChar⟩
  · intro p printable ascii
    exact ⟨inCase_ascii ascii, fun keeps => printable.toSuits.inCase keeps ascii⟩
  · rintro keeps plain positive ⟨c, char⟩
    have printable := char.replicate positive
    have ascii : ∀ d ∈ List.replicate r.totalLength.toNat c, d.toNat < 128 := by
      intro d member
      rw [List.eq_of_mem_replicate member]
      exact char.ascii
    have suits := printable.toSuits.inCase keeps ascii
    exact ⟨_, printable, (payload_issued_iff printable suits).mpr ⟨rfl, plain⟩⟩

theorem issued_codes_match_dashed :
    prefixedSample.payload (prefixedSample.normalize "DN2026abcd12347".toList) =
      .ok "2026ABCD12347".toList := by
  have printable : prefixedSample.Printable "2026abcd12347".toList := by decide
  have keeps : prefixedSample.KeepsCase := .inr ⟨by decide, by decide⟩
  have plain : prefixedSample.PlainPrefix :=
    ⟨by simp [prefixedSample, prefixChars, Text.isBlank], by decide⟩
  obtain ⟨taken, ascii, -⟩ := issued_codes_match prefixedSample
  have suits := (ascii _ printable (by simp)).2 keeps
  exact (taken _ printable suits _).mpr ⟨by decide, plain⟩

/-- Upper case has no small letters, so no code has a payload of theirs. -/
theorem payload_alphaLower (insensitive : r.caseSensitive = false) (small : r.charset = .alphaLower)
    (code payload : List Char) : r.payload (r.normalize code) ≠ .ok payload := by
  intro taken
  obtain ⟨split, suits⟩ := payload_eq_ok_iff.mp taken
  obtain ⟨c, rest, rfl⟩ := List.exists_cons_of_ne_nil suits.some
  have lower := suits.admitted c List.mem_cons_self
  rw [small] at lower
  have upper : c ∈ Text.upperChars (Text.remove r.separatorChars (Text.trimChars code)) := by
    rw [← inCase_insensitive insensitive, ← normalize_eq, split]
    simp
  have never := Text.isLower_upperChars upper
  rw [← Text.isAsciiLower_eq] at never
  exact Bool.noConfusion (never.symm.trans lower)

/-- A rule whose prefix ends in its separator. -/
def dashedRule : Rule :=
  { sample with totalLength := 4, codePrefix := some "DN-", separator := some "-" }

/-- A rule that takes any character, in upper case. -/
def openRule : Rule := { sample with totalLength := 1, charset := .custom }

/-- A rule for small letters that reads codes in upper case. -/
def smallRule : Rule := { sample with totalLength := 4, charset := .alphaLower }

/-- Printed codes are refused where a prefix loses its separator or a letter becomes two in upper
case, and small letters are all lost to a rule that reads codes in upper case. -/
theorem issued_codes_refused :
    (dashedRule.Printable "1234".toList ∧
      ∀ payload, dashedRule.payload (dashedRule.normalize (dashedRule.issued "1234".toList)) ≠
        .ok payload) ∧
    (openRule.Printable ['ß'] ∧
      ∀ payload, openRule.payload (openRule.normalize (openRule.issued ['ß'])) ≠ .ok payload) ∧
    (smallRule.Printable "abcd".toList ∧
      ∀ code payload, smallRule.payload (smallRule.normalize code) ≠ .ok payload) := by
  refine ⟨?dashed, ?twofold, ?small⟩
  case dashed =>
    have printable : dashedRule.Printable "1234".toList := by decide
    refine ⟨printable, fun payload taken => ?_⟩
    have plain := ((payload_issued_iff printable (by decide)).mp taken).2
    exact plain.unseparated (by decide) (by decide)
  case twofold =>
    have printable : openRule.Printable ['ß'] := by decide
    refine ⟨printable, fun payload taken => ?_⟩
    obtain ⟨split, suits⟩ := payload_eq_ok_iff.mp taken
    rw [normalize_issued printable, show openRule.keptPrefix = [] from rfl, inCase_nil] at split
    have length := suits.length
    rw [← List.nil_append payload, ← show openRule.inCase openRule.prefixChars = [] from rfl,
      ← split] at length
    exact absurd length (by decide)
  case small =>
    exact ⟨by decide, payload_alphaLower rfl rfl⟩

end Rule

end Voucher
