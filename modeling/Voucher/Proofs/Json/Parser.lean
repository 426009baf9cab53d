import Mathlib.Data.Fintype.Basic
import Mathlib.Tactic.FinCases
import Mathlib.Tactic.SplitIfs
import Voucher.Json.Parser
import Voucher.Json.Printer
import Voucher.Json.Document
import Voucher.Proofs.Text.Digit

/-! What was printed is read back. A value without binary64 numbers is its own text's value, however
deeply it nests; only the limit on nesting keeps a text from being read. -/
namespace Voucher.Json

mutual

/-- Every number is an integer of 64 bits. -/
def Plain : Json → Prop
  | .int i => FitsWord i
  | .float _ => False
  | .arr items => PlainItems items
  | .obj members => PlainMembers members
  | .null | .bool _ | .str _ => True

def PlainItems : List Json → Prop
  | [] => True
  | item :: rest => item.Plain ∧ PlainItems rest

def PlainMembers : List (String × Json) → Prop
  | [] => True
  | (_, value) :: rest => value.Plain ∧ PlainMembers rest

end

namespace Parser

variable {rest : List Char}

theorem hexValue?_hexDigit (n : Fin 16) : hexValue? (hexDigit n.val) = some n.val := by
  revert n
  decide

/-- The escape of a control character. -/
theorem hexWord?_control {n : Nat} (control : n < 32) :
    hexWord? '0' '0' (hexDigit (n / 16)) (hexDigit (n % 16)) = some n := by
  have high := hexValue?_hexDigit ⟨n / 16, by omega⟩
  have low := hexValue?_hexDigit ⟨n % 16, by omega⟩
  have zero : hexValue? '0' = some 0 := rfl
  simp only [hexWord?, zero, high, low, Option.bind_eq_bind, Option.bind_some, Option.pure_def]
  congr 1
  omega

/-- An escape of one letter. -/
theorem stringBody_simple {c e : Char} (simple : simpleEscape? c = some e) (rest : List Char) :
    stringBody ('\\' :: c :: rest) = (stringBody rest).map (consTo e) := by
  have letter : c ≠ 'u' := by
    rintro rfl
    have none : simpleEscape? 'u' = none := rfl
    rw [none] at simple
    contradiction
  rw [stringBody.eq_def]
  simp [letter, simple]

/-- An escape by the number of a character that is no surrogate; what follows may be another one. -/
theorem stringBody_word {a b c d : Char} {n : Nat} (word : hexWord? a b c d = some n)
    (low : isLowSurrogate n = false) (high : isHighSurrogate n = false) (rest : List Char) :
    stringBody ('\\' :: 'u' :: a :: b :: c :: d :: rest) =
      (stringBody rest).map (consTo (Char.ofNat n)) := by
  rw [stringBody.eq_def]
  split
  case h_3 read =>
      simp only [List.cons.injEq, true_and] at read
      obtain ⟨rfl, rfl, rfl, rfl, rfl⟩ := read
      simp [word, low, high]
  case h_4 read =>
      simp only [List.cons.injEq, true_and] at read
      obtain ⟨rfl, rfl, rfl, rfl, rfl⟩ := read
      simp [word, low, high]
  case h_5 unread read =>
      simp only [List.cons.injEq, true_and] at read
      obtain ⟨rfl, rfl⟩ := read
      exact absurd rfl (unread _ _ _ _ _ rfl)
  case h_6 unread read =>
      simp only [List.cons.injEq] at read
      exact absurd read.2.symm (unread _ _ read.1.symm)
  all_goals simp at *

/-- A character that stands for itself. -/
theorem stringBody_plain {c : Char} (quote : c ≠ '"') (slash : c ≠ '\\') (visible : 32 ≤ c.toNat)
    (rest : List Char) : stringBody (c :: rest) = (stringBody rest).map (consTo c) := by
  have shown : ¬ (c.toNat < 32 ∨ c = '\\') := not_or.mpr ⟨by omega, slash⟩
  rw [stringBody.eq_def]
  split
  case h_6 read =>
      obtain ⟨rfl, rfl⟩ := List.cons.inj read
      simpa using fun hidden => absurd hidden shown
  all_goals simp_all

theorem stringBody_escape (c : Char) (rest : List Char) :
    stringBody (escape c ++ rest) = (stringBody rest).map (consTo c) := by
  have ofNat {n : Nat} (code : c.toNat = n) : Char.ofNat n = c := code ▸ Char.ofNat_toNat c
  unfold escape
  split_ifs with quote slash newline ret tab backspace feed control
  · exact stringBody_simple (by simp_all [simpleEscape?]) rest
  · exact stringBody_simple (by simp_all [simpleEscape?]) rest
  · exact stringBody_simple (by simp_all [simpleEscape?]) rest
  · exact stringBody_simple (by simp_all [simpleEscape?]) rest
  · exact stringBody_simple (by simp_all [simpleEscape?]) rest
  · exact stringBody_simple (by simpa [simpleEscape?] using ofNat (by simpa using backspace)) rest
  · exact stringBody_simple (by simpa [simpleEscape?] using ofNat (by simpa using feed)) rest
  · have word := stringBody_word (hexWord?_control control)
      (by simp [isLowSurrogate]; omega) (by simp [isHighSurrogate]; omega) rest
    rwa [ofNat rfl] at word
  · exact stringBody_plain (by simpa using quote) (by simpa using slash) (by omega) rest

theorem stringBody_escapes (cs rest : List Char) :
    stringBody (cs.flatMap escape ++ '"' :: rest) = some (cs, rest) := by
  induction cs with
  | nil => rfl
  | cons c cs ih =>
      rw [List.flatMap_cons, List.append_assoc, stringBody_escape, ih]
      rfl

theorem string?_stringChars (s : String) (rest : List Char) :
    string? (stringChars s ++ rest) = some (s, rest) := by
  have body := stringBody_escapes s.toList rest
  simp only [stringChars, List.cons_append, List.append_assoc, List.nil_append, string?, body,
    Option.map_some, String.ofList_toList]

/-- What may follow a value within a text. -/
def Follows (rest : List Char) : Prop := ∀ c ∈ rest.head?, c = ',' ∨ c = ']' ∨ c = '\x7d'

theorem Follows.undigited (follows : Follows rest) : Text.Undigited rest := by
  intro c first
  obtain rfl | rfl | rfl := follows c first <;> rfl

/-- The digits of a number stand for it alone, without fraction and exponent. -/
theorem unsigned?_decimal (negative : Bool) (n : Nat) (follows : Follows rest) :
    unsigned? negative (Text.decimal n ++ rest) =
      (ofNumeral? negative (Text.digits n) none none).map (·, rest) := by
  have whole : whole? (Text.decimal n ++ rest) = some (Text.digits n, rest) := by
    obtain ⟨d, ds, first⟩ := List.exists_cons_of_ne_nil (Text.digits_ne_nil n)
    have alone : ¬ (d = 0 ∧ ds ≠ []) := by
      rintro ⟨rfl, more⟩
      exact more (Text.digits_zero_cons first)
    rw [whole?, Text.decimal_eq, Text.takeDigits_append _ follows.undigited, first]
    exact if_neg alone
  have fraction : fraction? rest = some (none, rest) := by
    cases rest with
    | nil => rfl
    | cons c rest => obtain rfl | rfl | rfl := follows c rfl <;> rfl
  have exponent : exponent? rest = some (none, rest) := by
    cases rest with
    | nil => rfl
    | cons c rest => obtain rfl | rfl | rfl := follows c rfl <;> rfl
  simp only [unsigned?, whole, fraction, exponent, Option.bind_eq_bind, Option.bind_some]
  cases ofNumeral? negative (Text.digits n) none none <;> rfl

theorem ofNumeral?_natural {n : Nat} (fits : n ≤ maxWord) :
    ofNumeral? false (Text.digits n) none none = some (.int n) := by
  simp [ofNumeral?, fits]

theorem ofNumeral?_negative {n : Nat} (positive : 0 < n) (fits : n ≤ 9223372036854775808) :
    ofNumeral? true (Text.digits n) none none = some (.int (-n)) := by
  simp [ofNumeral?, positive, fits]

theorem digitChar_ne_minus : ∀ d, Text.digitChar d ≠ '-' := by
  decide

/-- A digit starts a number without a sign. -/
theorem number?_digit (d : Fin 10) (cs : List Char) :
    number? (Text.digitChar d :: cs) = unsigned? false (Text.digitChar d :: cs) := by
  rw [number?.eq_def]
  split
  · rename_i sign
    exact absurd (List.cons.inj sign).1 (digitChar_ne_minus d)
  · rfl

theorem number?_decimalInt {i : Int} (fits : FitsWord i) (follows : Follows rest) :
    number? (Text.decimalInt i ++ rest) = some (.int i, rest) := by
  obtain ⟨least, greatest⟩ := fits
  unfold Text.decimalInt
  split
  · have value := unsigned?_decimal true i.natAbs follows
    rw [ofNumeral?_negative (by omega) (by omega)] at value
    have back : -(i.natAbs : Int) = i := by omega
    rw [List.cons_append, number?, value, Option.map_some, back]
  · have value := unsigned?_decimal false i.natAbs follows
    rw [ofNumeral?_natural (by unfold maxWord; omega)] at value
    obtain ⟨d, ds, first⟩ := List.exists_cons_of_ne_nil (Text.digits_ne_nil i.natAbs)
    have digit : Text.decimal i.natAbs = Text.digitChar d :: ds.map Text.digitChar := by
      rw [Text.decimal_eq, first, List.map_cons]
    rw [digit, List.cons_append] at value ⊢
    rw [number?_digit, value, Option.map_some, Int.natAbs_of_nonneg (by omega)]

theorem value_digit (fuel : Nat) (d : Fin 10) (cs : List Char) :
    value (fuel + 1) (Text.digitChar d :: cs) = number? (Text.digitChar d :: cs) := by
  fin_cases d <;> rfl

theorem value_int (fuel : Nat) {i : Int} (fits : FitsWord i) (follows : Follows rest) :
    value (fuel + 1) (Text.decimalInt i ++ rest) = some (.int i, rest) := by
  rw [← number?_decimalInt fits follows]
  unfold Text.decimalInt
  split
  · rfl
  · obtain ⟨d, ds, first⟩ := List.exists_cons_of_ne_nil (Text.digits_ne_nil i.natAbs)
    rw [Text.decimal_eq, first]
    exact value_digit fuel d _

/-- A text goes on as one whose first character neither is blank nor closes a list. -/
def Opens (cs : List Char) : Prop := ∃ c more, cs = c :: more ∧ isBlank c = false ∧ c ≠ ']'

theorem Opens.append {cs : List Char} (opens : Opens cs) (rest : List Char) :
    Opens (cs ++ rest) := by
  obtain ⟨c, more, rfl, blank, bracket⟩ := opens
  exact ⟨c, more ++ rest, rfl, blank, bracket⟩

theorem opens_digit : ∀ d, isBlank (Text.digitChar d) = false ∧ Text.digitChar d ≠ ']' := by
  decide

theorem opens_chars {j : Json} (plain : j.Plain) : Opens j.chars := by
  match j, plain with
  | .null, _ => exact ⟨_, _, rfl, rfl, by decide⟩
  | .bool true, _ => exact ⟨_, _, rfl, rfl, by decide⟩
  | .bool false, _ => exact ⟨_, _, rfl, rfl, by decide⟩
  | .int i, _ =>
      unfold chars Text.decimalInt
      split
      · exact ⟨_, _, rfl, rfl, by decide⟩
      · obtain ⟨d, ds, first⟩ := List.exists_cons_of_ne_nil (Text.digits_ne_nil i.natAbs)
        rw [Text.decimal_eq, first]
        exact ⟨_, _, rfl, opens_digit d⟩
  | .str s, _ => exact ⟨_, _, rfl, rfl, by decide⟩
  | .arr [], _ => exact ⟨_, _, rfl, rfl, by decide⟩
  | .arr (_ :: _), _ => exact ⟨_, _, rfl, rfl, by decide⟩
  | .obj [], _ => exact ⟨_, _, rfl, rfl, by decide⟩
  | .obj (_ :: _), _ => exact ⟨_, _, rfl, rfl, by decide⟩

/-- A list that does not close at once has items. -/
theorem value_list (fuel : Nat) {cs : List Char} (opens : Opens cs) :
    value (fuel + 1) ('[' :: cs) = (items fuel cs).map fun p => (.arr p.1, p.2) := by
  obtain ⟨c, more, rfl, blank, bracket⟩ := opens
  have here : skipBlank (c :: more) = c :: more := by simp [skipBlank, blank]
  have front : skipBlank ('[' :: c :: more) = '[' :: c :: more := rfl
  rw [value, front]
  simp only [here]
  split
  · rename_i closes
    exact absurd (List.cons.inj closes).1 bracket
  · rfl

theorem value_object (fuel : Nat) (key : String) (cs : List Char) :
    value (fuel + 1) ('\x7b' :: (stringChars key ++ cs)) =
      (members fuel (stringChars key ++ cs)).map fun p => (.obj p.1, p.2) := rfl

theorem follows_itemChars (more : List Json) (rest : List Char) :
    Follows (itemChars more ++ rest) := by
  cases more <;> simp [itemChars, Follows]

theorem follows_memberChars (more : List (String × Json)) (rest : List Char) :
    Follows (memberChars more ++ rest) := by
  cases more <;> simp [memberChars, Follows]

theorem skipBlank_stringChars (s : String) (cs : List Char) :
    skipBlank (stringChars s ++ cs) = stringChars s ++ cs := rfl

theorem colon?_colon (cs : List Char) : colon? (':' :: cs) = some cs := rfl

theorem skipBlank_comma (cs : List Char) : skipBlank (',' :: cs) = ',' :: cs := rfl

/-- What reading with some steps makes of the texts of values, items and members. -/
structure Reads (fuel : Nat) : Prop where
  value : ∀ (j : Json) (rest : List Char), j.Plain → 2 * j.chars.length ≤ fuel → Follows rest →
    value fuel (j.chars ++ rest) = some (j, rest)
  items : ∀ (item : Json) (more : List Json) (rest : List Char), PlainItems (item :: more) →
    2 * (item.chars ++ itemChars more).length ≤ fuel →
    items fuel (item.chars ++ itemChars more ++ rest) = some (item :: more, rest)
  members : ∀ (key : String) (j : Json) (more : List (String × Json)) (rest : List Char),
    PlainMembers ((key, j) :: more) →
    2 * (stringChars key ++ ':' :: (j.chars ++ memberChars more)).length ≤ fuel →
    members fuel (stringChars key ++ ':' :: (j.chars ++ memberChars more) ++ rest) =
      some ((key, j) :: more, rest)

theorem reads (fuel : Nat) : Reads fuel := by
  -- Two steps a character are enough: a list takes one for itself and one for each item besides the
  -- item's own.
  induction fuel with
  | zero =>
      constructor
      · intro j rest plain enough
        obtain ⟨c, more, opens, -⟩ := opens_chars plain
        simp [opens] at enough
      · intro item more rest plain enough
        obtain ⟨c, more, opens, -⟩ := opens_chars plain.1
        simp [opens] at enough
      · intro key j more rest plain enough
        simp [stringChars] at enough
  | succ fuel ih =>
      constructor
      case value =>
          intro j rest plain enough follows
          match j, plain, enough with
          | .null, _, _ => rfl
          | .bool true, _, _ => rfl
          | .bool false, _, _ => rfl
          | .int i, fits, _ => exact value_int fuel fits follows
          | .str s, _, _ =>
              have read := string?_stringChars s rest
              simp only [chars, stringChars, List.cons_append, List.append_assoc,
                List.nil_append] at read ⊢
              simp [value, skipBlank, isBlank, read]
          | .arr [], _, _ => rfl
          | .arr (item :: more), plain, enough =>
              simp only [chars, List.length_cons] at enough
              have read := ih.items item more rest plain (by omega)
              rw [chars, List.cons_append,
                value_list fuel ((opens_chars plain.1).append _ |>.append rest), read]
              rfl
          | .obj [], _, _ => rfl
          | .obj ((key, j) :: more), plain, enough =>
              simp only [chars, List.length_cons] at enough
              have read := ih.members key j more rest plain (by omega)
              rw [chars, List.cons_append, List.append_assoc] at *
              rw [value_object fuel key, read]
              rfl
      case items =>
          intro item more rest plain enough
          have positive : 0 < (itemChars more).length := by cases more <;> simp [itemChars]
          rw [List.length_append] at enough
          have first := ih.value item (itemChars more ++ rest) plain.1
            (by omega) (follows_itemChars more rest)
          rw [List.append_assoc, items, first]
          cases more with
          | nil => rfl
          | cons next more =>
              have read := ih.items next more rest plain.2 (by simp [itemChars] at enough ⊢; omega)
              simp only [itemChars, List.cons_append]
              rw [skipBlank_comma]
              simp only [read, Option.map_some]
      case members =>
          intro key j more rest plain enough
          have positive : 0 < (memberChars more).length := by cases more <;> simp [memberChars]
          simp only [List.length_append, List.length_cons] at enough
          have first := ih.value j (memberChars more ++ rest) plain.1
            (by omega) (follows_memberChars more rest)
          have named := string?_stringChars key (':' :: (j.chars ++ memberChars more) ++ rest)
          rw [List.append_assoc, members, skipBlank_stringChars, named]
          simp only [List.cons_append, List.append_assoc, colon?_colon, first]
          cases more with
          | nil => rfl
          | cons next more =>
              obtain ⟨nextKey, nextValue⟩ := next
              have read := ih.members nextKey nextValue more rest plain.2 (by
                simp [memberChars] at enough ⊢
                omega)
              simp only [List.cons_append, List.append_assoc] at read
              simp only [memberChars, List.cons_append, List.append_assoc]
              rw [skipBlank_comma]
              simp only [read, Option.map_some]

theorem value_chars {j : Json} (plain : j.Plain) {fuel : Nat} (enough : 2 * j.chars.length ≤ fuel)
    (follows : Follows rest) : value fuel (j.chars ++ rest) = some (j, rest) :=
  (reads fuel).value j rest plain enough follows

end Parser

/-- The text of a value holds that value. -/
theorem parse?_chars {j : Json} (plain : j.Plain) : parse? j.chars = some j := by
  have enough : 2 * j.chars.length ≤ Parser.fuelFor j.chars := Nat.le_add_right _ _
  have ends : Parser.Follows [] := by simp [Parser.Follows]
  have read := Parser.value_chars plain enough ends
  rw [List.append_nil] at read
  rw [parse?, read]
  rfl

/-- Only nesting keeps what was printed from being read. -/
theorem read?_text {j : Json} (plain : j.Plain) :
    read? j.text = if j.depth ≤ maxDepth then some j else none := by
  rw [read?, text, String.toList_ofList, parse?_chars plain]

end Voucher.Json
