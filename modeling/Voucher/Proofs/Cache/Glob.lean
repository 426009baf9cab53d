import Voucher.Proofs.Cache.Memory
import Voucher.Proofs.Text.Search

/-! A key has the form of a pattern exactly if it is the pattern with a text in the place of each
star. It is enough to look for each piece where it occurs first, and doing so by bytes never cuts a
character in two. -/
namespace Voucher

namespace Text

def byteLength : List Char → Nat
  | [] => 0
  | c :: rest => c.utf8Size + byteLength rest

/-- What stands before a byte and what stands from it on; none if the byte is within a character or
past the end. -/
def cutAtByte? : Nat → List Char → Option (List Char × List Char)
  | 0, cs => some ([], cs)
  | _ + 1, [] => none
  | n + 1, c :: cs =>
    if c.utf8Size ≤ n + 1 then (cutAtByte? (n + 1 - c.utf8Size) cs).map fun p => (c :: p.1, p.2)
    else none

/-- The text from one byte to another; none unless both are between characters and in this order. -/
def slice? (start stop : Nat) (cs : List Char) : Option (List Char) :=
  if start ≤ stop then
    (cutAtByte? stop cs).bind fun front => (cutAtByte? start front.1).map Prod.snd
  else none

/-- The byte at which a text occurs first. -/
def firstByte? (literal : List Char) : List Char → Option Nat
  | [] => if literal.isEmpty then some 0 else none
  | c :: cs =>
    if literal.isPrefixOf (c :: cs) then some 0 else (firstByte? literal cs).map (c.utf8Size + ·)

variable {cs front rest literal : List Char} {n start : Nat}

@[simp] theorem byteLength_nil : byteLength [] = 0 := rfl

@[simp] theorem byteLength_cons (c : Char) (cs : List Char) :
    byteLength (c :: cs) = c.utf8Size + byteLength cs := rfl

@[simp] theorem byteLength_append (xs ys : List Char) :
    byteLength (xs ++ ys) = byteLength xs + byteLength ys := by
  induction xs with
  | nil => rw [List.nil_append, byteLength_nil, Nat.zero_add]
  | cons c rest ih => rw [List.cons_append, byteLength_cons, ih, byteLength_cons, Nat.add_assoc]

theorem byteLength_eq_zero (none : byteLength cs = 0) : cs = [] := by
  cases cs with
  | nil => rfl
  | cons c cs =>
      have size := c.utf8Size_pos
      rw [byteLength_cons] at none
      omega

/-- Two texts at the ends of a text that has room for both do not overlap. -/
theorem exists_between {first last : List Char} (opens : first <+: cs) (closes : last <:+ cs)
    (room : byteLength first + byteLength last ≤ byteLength cs) :
    ∃ middle, cs = first ++ (middle ++ last) := by
  obtain ⟨rest, rfl⟩ := opens
  rw [byteLength_append] at room
  obtain ⟨middle, whole⟩ | ⟨more, whole⟩ :=
    List.suffix_or_suffix_of_suffix closes (List.suffix_append first rest)
  · exact ⟨middle, by rw [whole]⟩
  · have bytes := congrArg byteLength whole
    rw [byteLength_append] at bytes
    obtain rfl := byteLength_eq_zero (show byteLength more = 0 by omega)
    exact ⟨[], by rw [← whole, List.nil_append, List.nil_append]⟩

/-- A text is cut behind any of its characters. -/
theorem cutAtByte?_append (front rest : List Char) :
    cutAtByte? (byteLength front) (front ++ rest) = some (front, rest) := by
  induction front with
  | nil => cases rest <;> rfl
  | cons c front ih =>
      have size := c.utf8Size_pos
      obtain ⟨n, bytes⟩ : ∃ n, byteLength (c :: front) = n + 1 :=
        ⟨c.utf8Size + byteLength front - 1, by simp; omega⟩
      have left : n + 1 - c.utf8Size = byteLength front := by
        rw [← bytes, byteLength_cons, Nat.add_sub_cancel_left]
      have inside : c.utf8Size ≤ n + 1 := by
        rw [← bytes, byteLength_cons]
        omega
      rw [bytes, List.cons_append, cutAtByte?, if_pos inside, left, ih]
      rfl

theorem slice?_append (before middle behind : List Char) :
    slice? (byteLength before) (byteLength before + byteLength middle)
      (before ++ (middle ++ behind)) = some middle := by
  have whole := cutAtByte?_append (before ++ middle) behind
  rw [byteLength_append, List.append_assoc] at whole
  rw [slice?, if_pos (Nat.le_add_right _ _), whole, Option.bind_some, cutAtByte?_append]
  rfl

end Text

namespace Cache.Glob

open Text (byteLength byteLength_append cutAtByte? cutAtByte?_append dropLiteral?
    dropLiteral?_eq_some_iff firstByte?
  slice?)

/-- A key is a pattern with a text of its own in the place of each star. -/
inductive Fits : (pattern key : List Char) → Prop where
  | nil : Fits [] []
  | star (text : List Char) : Fits pattern key → Fits ('*' :: pattern) (text ++ key)
  | literal : c ≠ '*' → Fits pattern key → Fits (c :: pattern) (c :: key)

/-- The pieces stand one behind the other, each after any text, and nothing behind the last. -/
def Fill : List (List Char) → List Char → Prop
  | [], cs => cs = []
  | piece :: pieces, cs => ∃ gap rest, cs = gap ++ (piece ++ rest) ∧ Fill pieces rest

/-- The pieces stand one behind the other, and anything behind the last. -/
def Occur : List (List Char) → List Char → Prop
  | [], _ => True
  | piece :: pieces, cs => ∃ gap rest, cs = gap ++ (piece ++ rest) ∧ Occur pieces rest

variable {pattern key literal piece first last cs rest shorter longer : List Char}
  {pieces : List (List Char)}

theorem Fill.of_suffix (fill : Fill (piece :: pieces) shorter) (suffix : shorter <:+ longer) :
    Fill (piece :: pieces) longer := by
  obtain ⟨more, rfl⟩ := suffix
  obtain ⟨gap, rest, rfl, behind⟩ := fill
  exact ⟨more ++ gap, rest, by rw [List.append_assoc], behind⟩

theorem Occur.of_suffix (occur : Occur pieces shorter) (suffix : shorter <:+ longer) :
    Occur pieces longer := by
  cases pieces with
  | nil => trivial
  | cons piece pieces =>
      obtain ⟨more, rfl⟩ := suffix
      obtain ⟨gap, rest, rfl, behind⟩ := occur
      exact ⟨more ++ gap, rest, by rw [List.append_assoc], behind⟩

theorem fill_concat :
    Fill (pieces ++ [last]) cs ↔ ∃ front, cs = front ++ last ∧ Occur pieces front := by
  induction pieces generalizing cs with
  | nil => simp [Fill, Occur]
  | cons piece pieces ih =>
      constructor
      · rintro ⟨gap, rest, rfl, fill⟩
        obtain ⟨front, rfl, occur⟩ := ih.mp fill
        exact ⟨gap ++ (piece ++ front), by simp only [List.append_assoc], gap, front, rfl, occur⟩
      · rintro ⟨_, rfl, gap, front, rfl, occur⟩
        exact ⟨gap, front ++ last, by simp only [List.append_assoc], ih.mpr ⟨front, rfl, occur⟩⟩

/-- The pieces between the stars are what a key has to hold. -/
theorem fits_iff (pieces : Text.splitAt '*' pattern = first :: rest') :
    Fits pattern key ↔ ∃ rest, key = first ++ rest ∧ Fill rest' rest := by
  induction pattern generalizing first rest' key with
  | nil =>
      cases pieces
      constructor
      · rintro ⟨⟩
        exact ⟨[], rfl, rfl⟩
      · rintro ⟨_, rfl, rfl⟩
        exact .nil
  | cons c pattern ih =>
      obtain ⟨piece, more, split⟩ := List.exists_cons_of_ne_nil (Text.splitAt_ne_nil '*' pattern)
      rw [Text.splitAt, split] at pieces
      by_cases star : c = '*'
      · subst star
        cases pieces
        constructor
        · rintro (_ | ⟨text, fits⟩ | ⟨other, fits⟩)
          · obtain ⟨rest, rfl, fill⟩ := (ih split).mp fits
            exact ⟨_, rfl, text, rest, rfl, fill⟩
          · exact absurd rfl other
        · rintro ⟨_, rfl, gap, rest, rfl, fill⟩
          exact .star gap ((ih split).mpr ⟨rest, rfl, fill⟩)
      · simp only [if_neg star] at pieces
        cases pieces
        constructor
        · rintro (_ | ⟨text, fits⟩ | ⟨other, fits⟩)
          · exact absurd rfl star
          · obtain ⟨rest, rfl, fill⟩ := (ih split).mp fits
            exact ⟨rest, rfl, fill⟩
        · rintro ⟨rest, rfl, fill⟩
          exact .literal star ((ih split).mpr ⟨rest, rfl, fill⟩)

theorem exists_gap_of_after? (found : after? literal cs = some rest) :
    ∃ gap, cs = gap ++ (literal ++ rest) := by
  induction cs with
  | nil =>
      have split : [] = literal ++ rest := dropLiteral?_eq_some_iff.mp found
      exact ⟨[], split⟩
  | cons c cs ih =>
      rw [after?] at found
      split at found
      · rename_i here
        cases found
        have split : c :: cs = literal ++ rest := dropLiteral?_eq_some_iff.mp here
        exact ⟨[], split⟩
      · obtain ⟨gap, split⟩ := ih found
        exact ⟨c :: gap, by rw [split, List.cons_append]⟩

theorem after?_of_drop (here : dropLiteral? literal cs = some rest) :
    after? literal cs = some rest := by
  cases cs with
  | nil => exact here
  | cons c cs => rw [after?, here]

/-- Behind the first occurrence there is no less than behind any other. -/
theorem after?_occurs (gap literal rest : List Char) :
    ∃ found, after? literal (gap ++ (literal ++ rest)) = some found ∧ rest <:+ found := by
  induction gap with
  | nil => exact ⟨rest, after?_of_drop (dropLiteral?_eq_some_iff.mpr rfl), List.suffix_refl rest⟩
  | cons c gap ih =>
      rw [List.cons_append]
      cases here : dropLiteral? literal (c :: (gap ++ (literal ++ rest))) with
      | none =>
          rw [after?, here]
          exact ih
      | some found =>
          have split := dropLiteral?_eq_some_iff.mp here
          have whole : rest <:+ c :: (gap ++ (literal ++ rest)) := ⟨c :: (gap ++ literal), by simp⟩
          have behind : found <:+ c :: (gap ++ (literal ++ rest)) := ⟨literal, split.symm⟩
          have lengths := congrArg List.length split
          simp only [List.length_cons, List.length_append] at lengths
          exact ⟨found, after?_of_drop here,
            List.suffix_of_suffix_length_le whole behind (by omega)⟩

/-- What holds of a text as soon as it holds of its end may be looked for behind the first
occurrence only. -/
theorem exists_occurrence_iff (literal cs : List Char) {P : List Char → Prop}
    (grows : ∀ {shorter longer}, P shorter → shorter <:+ longer → P longer) :
    (∃ gap rest, cs = gap ++ (literal ++ rest) ∧ P rest) ↔
      ∃ rest, after? literal cs = some rest ∧ P rest := by
  constructor
  · rintro ⟨gap, rest, rfl, holds⟩
    obtain ⟨found, first, suffix⟩ := after?_occurs gap literal rest
    exact ⟨found, first, grows holds suffix⟩
  · rintro ⟨rest, first, holds⟩
    obtain ⟨gap, split⟩ := exists_gap_of_after? first
    exact ⟨gap, rest, split, holds⟩

theorem closes_iff : closes (piece :: pieces) cs = true ↔ Fill (piece :: pieces) cs := by
  induction pieces generalizing piece cs with
  | nil =>
      have last : Fill ([] ++ [piece]) cs ↔ ∃ front, cs = front ++ piece ∧ Occur [] front :=
        fill_concat
      rw [List.nil_append] at last
      rw [closes, List.isSuffixOf_iff_suffix, last]
      constructor
      · rintro ⟨front, whole⟩
        exact ⟨front, whole.symm, trivial⟩
      · rintro ⟨front, whole, -⟩
        exact ⟨front, whole.symm⟩
  | cons next pieces ih =>
      have first := exists_occurrence_iff piece cs (P := Fill (next :: pieces)) Fill.of_suffix
      rw [Fill, first, closes]
      case x_2 => exact List.cons_ne_nil next pieces
      split
      · rename_i rest found
        simp [found, ih]
      · rename_i absent
        simp [absent]

theorem fits_alone (split : Text.splitAt '*' pattern = [first]) :
    Fits pattern key ↔ key = first := by
  rw [fits_iff split]
  constructor
  · rintro ⟨_, rfl, rfl⟩
    exact List.append_nil first
  · rintro rfl
    exact ⟨[], (List.append_nil key).symm, rfl⟩

/-- A key accepted by a pattern with stars has the first piece in front, the last one behind and the
others between. -/
theorem fits_several (split : Text.splitAt '*' pattern = first :: piece :: pieces) :
    Fits pattern key ↔ ∃ middle, key = first ++
      (middle ++ (piece :: pieces).getLast (List.cons_ne_nil piece pieces)) ∧
      Occur (piece :: pieces).dropLast middle := by
  have fill (rest : List Char) : Fill (piece :: pieces) rest ↔
      ∃ middle, rest = middle ++ (piece :: pieces).getLast (List.cons_ne_nil piece pieces) ∧
        Occur (piece :: pieces).dropLast middle := by
    rw [← fill_concat, List.dropLast_append_getLast]
  simp only [fits_iff split, fill]
  constructor
  · rintro ⟨_, rfl, middle, rfl, occur⟩
    exact ⟨middle, rfl, occur⟩
  · rintro ⟨middle, rfl, occur⟩
    exact ⟨_, rfl, middle, rfl, occur⟩

/-- A key is accepted exactly if it fits. -/
theorem accepts_iff : accepts pattern key = true ↔ Fits pattern key := by
  obtain ⟨first, pieces, split⟩ := List.exists_cons_of_ne_nil (Text.splitAt_ne_nil '*' pattern)
  rw [accepts, split]
  cases pieces with
  | nil => rw [fits_alone split, beq_iff_eq, eq_comm]
  | cons next pieces =>
      rw [fits_iff split]
      simp only
      split
      · rename_i rest here
        rw [closes_iff]
        constructor
        · intro fill
          exact ⟨rest, dropLiteral?_eq_some_iff.mp here, fill⟩
        · rintro ⟨rest', rfl, fill⟩
          rwa [← List.append_cancel_left (dropLiteral?_eq_some_iff.mp here)]
      · rename_i absent
        simp only [Bool.false_eq_true, false_iff]
        rintro ⟨rest, rfl, -⟩
        exact Text.dropLiteral?_eq_none_iff.mp absent (List.prefix_append first rest)

instance (pattern key : List Char) : Decidable (Fits pattern key) := decidable_of_iff _ accepts_iff

/-- What opens a key cannot close it as well. -/
example : Fits ['a', 'b', '*', 'b', 'a'] ['a', 'b', 'b', 'a'] ∧
    ¬ Fits ['a', 'b', '*', 'b', 'a'] ['a', 'b', 'a'] := by
  decide

/-- Whether pieces occur one behind the other; none if a character is cut in two on the way. -/
def findAll? : List (List Char) → List Char → Option Bool
  | [], _ => some true
  | piece :: pieces, cs =>
    match firstByte? piece cs with
    | none => some false
    | some start => (cutAtByte? (start + byteLength piece) cs).bind fun cut => findAll? pieces cut.2

/-- Whether a key has the form of a pattern, found out by bytes: the first piece opens the key and
the last one closes it without overlapping, and the others occur in between. None if a character is
cut in two on the way. -/
def acceptsBytes? (pattern key : List Char) : Option Bool :=
  match Text.splitAt '*' pattern with
  | [] => some false
  | [_] => some (pattern == key)
  | first :: next :: more =>
    let last := (next :: more).getLast (List.cons_ne_nil next more)
    if byteLength key < byteLength first + byteLength last || !first.isPrefixOf key ||
      !last.isSuffixOf key then
      some false
    else
      (slice? (byteLength first) (byteLength key - byteLength last) key).bind fun middle =>
        findAll? (next :: more).dropLast middle

theorem firstByte?_eq (literal cs : List Char) :
    (after? literal cs = none ∧ firstByte? literal cs = none) ∨
    ∃ gap rest, cs = gap ++ (literal ++ rest) ∧ after? literal cs = some rest ∧
      firstByte? literal cs = some (byteLength gap) := by
  induction cs with
  | nil =>
      cases literal with
      | nil => exact .inr ⟨[], [], rfl, rfl, rfl⟩
      | cons c literal => exact .inl ⟨rfl, rfl⟩
  | cons c cs ih =>
      by_cases here : literal <+: c :: cs
      · obtain ⟨rest, whole⟩ := here
        refine .inr ⟨[], rest, whole.symm, after?_of_drop (dropLiteral?_eq_some_iff.mpr whole.symm),
          ?_⟩
        rw [firstByte?, if_pos (List.isPrefixOf_iff_prefix.mpr ⟨rest, whole⟩)]
        rfl
      · have absent := Text.dropLiteral?_eq_none_iff.mpr here
        rw [after?, absent, firstByte?, if_neg (mt List.isPrefixOf_iff_prefix.mp here)]
        obtain ⟨nowhere, none⟩ | ⟨gap, rest, whole, found, start⟩ := ih
        · exact .inl ⟨nowhere, by rw [none]; rfl⟩
        · exact .inr ⟨c :: gap, rest, by rw [whole, List.cons_append], found, by rw [start]; rfl⟩

/-- No character is cut: every piece is found where it begins with one. -/
theorem findAll?_exact (pieces : List (List Char)) (cs : List Char) :
    ∃ found, findAll? pieces cs = some found ∧ (found = true ↔ Occur pieces cs) := by
  induction pieces generalizing cs with
  | nil => exact ⟨true, rfl, by simp [Occur]⟩
  | cons piece pieces ih =>
      have first := exists_occurrence_iff piece cs (P := Occur pieces) Occur.of_suffix
      rw [findAll?, Occur, first]
      obtain ⟨nowhere, none⟩ | ⟨gap, rest, rfl, found, start⟩ := firstByte?_eq piece cs
      · exact ⟨false, by rw [none], by simp [nowhere]⟩
      · have cut := cutAtByte?_append (gap ++ piece) rest
        rw [byteLength_append, List.append_assoc] at cut
        obtain ⟨answer, same, exact⟩ := ih rest
        refine ⟨answer, ?_, ?_⟩
        · simp only [start, cut, Option.bind_some, same]
        · simpa [found] using exact

/-- With a star in the pattern the key is cut where its first piece ends and
where its last one begins. -/
theorem acceptsBytes?_several (split : Text.splitAt '*' pattern = first :: piece :: pieces) :
    ∃ answer, acceptsBytes? pattern key = some answer ∧ (answer = true ↔ Fits pattern key) := by
  obtain ⟨last, ends⟩ : ∃ last, (piece :: pieces).getLast (List.cons_ne_nil piece pieces) = last :=
    ⟨_, rfl⟩
  rw [acceptsBytes?, split]
  simp only [fits_several split, ends, Bool.or_eq_true, decide_eq_true_eq, Bool.not_eq_true',
    ← Bool.not_eq_true, List.isPrefixOf_iff_prefix, List.isSuffixOf_iff_suffix]
  split
  · rename_i outside
    refine ⟨false, rfl, ?_⟩
    simp only [Bool.false_eq_true, false_iff]
    rintro ⟨middle, rfl, -⟩
    obtain (short | front) | behind := outside
    · simp only [byteLength_append] at short
      omega
    · exact front (List.prefix_append first _)
    · exact behind ⟨first ++ middle, List.append_assoc first middle last⟩
  · rename_i inside
    simp only [not_or, not_not, Nat.not_lt] at inside
    obtain ⟨⟨room, opens⟩, closes⟩ := inside
    obtain ⟨middle, rfl⟩ := Text.exists_between opens closes room
    have stop : byteLength (first ++ (middle ++ last)) - byteLength last =
        byteLength first + byteLength middle := by
      simp only [byteLength_append]
      omega
    rw [stop, Text.slice?_append, Option.bind_some]
    obtain ⟨found, same, exact⟩ := findAll?_exact (piece :: pieces).dropLast middle
    refine ⟨found, same, exact.trans ?_⟩
    constructor
    · intro occur
      exact ⟨middle, rfl, occur⟩
    · rintro ⟨_, split, occur⟩
      obtain rfl := List.append_cancel_right (List.append_cancel_left split)
      exact occur

/-- Byte by byte no character is cut, and the same keys are accepted. -/
theorem acceptsBytes?_eq (pattern key : List Char) :
    acceptsBytes? pattern key = some (accepts pattern key) := by
  obtain ⟨first, pieces, split⟩ := List.exists_cons_of_ne_nil (Text.splitAt_ne_nil '*' pattern)
  obtain ⟨answer, same, exact⟩ :
      ∃ answer, acceptsBytes? pattern key = some answer ∧ (answer = true ↔ Fits pattern key) := by
    cases pieces with
    | nil =>
        have whole := Text.intercalate_splitAt '*' pattern
        rw [split, List.intercalate_singleton] at whole
        refine ⟨pattern == key, by rw [acceptsBytes?, split], ?_⟩
        rw [fits_alone split, beq_iff_eq, whole, eq_comm]
    | cons piece pieces => exact acceptsBytes?_several split
  rw [same, Option.some.injEq, Bool.eq_iff_iff, exact, accepts_iff]

end Cache.Glob

namespace Cache.Memory

open Glob (Fits)

/-- A pattern accepts exactly the keys that it becomes with a text in the place of each star, and no
character is cut in two to find that out. Deleting by a pattern removes the entries under such keys,
expired or not, tells how many they were, and leaves all others as they are. -/
theorem deletes_what_fits (m : Memory) (pattern : String) :
    (∀ key, (Glob.acceptsString pattern key = true ↔ Fits pattern.toList key.toList) ∧
      Glob.acceptsBytes? pattern.toList key.toList = some (Glob.acceptsString pattern key)) ∧
    (m.deleteMatching pattern).2.slots =
      m.slots.filter (fun s => ¬ Fits pattern.toList s.1.toList) ∧
    (m.deleteMatching pattern).1 = (m.slots.filter fun s => Fits pattern.toList s.1.toList).length ∧
    ∀ key, (m.deleteMatching pattern).2.slot? key =
      if Fits pattern.toList key.toList then none else m.slot? key := by
  have accepted (key : String) :
      Glob.acceptsString pattern key = decide (Fits pattern.toList key.toList) := by
    rw [Bool.eq_iff_iff, decide_eq_true_eq]
    exact Glob.accepts_iff
  refine ⟨?_, ?_, ?_, ?_⟩
  · intro key
    constructor
    · exact Glob.accepts_iff
    · exact Glob.acceptsBytes?_eq pattern.toList key.toList
  · simp only [deleteMatching, accepted, decide_not]
  · have parts := List.length_eq_length_filter_add (l := m.slots) fun s =>
      decide (Fits pattern.toList s.1.toList)
    simp only [deleteMatching, accepted]
    omega
  · intro key
    simp only [slot?_deleteMatching, accepted, decide_eq_true_eq]

end Cache.Memory

end Voucher
