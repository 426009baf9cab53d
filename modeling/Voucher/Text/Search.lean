/-!
Searching a text for a literal text: prefixes, removal of every occurrence, and splitting at a
separator. Occurrences are found from the left and do not overlap.
-/
namespace Voucher.Text

/-- What follows `pre` at the front of `cs`, if `cs` starts with it. -/
def dropLiteral? : (pre cs : List Char) → Option (List Char)
  | [], cs => some cs
  | _ :: _, [] => none
  | p :: pre, c :: cs => if p = c then dropLiteral? pre cs else none

theorem dropLiteral?_eq_some_iff {pre cs rest : List Char} :
    dropLiteral? pre cs = some rest ↔ cs = pre ++ rest := by
  induction pre generalizing cs with
  | nil => simp [dropLiteral?, eq_comm]
  | cons p pre ih =>
    cases cs with
    | nil => simp [dropLiteral?]
    | cons c cs =>
      by_cases h : p = c
      · subst h; simp [dropLiteral?, ih]
      · simp [dropLiteral?, h, Ne.symm h]

theorem length_of_dropLiteral? {pre cs rest : List Char} (h : dropLiteral? pre cs = some rest) :
    cs.length = pre.length + rest.length := by
  rw [dropLiteral?_eq_some_iff.1 h, List.length_append]

/-- Removes every occurrence of `sep :: tail`, from the left. -/
def removeAll (sep : Char) (tail : List Char) (cs : List Char) : List Char :=
  match cs with
  | [] => []
  | c :: rest =>
    match _found : dropLiteral? (sep :: tail) (c :: rest) with
    | some after => removeAll sep tail after
    | none => c :: removeAll sep tail rest
termination_by cs.length
decreasing_by
  · have := length_of_dropLiteral? _found
    simp at this ⊢
    omega
  · simp

/-- Removes every occurrence of a text; the empty text removes nothing. -/
def remove : (literal cs : List Char) → List Char
  | [], cs => cs
  | sep :: tail, cs => removeAll sep tail cs

/-- The pieces of `cs` between the characters `sep`; there is always one piece more than
separators. -/
def splitAt (sep : Char) : List Char → List (List Char)
  | [] => [[]]
  | c :: rest =>
    if c = sep then [] :: splitAt sep rest
    else
      match splitAt sep rest with
      | [] => [[c]]
      | piece :: pieces => (c :: piece) :: pieces

/-- The text before the first `sep` and, if there is one, the text after it. -/
def cut (sep : Char) : List Char → List Char × Option (List Char)
  | [] => ([], none)
  | c :: rest =>
    if c = sep then ([], some rest)
    else ((c :: (cut sep rest).1), (cut sep rest).2)

end Voucher.Text
