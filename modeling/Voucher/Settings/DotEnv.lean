import Voucher.Text.Blank
import Voucher.Text.Search
import Voucher.Text.Upper

/-!
Files of variables. Each line gives a name a value; quotes keep blanks and, over several lines, line
breaks, and a dollar sign stands for the value of a variable that is set already. Reading stops at
the first line that is wrong, and what stands before it holds.
-/
namespace Voucher.Settings.DotEnv

abbrev Variables := List (String × String)

/-- Where a line of the file stands: whether a quote is open, and what the character before was. -/
inductive Place where
  | plain
  | blank
  | escape
  | weak
  | weakEscape
  | strong
  | strongEscape
  deriving DecidableEq

namespace Place

/-- No quote is open. -/
def isOpen : Place → Bool
  | weak | weakEscape | strong | strongEscape => true
  | plain | blank | escape => false

def isBreak (c : Char) : Bool := c == '\n' || c == '\r'

/-- The place behind a character. -/
def step (p : Place) (c : Char) : Place :=
  match p with
  | plain =>
    if Text.isBlank c && !isBreak c then blank
    else if c == '\\' then escape
    else if c == '"' then weak
    else if c == '\'' then strong
    else plain
  | blank =>
    if c == '\\' then escape else if c == '"' then weak else if c == '\'' then strong else plain
  | escape => plain
  | weak => if c == '\\' then weakEscape else if c == '"' then plain else weak
  | weakEscape => weak
  | strong => if c == '\\' then strongEscape else if c == '\'' then plain else strong
  | strongEscape => strong

end Place

/-- A line without the return at its end. -/
def chopReturn (reversed : List Char) : List Char :=
  match reversed with
  | '\r' :: rest => rest.reverse
  | _ => reversed.reverse

/-- The lines of a file, and whether all quotes are closed. A line break within quotes belongs to
the line, and a hash after a blank starts a comment; `got` is the line so far, reversed. -/
def lines : (place : Place) → (got : List Char) → List Char → List (List Char) × Bool
  | place, got, [] =>
    if place.isOpen then ([], false) else (if got.isEmpty then [] else [got.reverse], true)
  | place, got, c :: rest =>
    if c = '\n' ∧ !place.isOpen then
      ((chopReturn got :: (lines .plain [] rest).1), (lines .plain [] rest).2)
    else if c = '#' ∧ (place = .blank ∨ (got.all Text.isBlank ∧ !place.isOpen)) then
      let (later, closed) := skipped rest
      (got.reverse :: later, closed)
    else lines (place.step c) (c :: got) rest
where
  /-- The lines behind a comment. -/
  skipped : List Char → List (List Char) × Bool
    | [] => ([], true)
    | c :: rest => if c = '\n' then lines .plain [] rest else skipped rest

/-- How a value goes on. -/
inductive Mode where
  | plain
  | strong
  /-- After a backslash, within double quotes or not. -/
  | escaped (weak : Bool)
  | weak
  /-- In a name after a dollar sign, in braces or not; the name so far, reversed. -/
  | name (braces weak : Bool) (got : List Char)
  /-- Behind a blank only blanks and a comment may follow. -/
  | ended
  deriving DecidableEq

namespace Mode

/-- The mode within double quotes or not. -/
def within (weak : Bool) : Mode := if weak then .weak else .plain

end Mode

/-- The value of a variable: the one that is set, or the one that the file gave it. -/
def valueOf (set given : Variables) (reversed : List Char) : List Char :=
  let name := String.ofList reversed.reverse
  match set.lookup name with
  | some v => v.toList
  | none => ((given.lookup name).getD "").toList

/-- Letters and digits, of which ASCII and Latin letters are told; others count as letters. -/
def isNameChar (c : Char) : Bool := c.isAlphanum || 0xAA ≤ c.toNat

/-- The value that a line gives, by characters. -/
def value? (set given : Variables) : Mode → List Char → Option (List Char)
  | mode, [] =>
    match mode with
    | .plain | .ended | .escaped false => some []
    | .name false false got => some (valueOf set given got)
    | _ => none
  | mode, c :: rest =>
    match mode with
    | .ended =>
      if c = ' ' ∨ c = '\t' then value? set given .ended rest
      else if c = '#' then some [] else none
    | .escaped weak =>
      if c = '\\' ∨ c = '\'' ∨ c = '"' ∨ c = '$' ∨ c = ' ' then
        (value? set given (.within weak) rest).map (c :: ·)
      else if c = 'n' then (value? set given (.within weak) rest).map ('\n' :: ·)
      else none
    | .strong =>
      if c = '\'' then value? set given .plain rest
      else (value? set given .strong rest).map (c :: ·)
    | .name braces weak got =>
      if isNameChar c then value? set given (.name braces weak (c :: got)) rest
      else if braces then
        if c = '\x7d' then
          (value? set given (.within weak) rest).map (valueOf set given got ++ ·)
        else value? set given (.name true weak (c :: got)) rest
      else if c = '\x7b' ∧ got = [] then value? set given (.name true weak []) rest
      else if c = '$' then
        (value? set given (.name false weak []) rest).map (valueOf set given got ++ ·)
      else
        (value? set given (.within weak) rest).map (valueOf set given got ++ c :: ·)
    | .weak =>
      if c = '$' then value? set given (.name false true []) rest
      else if c = '"' then value? set given .plain rest
      else if c = '\\' then value? set given (.escaped true) rest
      else (value? set given .weak rest).map (c :: ·)
    | .plain =>
      if c = '$' then value? set given (.name false false []) rest
      else if c = '\'' then value? set given .strong rest
      else if c = '"' then value? set given .weak rest
      else if c = '\\' then value? set given (.escaped false) rest
      else if c = ' ' ∨ c = '\t' then value? set given .ended rest
      else (value? set given .plain rest).map (c :: ·)

/-- The name at the front of a line. -/
def name? (cs : List Char) : Option (List Char × List Char) :=
  match cs with
  | c :: _ =>
    if Text.isAsciiLetter c || c == '_' then
      let name := cs.takeWhile fun c =>
        Text.isAsciiLetter c || Text.isAsciiDigit c || c == '_' || c == '.'
      some (name, Text.trimLeft (cs.drop name.length))
    else none
  | [] => none

/-- What follows an equals sign and blanks. -/
def afterEquals? : List Char → Option (List Char)
  | '=' :: rest => some (Text.trimLeft rest)
  | _ => none

/-- The name of a line, after the word `export` or not, and the text of its value. -/
def assignment? (cs : List Char) : Option (List Char × List Char) := do
  let (name, rest) ← name? cs
  match afterEquals? rest with
  | some text => pure (name, text)
  | none =>
    if name = "export".toList then do
      let (name, rest) ← name? rest
      let text ← afterEquals? rest
      pure (name, text)
    else none

/-- What a line gives: nothing, a variable, or a mistake. -/
def line? (set given : Variables) (cs : List Char) : Option (Option (String × String)) :=
  let cs := Text.trimLeft cs
  if cs.isEmpty ∨ cs.head? = some '#' then some none
  else do
    let (name, text) ← assignment? cs
    let value ←
      if text.isEmpty ∨ text.head? = some '#' then some [] else value? set given .plain text
    pure (some (String.ofList name, String.ofList value))

/-- Sets the variables of lines that are not set yet. -/
def setAll : (set given : Variables) → List (List Char) → Variables
  | set, _, [] => set
  | set, given, cs :: rest =>
    match line? set given cs with
    | none => set
    | some none => setAll set given rest
    | some (some (name, value)) =>
      setAll (if (set.lookup name).isSome then set else set ++ [(name, value)])
        ((name, value) :: given) rest

/-- The variables with those of a file that are not set yet. -/
def load (set : Variables) (file : String) : Variables :=
  setAll set [] (lines .plain [] file.toList).1

end Voucher.Settings.DotEnv
