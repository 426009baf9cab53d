import Voucher.Json.Parser

/-!
Texts in TOML: basic strings with escapes, literal strings without, and both over several lines.
Bare keys consist of letters, digits, underscores and hyphens.
-/
namespace Voucher.Toml

def isBareKeyChar (c : Char) : Bool := c.isAlphanum || c == '_' || c == '-'

/-- Characters that may stand in texts and comments: no control characters but the tab. -/
def isText (c : Char) : Bool := c == '\t' || (32 ≤ c.toNat && c.toNat != 127)

/-- The character of a number, which is no surrogate. -/
def scalar? (n : Nat) : Option Char :=
  if n < 0xD800 ∨ (0xDFFF < n ∧ n < 0x110000) then some (Char.ofNat n) else none

/-- The character of a number in hexadecimal digits. -/
def hexScalar? (ds : List Char) : Option Char :=
  (ds.foldlM (fun n c => (Json.Parser.hexValue? c).map (n * 16 + ·)) 0).bind scalar?

/-- The character after a backslash. -/
def escape? : List Char → Option (Char × List Char)
  | 'b' :: rest => some (Char.ofNat 8, rest)
  | 't' :: rest => some ('\t', rest)
  | 'n' :: rest => some ('\n', rest)
  | 'f' :: rest => some (Char.ofNat 12, rest)
  | 'r' :: rest => some ('\r', rest)
  | '"' :: rest => some ('"', rest)
  | '\\' :: rest => some ('\\', rest)
  | 'u' :: rest =>
    if rest.length < 4 then none else (hexScalar? (rest.take 4)).map fun c => (c, rest.drop 4)
  | 'U' :: rest =>
    if rest.length < 8 then none else (hexScalar? (rest.take 8)).map fun c => (c, rest.drop 8)
  | _ => none

/-- A basic string of one line after its opening quote. -/
def basic : (fuel : Nat) → List Char → Option (List Char × List Char)
  | 0, _ => none
  | fuel + 1, cs =>
    match cs with
    | '"' :: rest => some ([], rest)
    | '\\' :: rest => do
      let (c, rest) ← escape? rest
      let (more, rest) ← basic fuel rest
      pure (c :: more, rest)
    | c :: rest => do
      if !isText c then none
      let (more, rest) ← basic fuel rest
      pure (c :: more, rest)
    | [] => none

/-- A literal string of one line after its opening quote. -/
def literal : List Char → Option (List Char × List Char)
  | '\'' :: rest => some ([], rest)
  | c :: rest =>
    if isText c then (literal rest).map fun p => (c :: p.1, p.2) else none
  | [] => none

/-- A line break at the front is dropped. -/
def dropBreak : List Char → List Char
  | '\n' :: rest => rest
  | '\r' :: '\n' :: rest => rest
  | cs => cs

/-- The quotes at the end of a text of several lines: three close it, up to
two more belong to it. -/
def closing? (quote : Char) (cs : List Char) : Option (List Char × List Char) :=
  let n := (cs.takeWhile (· == quote)).length
  if n < 3 then none
  else
    let extra := min (n - 3) 2
    some (List.replicate extra quote, cs.drop (3 + extra))

/-- What follows a backslash at the end of a line: blanks and line breaks up to other text. -/
def joined? (cs : List Char) : Option (List Char) :=
  match cs.dropWhile fun c => c == ' ' || c == '\t' with
  | '\n' :: rest => some (rest.dropWhile fun c => c == ' ' || c == '\t' || c == '\n' || c == '\r')
  | '\r' :: '\n' :: rest =>
    some (rest.dropWhile fun c => c == ' ' || c == '\t' || c == '\n' || c == '\r')
  | _ => none

def basicLines : (fuel : Nat) → List Char → Option (List Char × List Char)
  | 0, _ => none
  | fuel + 1, cs =>
    match closing? '"' cs with
    | some found => some found
    | none =>
      match cs with
      | '\\' :: rest =>
        match joined? rest with
        | some rest => basicLines fuel rest
        | none => do
          let (c, rest) ← escape? rest
          let (more, rest) ← basicLines fuel rest
          pure (c :: more, rest)
      | '\r' :: '\n' :: rest => (basicLines fuel rest).map fun p => ('\r' :: '\n' :: p.1, p.2)
      | c :: rest =>
        if isText c || c == '\n' then (basicLines fuel rest).map fun p => (c :: p.1, p.2) else none
      | [] => none

def literalLines : (fuel : Nat) → List Char → Option (List Char × List Char)
  | 0, _ => none
  | fuel + 1, cs =>
    match closing? '\'' cs with
    | some found => some found
    | none =>
      match cs with
      | '\r' :: '\n' :: rest => (literalLines fuel rest).map fun p => ('\r' :: '\n' :: p.1, p.2)
      | c :: rest =>
        if isText c || c == '\n' then (literalLines fuel rest).map fun p => (c :: p.1, p.2)
        else none
      | [] => none

/-- A text in quotes of any kind. -/
def quoted? (cs : List Char) : Option (List Char × List Char) :=
  match cs with
  | '"' :: '"' :: '"' :: rest => basicLines (rest.length + 1) (dropBreak rest)
  | '\'' :: '\'' :: '\'' :: rest => literalLines (rest.length + 1) (dropBreak rest)
  | '"' :: rest => basic (rest.length + 1) rest
  | '\'' :: rest => literal rest
  | _ => none

/-- One part of a key: bare, or in quotes on one line. -/
def simpleKey? (cs : List Char) : Option (String × List Char) :=
  match cs with
  | '"' :: rest => (basic (rest.length + 1) rest).map fun p => (String.ofList p.1, p.2)
  | '\'' :: rest => (literal rest).map fun p => (String.ofList p.1, p.2)
  | _ =>
    let key := cs.takeWhile isBareKeyChar
    if key.isEmpty then none else some (String.ofList key, cs.drop key.length)

def isSpace (c : Char) : Bool := c == ' ' || c == '\t'

def skipSpace (cs : List Char) : List Char := cs.dropWhile isSpace

/-- The parts of a key between points. -/
def key : (fuel : Nat) → List Char → Option (List String × List Char)
  | 0, _ => none
  | fuel + 1, cs => do
    let (k, rest) ← simpleKey? (skipSpace cs)
    match skipSpace rest with
    | '.' :: rest => do
      let (more, rest) ← key fuel rest
      pure (k :: more, rest)
    | rest => pure ([k], rest)

end Voucher.Toml
