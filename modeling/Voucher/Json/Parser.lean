import Voucher.Json.Number

/-!
Reading JSON text. `value` reads one value at the front of a text and returns what follows it;
`parse?` takes a whole text that holds one value between blanks, and `read?` also refuses values
that nest deeper than 127 levels.
-/
namespace Voucher.Json

namespace Parser

def isBlank (c : Char) : Bool :=
  c == ' ' || c == '\n' || c == '\t' || c == '\r'

def skipBlank (cs : List Char) : List Char :=
  cs.dropWhile isBlank

/-- The value of a hexadecimal digit, of either case. -/
def hexValue? (c : Char) : Option Nat :=
  let n := c.toNat
  if 48 ≤ n && n ≤ 57 then some (n - 48)
  else if 97 ≤ n && n ≤ 102 then some (n - 87)
  else if 65 ≤ n && n ≤ 70 then some (n - 55)
  else none

def hexWord? (a b c d : Char) : Option Nat := do
  let a ← hexValue? a
  let b ← hexValue? b
  let c ← hexValue? c
  let d ← hexValue? d
  pure (((a * 16 + b) * 16 + c) * 16 + d)

def isHighSurrogate (n : Nat) : Bool := 0xD800 ≤ n && n < 0xDC00
def isLowSurrogate (n : Nat) : Bool := 0xDC00 ≤ n && n < 0xE000

/-- The character after a backslash, if it is an escape of one letter. -/
def simpleEscape? (c : Char) : Option Char :=
  if c == '"' || c == '\\' || c == '/' then some c
  else if c == 'b' then some (Char.ofNat 8)
  else if c == 'f' then some (Char.ofNat 12)
  else if c == 'n' then some '\n'
  else if c == 'r' then some '\r'
  else if c == 't' then some '\t'
  else none

def consTo (c : Char) (p : List Char × List Char) : List Char × List Char :=
  (c :: p.1, p.2)

/-- The rest of a string after its opening quote, and what follows the closing one. Surrogates must
come in pairs. -/
def stringBody : List Char → Option (List Char × List Char)
  | [] => none
  | '"' :: rest => some ([], rest)
  | '\\' :: 'u' :: a :: b :: c :: d :: '\\' :: 'u' :: e :: f :: g :: h :: rest =>
    match hexWord? a b c d with
    | none => none
    | some n =>
      if isLowSurrogate n then none
      else if isHighSurrogate n then
        match hexWord? e f g h with
        | none => none
        | some m =>
          if isLowSurrogate m then
            (stringBody rest).map
              (consTo (Char.ofNat (0x10000 + (n - 0xD800) * 0x400 + (m - 0xDC00))))
          else none
      else (stringBody ('\\' :: 'u' :: e :: f :: g :: h :: rest)).map (consTo (Char.ofNat n))
  | '\\' :: 'u' :: a :: b :: c :: d :: rest =>
    match hexWord? a b c d with
    | none => none
    | some n =>
      if isLowSurrogate n || isHighSurrogate n then none
      else (stringBody rest).map (consTo (Char.ofNat n))
  | '\\' :: c :: rest =>
    match simpleEscape? c with
    | some e => (stringBody rest).map (consTo e)
    | none => none
  | c :: rest =>
    if c.toNat < 32 || c == '\\' then none else (stringBody rest).map (consTo c)

def string? : List Char → Option (String × List Char)
  | '"' :: rest => (stringBody rest).map fun p => (String.ofList p.1, p.2)
  | _ => none

/-- The digits of an integer: a zero stands alone. -/
def whole? (cs : List Char) : Option (List (Fin 10) × List Char) :=
  match Text.takeDigits cs with
  | ([], _) => none
  | (d :: ds, rest) => if d = 0 ∧ ds ≠ [] then none else some (d :: ds, rest)

def fraction? : List Char → Option (Option (List (Fin 10)) × List Char)
  | '.' :: rest =>
    match Text.takeDigits rest with
    | ([], _) => none
    | (ds, after) => some (some ds, after)
  | cs => some (none, cs)

def exponentDigits? (negative : Bool) (cs : List Char) :
    Option (Option Exponent × List Char) :=
  match Text.takeDigits cs with
  | ([], _) => none
  | (ds, after) => some (some ⟨negative, ds⟩, after)

def exponent? : List Char → Option (Option Exponent × List Char)
  | c :: rest =>
    if c == 'e' || c == 'E' then
      match rest with
      | '+' :: after => exponentDigits? false after
      | '-' :: after => exponentDigits? true after
      | after => exponentDigits? false after
    else some (none, c :: rest)
  | [] => some (none, [])

def unsigned? (negative : Bool) (cs : List Char) : Option (Json × List Char) := do
  let (whole, cs) ← whole? cs
  let (fraction, cs) ← fraction? cs
  let (exponent, cs) ← exponent? cs
  let j ← ofNumeral? negative whole fraction exponent
  pure (j, cs)

def number? : List Char → Option (Json × List Char)
  | '-' :: rest => unsigned? true rest
  | cs => unsigned? false cs

def colon? (cs : List Char) : Option (List Char) :=
  match skipBlank cs with
  | ':' :: rest => some rest
  | _ => none

mutual

/-- One value, after blanks. -/
def value : (fuel : Nat) → List Char → Option (Json × List Char)
  | 0, _ => none
  | fuel + 1, cs =>
    match skipBlank cs with
    | 'n' :: 'u' :: 'l' :: 'l' :: rest => some (.null, rest)
    | 't' :: 'r' :: 'u' :: 'e' :: rest => some (.bool true, rest)
    | 'f' :: 'a' :: 'l' :: 's' :: 'e' :: rest => some (.bool false, rest)
    | '"' :: rest => (string? ('"' :: rest)).map fun p => (.str p.1, p.2)
    | '[' :: rest =>
      match skipBlank rest with
      | ']' :: after => some (.arr [], after)
      | _ => (items fuel rest).map fun p => (.arr p.1, p.2)
    | '\x7b' :: rest =>
      match skipBlank rest with
      | '\x7d' :: after => some (.obj [], after)
      | _ => (members fuel rest).map fun p => (.obj p.1, p.2)
    | cs => number? cs

/-- Values between commas up to the closing bracket. -/
def items : (fuel : Nat) → List Char → Option (List Json × List Char)
  | 0, _ => none
  | fuel + 1, cs =>
    match value fuel cs with
    | none => none
    | some (item, rest) =>
      match skipBlank rest with
      | ',' :: after => (items fuel after).map fun p => (item :: p.1, p.2)
      | ']' :: after => some ([item], after)
      | _ => none

/-- Members between commas up to the closing brace. -/
def members : (fuel : Nat) → List Char → Option (List (String × Json) × List Char)
  | 0, _ => none
  | fuel + 1, cs =>
    match string? (skipBlank cs) with
    | none => none
    | some (key, rest) =>
      match colon? rest with
      | none => none
      | some rest =>
        match value fuel rest with
        | none => none
        | some (v, rest) =>
          match skipBlank rest with
          | ',' :: after => (members fuel after).map fun p => ((key, v) :: p.1, p.2)
          | '\x7d' :: after => some ([(key, v)], after)
          | _ => none

end

/-- Steps enough for any value at the front of `cs`: two for each character. -/
def fuelFor (cs : List Char) : Nat :=
  2 * cs.length + 2

end Parser

/-- The value that a whole text holds. -/
def parse? (cs : List Char) : Option Json :=
  match Parser.value (Parser.fuelFor cs) cs with
  | some (j, rest) => if Parser.skipBlank rest = [] then some j else none
  | none => none

/-- The deepest nesting that is read. -/
def maxDepth : Nat := 127

def read? (s : String) : Option Json :=
  match parse? s.toList with
  | some j => if j.depth ≤ maxDepth then some j else none
  | none => none

end Voucher.Json
