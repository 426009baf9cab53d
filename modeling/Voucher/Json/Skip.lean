import Voucher.Json.Parser

/-!
Passing over a JSON value that nobody asked for. Only the grammar is checked: numbers may be of any
size, surrogates may stand alone, and nesting has no limit.
-/
namespace Voucher.Json.Skip

open Voucher.Json.Parser

/-- What follows the closing quote of a string whose opening quote has been read. -/
def stringRest : List Char → Option (List Char)
  | [] => none
  | '"' :: rest => some rest
  | '\\' :: 'u' :: a :: b :: c :: d :: rest =>
    if (hexWord? a b c d).isSome then stringRest rest else none
  | '\\' :: c :: rest => if (simpleEscape? c).isSome then stringRest rest else none
  | c :: rest => if c.toNat < 32 || c == '\\' then none else stringRest rest

def string : List Char → Option (List Char)
  | '"' :: rest => stringRest rest
  | _ => none

def number (cs : List Char) : Option (List Char) := do
  let (_, cs) ← whole? (match cs with
    | '-' :: rest => rest
    | _ => cs)
  let (_, cs) ← fraction? cs
  let (_, cs) ← exponent? cs
  pure cs

mutual

/-- What follows one value. -/
def value : (fuel : Nat) → List Char → Option (List Char)
  | 0, _ => none
  | fuel + 1, cs =>
    match skipBlank cs with
    | 'n' :: 'u' :: 'l' :: 'l' :: rest => some rest
    | 't' :: 'r' :: 'u' :: 'e' :: rest => some rest
    | 'f' :: 'a' :: 'l' :: 's' :: 'e' :: rest => some rest
    | '"' :: rest => stringRest rest
    | '[' :: rest =>
      match skipBlank rest with
      | ']' :: after => some after
      | _ => items fuel rest
    | '\x7b' :: rest =>
      match skipBlank rest with
      | '\x7d' :: after => some after
      | _ => members fuel rest
    | cs => number cs

def items : (fuel : Nat) → List Char → Option (List Char)
  | 0, _ => none
  | fuel + 1, cs =>
    match value fuel cs with
    | none => none
    | some rest =>
      match skipBlank rest with
      | ',' :: after => items fuel after
      | ']' :: after => some after
      | _ => none

def members : (fuel : Nat) → List Char → Option (List Char)
  | 0, _ => none
  | fuel + 1, cs =>
    match (string (skipBlank cs)).bind colon? with
    | none => none
    | some rest =>
      match value fuel rest with
      | none => none
      | some rest =>
        match skipBlank rest with
        | ',' :: after => members fuel after
        | '\x7d' :: after => some after
        | _ => none

end

end Voucher.Json.Skip
