import Voucher.Text.Search

/-!
Patterns of keys, in which a star stands for any text, also none. The texts between the stars are
looked for from the left, each behind the one before; the first must open the key and the last must
close it.
-/
namespace Voucher.Cache.Glob

open Text (dropLiteral?)

/-- What follows the first occurrence of a text. -/
def after? (literal : List Char) : List Char → Option (List Char)
  | [] => dropLiteral? literal []
  | c :: rest =>
    match dropLiteral? literal (c :: rest) with
    | some found => some found
    | none => after? literal rest

/-- The pieces behind a star occur in order, and the last of them at the end. -/
def closes : List (List Char) → List Char → Bool
  | [], _ => true
  | [last], cs => last.isSuffixOf cs
  | piece :: pieces, cs =>
    match after? piece cs with
    | some rest => closes pieces rest
    | none => false

/-- A key has the form of a pattern. -/
def accepts (pattern key : List Char) : Bool :=
  match Text.splitAt '*' pattern with
  | [] => false
  | [whole] => whole == key
  | first :: pieces =>
    match dropLiteral? first key with
    | some rest => closes pieces rest
    | none => false

def acceptsString (pattern key : String) : Bool := accepts pattern.toList key.toList

end Voucher.Cache.Glob
