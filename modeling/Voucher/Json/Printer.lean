import Voucher.Json.Number

/-!
Compact JSON text. Strings escape the quote, the backslash and the controls below `U+0020`; all
other characters stand for themselves.
-/
namespace Voucher.Json

def hexDigit (n : Nat) : Char :=
  Nat.digitChar n

/-- One character of a string. -/
def escape (c : Char) : List Char :=
  if c == '"' then ['\\', '"']
  else if c == '\\' then ['\\', '\\']
  else if c == '\n' then ['\\', 'n']
  else if c == '\r' then ['\\', 'r']
  else if c == '\t' then ['\\', 't']
  else if c.toNat == 8 then ['\\', 'b']
  else if c.toNat == 12 then ['\\', 'f']
  else if c.toNat < 32 then ['\\', 'u', '0', '0', hexDigit (c.toNat / 16), hexDigit (c.toNat % 16)]
  else [c]

def stringChars (s : String) : List Char :=
  '"' :: (s.toList.flatMap escape ++ ['"'])

mutual

def chars : Json → List Char
  | .null => ['n', 'u', 'l', 'l']
  | .bool true => ['t', 'r', 'u', 'e']
  | .bool false => ['f', 'a', 'l', 's', 'e']
  | .int i => Text.decimalInt i
  | .float d => Double.chars d
  | .str s => stringChars s
  | .arr [] => ['[', ']']
  | .arr (item :: rest) => '[' :: (item.chars ++ itemChars rest)
  | .obj [] => ['\x7b', '\x7d']
  | .obj ((key, value) :: rest) =>
    '\x7b' :: (stringChars key ++ ':' :: (value.chars ++ memberChars rest))

def itemChars : List Json → List Char
  | [] => [']']
  | item :: rest => ',' :: (item.chars ++ itemChars rest)

def memberChars : List (String × Json) → List Char
  | [] => ['\x7d']
  | (key, value) :: rest => ',' :: (stringChars key ++ ':' :: (value.chars ++ memberChars rest))

end

def text (j : Json) : String :=
  String.ofList j.chars

end Voucher.Json
