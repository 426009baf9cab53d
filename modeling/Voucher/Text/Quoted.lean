import Voucher.Text.Invisible

/-!
Quoted text for messages. A backslash, the quote in use, the usual control escapes and NUL are
written with a backslash; other invisible characters as `\u` with their number in braces, in
lower-case hexadecimal without padding.
-/
namespace Voucher.Text

/-- One character inside quotes of the kind `quote`. -/
def escapeIn (quote : Char) (c : Char) : List Char :=
  if c == quote || c == '\\' then ['\\', c]
  else if c == '\n' then ['\\', 'n']
  else if c == '\r' then ['\\', 'r']
  else if c == '\t' then ['\\', 't']
  else if c.toNat == 0 then ['\\', '0']
  else if isInvisible c then
    ['\\', 'u', '\x7b'] ++ Nat.toDigits 16 c.toNat ++ ['\x7d']
  else [c]

/-- A character in single quotes. -/
def quoteChar (c : Char) : String :=
  String.ofList (['\''] ++ escapeIn '\'' c ++ ['\''])

/-- A text in double quotes. -/
def quoteString (s : String) : String :=
  String.ofList (['"'] ++ s.toList.flatMap (escapeIn '"') ++ ['"'])

end Voucher.Text
