/-!
Blank characters and trimming. A character is blank when it has the Unicode property `White_Space`;
zero-width characters and the ASCII separators `U+001C`–`U+001F` are not blank.
-/
namespace Voucher.Text

/-- The property `White_Space`. -/
def isBlank (c : Char) : Bool :=
  let n := c.toNat
  (9 ≤ n && n ≤ 13) || n == 0x20 || n == 0x85 || n == 0xA0 || n == 0x1680 ||
    (0x2000 ≤ n && n ≤ 0x200A) || n == 0x2028 || n == 0x2029 || n == 0x202F || n == 0x205F ||
    n == 0x3000

/-- Drops the blanks at the front. -/
def trimLeft (cs : List Char) : List Char :=
  cs.dropWhile isBlank

/-- Drops the blanks at the end. -/
def trimRight (cs : List Char) : List Char :=
  (cs.reverse.dropWhile isBlank).reverse

/-- Drops the blanks at both ends. -/
def trimChars (cs : List Char) : List Char :=
  trimRight (trimLeft cs)

def trim (s : String) : String :=
  String.ofList (trimChars s.toList)

end Voucher.Text
