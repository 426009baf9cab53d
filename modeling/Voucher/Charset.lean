import Voucher.Json.Record
import Voucher.Text.Upper

/-!
Character sets of code payloads. A payload is in a character set when it is not empty and all its
characters belong to the set; the custom set is a list of characters, and without such a list it
admits every character.
-/
namespace Voucher

inductive Charset where
  | numeric
  | alphaUpper
  | alphaLower
  | alphanumeric
  | custom
  deriving DecidableEq, Inhabited

namespace Charset

def all : List Charset := [numeric, alphaUpper, alphaLower, alphanumeric, custom]

def wireName : Charset → String
  | numeric => "NUMERIC"
  | alphaUpper => "ALPHA_UPPER"
  | alphaLower => "ALPHA_LOWER"
  | alphanumeric => "ALPHANUMERIC"
  | custom => "CUSTOM"

/-- The name used in messages. -/
def label : Charset → String
  | numeric => "Numeric"
  | alphaUpper => "AlphaUpper"
  | alphaLower => "AlphaLower"
  | alphanumeric => "Alphanumeric"
  | custom => "Custom"

def ofName? (name : String) : Option Charset := all.find? (·.wireName == name)

def toJson (c : Charset) : Json := .str c.wireName

def ofJson? (j : Json) : Option Charset := j.readVariant?.bind ofName?

/-- The characters of a set, given the list of the custom set. -/
def admits (allowed : Option String) (c : Char) : Charset → Bool
  | numeric => Text.isAsciiDigit c
  | alphaUpper => Text.isAsciiUpper c
  | alphaLower => Text.isAsciiLower c
  | alphanumeric => Text.isAsciiLetter c || Text.isAsciiDigit c
  | custom =>
    match allowed with
    | some list => list.isEmpty || list.toList.contains c
    | none => true

/-- A payload is never empty. -/
def accepts (set : Charset) (allowed : Option String) (payload : List Char) : Bool :=
  !payload.isEmpty && payload.all (set.admits allowed ·)

end Charset

end Voucher
