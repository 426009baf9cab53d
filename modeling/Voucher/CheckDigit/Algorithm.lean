import Voucher.Json.Record
import Voucher.Text.Upper

/-!
Names of check digit algorithms and of the place of a check digit. A rule names its algorithm in
upper or in lower case throughout; a layout may use any case and blanks at the ends.
-/
namespace Voucher.CheckDigit

inductive Algorithm where
  | luhn
  | mod10
  | mod11
  | mod97
  | verhoeff
  | damm
  | custom
  deriving DecidableEq, Inhabited

namespace Algorithm

def all : List Algorithm := [luhn, mod10, mod11, mod97, verhoeff, damm, custom]

def name : Algorithm → String
  | luhn => "LUHN"
  | mod10 => "MOD10"
  | mod11 => "MOD11"
  | mod97 => "MOD97"
  | verhoeff => "VERHOEFF"
  | damm => "DAMM"
  | custom => "CUSTOM"

def lowerName : Algorithm → String
  | luhn => "luhn"
  | mod10 => "mod10"
  | mod11 => "mod11"
  | mod97 => "mod97"
  | verhoeff => "verhoeff"
  | damm => "damm"
  | custom => "custom"

/-- The algorithm that a layout names. -/
def ofText? (s : String) : Option Algorithm :=
  all.find? (·.name == Text.asciiUpperString (Text.trim s))

/-- The message for a text that names no algorithm. -/
def unknownMessage (s : String) : String := "未知的校验位算法: " ++ s

def ofName? (s : String) : Option Algorithm :=
  all.find? fun a => a.name == s || a.lowerName == s

def toJson (a : Algorithm) : Json := .str a.name

def ofJson? (j : Json) : Option Algorithm := j.readVariant?.bind ofName?

end Algorithm

/-- Where a printed code carries its check digit. The layout decides; this is a note for people. -/
inductive Position where
  | last
  | first
  deriving DecidableEq, Inhabited

namespace Position

def name : Position → String
  | last => "LAST"
  | first => "FIRST"

def ofName? (s : String) : Option Position := [last, first].find? (·.name == s)

def toJson (p : Position) : Json := .str p.name

def ofJson? (j : Json) : Option Position := j.readVariant?.bind ofName?

end Position

end Voucher.CheckDigit
