import Voucher.Rule.Basic
import Voucher.Text.Blank
import Voucher.Text.Quoted
import Voucher.Text.Search

/-!
From a code as typed to the payload that a rule's layout describes. Normalizing drops blanks at the
ends and separators anywhere, and turns the code into upper case unless the rule tells cases apart.
A normalized code has the rule's prefix, and what follows it has the rule's length and charset.
-/
namespace Voucher

namespace Rule

/-- The characters of the separator; none if the rule has none. -/
def separatorChars (r : Rule) : List Char :=
  match r.separator with
  | some s => s.toList
  | none => []

def normalize (r : Rule) (code : List Char) : List Char :=
  let stripped := Text.remove r.separatorChars (Text.trimChars code)
  if r.caseSensitive then stripped else Text.upperChars stripped

/-- Why a normalized code is not one of a rule. -/
inductive Mismatch where
  | missingPrefix (text : String)
  | length (expected actual : Nat)
  | charset (set : Charset)
  deriving DecidableEq

namespace Mismatch

/-- The name of a mismatch's kind. -/
def kind : Mismatch → String
  | missingPrefix _ => "MissingPrefix"
  | length .. => "Length"
  | charset _ => "Charset"

def message : Mismatch → String
  | missingPrefix text => "缺少前缀 " ++ text
  | length expected actual =>
    "载荷长度 " ++ toString actual ++ " 与规则要求 " ++ toString expected ++ " 不符"
  | charset set => "载荷不符合字符集 " ++ set.label

end Mismatch

/-- The payload's length and then its characters. -/
def checkPayload (r : Rule) (payload : List Char) : Except Mismatch (List Char) :=
  if payload.length ≠ r.totalLength.toNat then .error (.length r.totalLength.toNat payload.length)
  else if r.charset.accepts r.customCharset payload then .ok payload
  else .error (.charset r.charset)

/-- What follows the prefix of a normalized code. -/
def payload (r : Rule) (normalized : List Char) : Except Mismatch (List Char) :=
  match r.effectivePrefix with
  | some p =>
    match Text.dropLiteral? p.toList normalized with
    | some rest => r.checkPayload rest
    | none => .error (.missingPrefix p)
  | none => r.checkPayload normalized

end Rule

end Voucher
