import Voucher.Json.Basic
import Voucher.Layout.Basic
import Voucher.Text.Quoted
import Voucher.Word

/-!
Splitting a payload into the values of a layout's segments. Values are taken one after another from
the front; the first segment that does not fit, or whose value its kind refuses, ends the split. A
segment that does not fit shows that the rule is at fault, a refused value only that the code
belongs to another rule.
-/
namespace Voucher

namespace Segment

/-- Why a value is refused. -/
inductive Reason where
  | notFixed (expected : String)
  | notNumber
  | below (min : Int64)
  | above (max : Int64)
  | notLetters
  | notAlphanumeric
  | notListed
  | notDateDigits
  | notDay
  deriving DecidableEq

namespace Reason

def message : Reason → String
  | notFixed expected => "应为固定值 " ++ expected
  | notNumber => "应为数字"
  | below min => "小于最小值 " ++ Text.decimalString min.toInt
  | above max => "大于最大值 " ++ Text.decimalString max.toInt
  | notLetters => "应为字母"
  | notAlphanumeric => "应为字母或数字"
  | notListed => "不在枚举值内"
  | notDateDigits => "日期应为数字"
  | notDay => "日期无效"

end Reason

/-- The digits of a value that is not empty and has no other characters. -/
def number? (value : List Char) : Option (List (Fin 10)) :=
  match Text.digits? value with
  | some [] => none
  | some ds => some ds
  | none => none

/-- The number that digits write, as a signed word of 128 bits; one that does not fit
counts as the largest. -/
def cappedNumeral (ds : List (Fin 10)) : Int := min (Text.numeral ds) Word.max128

def isNonempty (chars : Char → Bool) (value : List Char) : Bool :=
  !value.isEmpty && value.all chars

def letterClass : LetterCase → Char → Bool
  | .upper => Text.isAsciiUpper
  | .lower => Text.isAsciiLower
  | .both => Text.isAsciiLetter

namespace Kind

/-- The reason for which a value is refused, if it is. -/
def refusal? (value : List Char) : Kind → Option Reason
  | .fixed expected => if value = expected.toList then none else some (.notFixed expected)
  | .numeric min max =>
    match number? value with
    | none => some .notNumber
    | some ds =>
      let n := cappedNumeral ds
      match min.filter (fun m => n < m.toInt), max.filter (fun m => m.toInt < n) with
      | some m, _ => some (.below m)
      | none, some m => some (.above m)
      | none, none => none
  | .alpha letters => if isNonempty (letterClass letters) value then none else some .notLetters
  | .alphanumeric =>
    if isNonempty (fun c => Text.isAsciiLetter c || Text.isAsciiDigit c) value then none
    else some .notAlphanumeric
  | .oneOf values => if values.any (·.toList == value) then none else some .notListed
  | .date format =>
    match number? value with
    | none => some .notDateDigits
    | some ds =>
      match DateFormat.ofTag? format with
      | some f => if ds.length = f.width && !f.isDay ds then some .notDay else none
      | none => none
  | .check .. => none

end Kind

end Segment

/-- The values of segments, in the order of the layout. -/
structure Fields where
  entries : List (String × List Char)
  deriving DecidableEq

namespace Fields

/-- The value of the first segment with a name. -/
def get? (f : Fields) (name : String) : Option (List Char) := f.entries.lookup name

/-- The values under some names; a name without a segment adds nothing. -/
def values (f : Fields) (names : List String) : List (List Char) :=
  names.map fun name => (f.get? name).getD []

/-- The values under some names, one after another. -/
def concat (f : Fields) (names : List String) : List Char := (f.values names).flatten

/-- An object with a member for each segment, in order; names may repeat. -/
def toJson (f : Fields) : Json := .obj (f.entries.map fun e => (e.1, .str (String.ofList e.2)))

/-- Why a payload does not split. -/
inductive Fault where
  | overflow (segment : String) (offset length payloadLength : Nat)
  | invalid (segment : String) (value : List Char) (reason : Segment.Reason)
  deriving DecidableEq

namespace Fault

/-- The rule is at fault, so no other rule is tried. -/
def isTerminal : Fault → Bool
  | overflow .. => true
  | invalid .. => false

/-- The name of a fault's kind. -/
def kind : Fault → String
  | overflow .. => "Overflow"
  | invalid .. => "Invalid"

def message : Fault → String
  | overflow segment offset length payloadLength =>
    "段 " ++ segment ++ " 越界: 偏移 " ++ toString offset ++ " + 长度 " ++ toString length ++
      " > 载荷长度 " ++ toString payloadLength
  | invalid segment value reason =>
    "段 " ++ segment ++ " 的值 " ++ Text.quoteString (String.ofList value) ++ " 无效: " ++
      reason.message

end Fault

/-- Where a segment that starts at an offset ends, if the payload reaches so far. -/
def stop? (payload : List Char) (offset : UInt64) (s : Segment) : Option UInt64 :=
  (Word.add? offset s.length).filter fun stop => stop.toNat ≤ payload.length

/-- Splits the characters of a payload from an offset on. -/
def splitFrom (payload : List Char) (offset : UInt64) :
    List Segment → Except Fault (List (String × List Char))
  | [] => .ok []
  | s :: rest =>
    match stop? payload offset s with
    | none => .error (.overflow s.name offset.toNat s.length.toNat payload.length)
    | some stop =>
      let value := (payload.drop offset.toNat).take s.length.toNat
      match s.kind.refusal? value with
      | some reason => .error (.invalid s.name value reason)
      | none =>
        match splitFrom payload stop rest with
        | .ok entries => .ok ((s.name, value) :: entries)
        | .error fault => .error fault

end Fields

/-- The values of a layout's segments in a payload. -/
def Layout.split (l : Layout) (payload : List Char) : Except Fields.Fault Fields :=
  match Fields.splitFrom payload 0 l.segments with
  | .ok entries => .ok ⟨entries⟩
  | .error fault => .error fault

end Voucher
