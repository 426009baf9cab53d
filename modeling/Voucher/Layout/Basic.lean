import Voucher.Calendar
import Voucher.CheckDigit.Algorithm
import Voucher.Word

/-!
Layouts of code payloads. A layout is a list of segments that follow one another without gaps; each
has a name, a length in characters and a kind, which says what values it may have.
-/
namespace Voucher

/-- The case of the letters in an alphabetic segment. -/
inductive LetterCase where
  | upper
  | lower
  | both
  deriving DecidableEq, Inhabited

namespace LetterCase

def name : LetterCase → String
  | upper => "upper"
  | lower => "lower"
  | both => "both"

def ofName? (s : String) : Option LetterCase := [upper, lower, both].find? (·.name == s)

end LetterCase

/-- Formats of date segments: full year, month and day; two-digit year, month and day; two-digit
year and day of the year. -/
inductive DateFormat where
  | yearMonthDay
  | shortYearMonthDay
  | shortYearDay
  deriving DecidableEq, Inhabited

namespace DateFormat

def ofTag? : String → Option DateFormat
  | "YYYYMMDD" => some yearMonthDay
  | "YYMMDD" => some shortYearMonthDay
  | "YYDDD" => some shortYearDay
  | _ => none

/-- The number of digits a date has. -/
def width : DateFormat → Nat
  | yearMonthDay => 8
  | shortYearMonthDay => 6
  | shortYearDay => 5

def label : DateFormat → String
  | yearMonthDay => "YyyyMmDd"
  | shortYearMonthDay => "YyMmDd"
  | shortYearDay => "YyDdd"

/-- The digits of a date denote a day. Two-digit years belong to the years from 2000; a day of the
year runs from 1 to 366 in every year. -/
def isDay (format : DateFormat) (ds : List (Fin 10)) : Bool :=
  let number (start stop : Nat) := Text.numeral ((ds.take stop).drop start)
  match format with
  | yearMonthDay => Calendar.isDay (number 0 4) (number 4 6) (number 6 8)
  | shortYearMonthDay => Calendar.isDay (2000 + number 0 2) (number 2 4) (number 4 6)
  | shortYearDay => 1 ≤ number 2 5 && number 2 5 ≤ 366

end DateFormat

namespace Segment

inductive Kind where
  | fixed (value : String)
  | numeric (min max : Option Int64)
  | alpha (letters : LetterCase)
  | alphanumeric
  | oneOf (values : List String)
  | date (format : String)
  /-- The check digit of the values of the segments in `appliesTo`; the algorithm counts where the
  rule names none. -/
  | check (algorithm : Option String) (appliesTo : List String)
  deriving DecidableEq, Inhabited

end Segment

structure Segment where
  name : String
  length : UInt64
  description : Option String
  kind : Segment.Kind
  deriving DecidableEq, Inhabited

namespace Segment

def isCheck (s : Segment) : Bool :=
  match s.kind with
  | .check .. => true
  | _ => false

end Segment

structure Layout where
  segments : List Segment
  deriving DecidableEq, Inhabited

namespace Layout

/-- The sum of the segment lengths, if it fits into 64 bits. -/
def total? (l : Layout) : Option UInt64 := l.segments.foldlM (fun sum s => Word.add? sum s.length) 0

/-- The sum of the segment lengths, or the largest word where it does not fit. -/
def cappedTotal (l : Layout) : UInt64 := l.total?.getD 18446744073709551615

/-- The check segment that counts is the first one. -/
def checkSegment? (l : Layout) : Option Segment := l.segments.find? (·.isCheck)

end Layout

end Voucher
