/-!
The proleptic Gregorian calendar: lengths of months and years, and the number of a day counted from
1 January 1970.
-/
namespace Voucher.Calendar

def isLeap (year : Int) : Bool :=
  year % 4 == 0 && (year % 100 != 0 || year % 400 == 0)

def daysInMonth (year : Int) (month : Nat) : Nat :=
  match month with
  | 1 | 3 | 5 | 7 | 8 | 10 | 12 => 31
  | 4 | 6 | 9 | 11 => 30
  | 2 => if isLeap year then 29 else 28
  | _ => 0

/-- A day that the calendar has. -/
def isDay (year : Int) (month day : Nat) : Bool :=
  1 ≤ month && month ≤ 12 && 1 ≤ day && day ≤ daysInMonth year month

structure Date where
  year : Int
  month : Nat
  day : Nat
  deriving DecidableEq, Inhabited

/-- The days from 1 January 1970 to a date. Years are counted from March, so the leap day comes
last, and in cycles of 400 years, which all have 146097 days. -/
def Date.dayNumber (d : Date) : Int :=
  let year := if d.month ≤ 2 then d.year - 1 else d.year
  let cycle := Int.fdiv year 400
  let yearOfCycle := (year - cycle * 400).toNat
  let monthFromMarch := if 2 < d.month then d.month - 3 else d.month + 9
  let dayOfYear := (153 * monthFromMarch + 2) / 5 + d.day - 1
  let dayOfCycle := yearOfCycle * 365 + yearOfCycle / 4 - yearOfCycle / 100 + dayOfYear
  cycle * 146097 + dayOfCycle - 719468

/-- The date of a day number. -/
def Date.ofDayNumber (n : Int) : Date :=
  let shifted := n + 719468
  let cycle := Int.fdiv shifted 146097
  let dayOfCycle := (shifted - cycle * 146097).toNat
  let yearOfCycle :=
    (dayOfCycle - dayOfCycle / 1460 + dayOfCycle / 36524 - dayOfCycle / 146096) / 365
  let dayOfYear := dayOfCycle - (365 * yearOfCycle + yearOfCycle / 4 - yearOfCycle / 100)
  let monthFromMarch := (5 * dayOfYear + 2) / 153
  let day := dayOfYear - (153 * monthFromMarch + 2) / 5 + 1
  let month := if monthFromMarch < 10 then monthFromMarch + 3 else monthFromMarch - 9
  let year := (yearOfCycle : Int) + cycle * 400
  ⟨if month ≤ 2 then year + 1 else year, month, day⟩

def firstYear : Int := -262143

def lastYear : Int := 262142

/-- Years that an instant can lie in. -/
def inRange (year : Int) : Bool := firstYear ≤ year && year ≤ lastYear

end Voucher.Calendar
