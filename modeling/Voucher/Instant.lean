import Voucher.Calendar
import Voucher.Text.Blank
import Voucher.Text.Digit

/-!
Instants of coordinated universal time, to the nanosecond, and their text after RFC 3339. Reading is
lenient: blanks may stand before a number or a separator, numbers may lack leading zeros, the date
and the time may be parted by `T`, `t` or a space, and the offset may be `Z`, `UTC` or hours and
minutes with or without a colon. A sixtieth second is a leap second and is kept.
-/
namespace Voucher

/-- Seconds from the start of 1970 and nanoseconds; these reach 10⁹ or more within a leap second. -/
structure Instant where
  seconds : Int
  nanos : Nat
  deriving DecidableEq, Inhabited

namespace Instant

def epoch : Instant := ⟨0, 0⟩

/-- The last instant: the end of the last year. -/
def last : Instant :=
  ⟨(Calendar.Date.mk Calendar.lastYear 12 31).dayNumber * 86400 + 86399, 999999999⟩

/-- Instants are ordered by second, then by nanosecond. -/
def lt (a b : Instant) : Bool :=
  a.seconds < b.seconds || (a.seconds == b.seconds && a.nanos < b.nanos)

def le (a b : Instant) : Bool := !b.lt a

/-- All nanoseconds from the start of 1970. -/
def totalNanos (t : Instant) : Int := t.seconds * 1000000000 + t.nanos

def ofNanos (n : Int) : Instant := ⟨Int.fdiv n 1000000000, (Int.fmod n 1000000000).toNat⟩

def addNanos (t : Instant) (n : Int) : Instant := ofNanos (t.totalNanos + n)

def addSeconds (t : Instant) (s : Int) : Instant := ⟨t.seconds + s, t.nanos⟩

/-- The day an instant lies in, as a number. -/
def dayNumber (t : Instant) : Int := Int.fdiv t.seconds 86400

/-- `n` with zeros in front up to `width` digits. -/
def padded (width n : Nat) : List Char :=
  let ds := Text.decimal n
  List.replicate (width - ds.length) '0' ++ ds

/-- Four digits within the years 0 to 9999, outside a sign and at least four digits. -/
def yearChars (y : Int) : List Char :=
  if 0 ≤ y && y ≤ 9999 then padded 4 y.natAbs
  else (if y < 0 then '-' else '+') :: padded 4 y.natAbs

def dateChars (d : Calendar.Date) : List Char :=
  yearChars d.year ++ '-' :: padded 2 d.month ++ '-' :: padded 2 d.day

/-- No fraction, milliseconds, microseconds or nanoseconds, as few as are needed. -/
def fractionChars (nanos : Nat) : List Char :=
  if nanos = 0 then []
  else if nanos % 1000000 = 0 then '.' :: padded 3 (nanos / 1000000)
  else if nanos % 1000 = 0 then '.' :: padded 6 (nanos / 1000)
  else '.' :: padded 9 nanos

/-- Date and time without the offset. -/
def chars (t : Instant) : List Char :=
  let secondOfDay := (Int.fmod t.seconds 86400).toNat
  let leap := 1000000000 ≤ t.nanos
  let second := secondOfDay % 60 + if leap then 1 else 0
  dateChars (.ofDayNumber t.dayNumber) ++ 'T' :: padded 2 (secondOfDay / 3600) ++
    ':' :: padded 2 (secondOfDay / 60 % 60) ++ ':' :: padded 2 second ++
    fractionChars (if leap then t.nanos - 1000000000 else t.nanos)

/-- The text with the suffix `Z`. -/
def text (t : Instant) : String := String.ofList (t.chars ++ ['Z'])

/-- The text with the suffix `+00:00`. -/
def offsetText (t : Instant) : String := String.ofList (t.chars ++ "+00:00".toList)

/-- The text of a day. -/
def dayText (day : Int) : String := String.ofList (dateChars (.ofDayNumber day))

namespace Reader

open Text

/-- One to `width` digits, after blanks. -/
def number? (width : Nat) (cs : List Char) : Option (Nat × List Char) :=
  let cs := trimLeft cs
  match (takeDigits cs).1.take width with
  | [] => none
  | ds => some (numeral ds, cs.drop ds.length)

/-- A year: up to four digits, or any number of digits after a sign. -/
def year? (cs : List Char) : Option (Int × List Char) :=
  match trimLeft cs with
  | '-' :: rest => (takeDigits rest).1.length |> fun n =>
      if n = 0 then none else (number? n rest).map fun p => (-(p.1 : Int), p.2)
  | '+' :: rest => (takeDigits rest).1.length |> fun n =>
      if n = 0 then none else (number? n rest).map fun p => ((p.1 : Int), p.2)
  | cs => (number? 4 cs).map fun p => ((p.1 : Int), p.2)

/-- A separator, after blanks. -/
def mark? (c : Char) (cs : List Char) : Option (List Char) :=
  match trimLeft cs with
  | d :: rest => if d = c then some rest else none
  | [] => none

/-- A fraction of a second: nine digits count, the rest is passed over. -/
def fraction? (cs : List Char) : Option (Nat × List Char) :=
  match cs with
  | '.' :: rest =>
    match takeDigits rest with
    | ([], _) => none
    | (ds, after) =>
      let kept := ds.take 9
      some (numeral kept * Nat.pow 10 (9 - kept.length), after)
  | _ => some (0, cs)

/-- The seconds of an offset from universal time. -/
def offset? (cs : List Char) : Option (Int × List Char) :=
  match cs with
  | 'Z' :: rest | 'z' :: rest => some (0, rest)
  | sign :: h1 :: h2 :: rest => do
    let negative ← if sign = '+' then some false
      else if sign = '-' || sign = Char.ofNat 0x2212 then some true else none
    let h1 ← digit? h1
    let h2 ← digit? h2
    match rest.dropWhile fun c => c == ':' || isBlank c with
    | m1 :: m2 :: after =>
      let m1 ← digit? m1
      let m2 ← digit? m2
      if 6 ≤ m1.val then none
      let seconds : Int := (h1.val * 10 + h2.val) * 3600 + (m1.val * 10 + m2.val) * 60
      if 86400 ≤ seconds then none
      pure (if negative then -seconds else seconds, after)
    | _ => none
  | _ => none

def zone? (cs : List Char) : Option (Int × List Char) :=
  match cs with
  | u :: t :: c :: rest =>
    if u.toLower = 'u' ∧ t.toLower = 't' ∧ c.toLower = 'c' then some (0, rest) else offset? cs
  | _ => offset? cs

end Reader

open Reader in
def ofChars? (cs : List Char) : Option Instant := do
  let (year, cs) ← year? cs
  let cs ← mark? '-' cs
  let (month, cs) ← number? 2 cs
  let cs ← mark? '-' cs
  let (day, cs) ← number? 2 cs
  let cs ← match cs with
    | c :: rest => if c = 'T' ∨ c = 't' ∨ c = ' ' then some rest else none
    | [] => none
  let (hour, cs) ← number? 2 cs
  let cs ← mark? ':' cs
  let (minute, cs) ← number? 2 cs
  let cs ← mark? ':' cs
  let (second, cs) ← number? 2 cs
  let (nanos, cs) ← fraction? cs
  let (offset, cs) ← zone? (Text.trimLeft cs)
  if Text.trimLeft cs ≠ [] then none
  if !(Calendar.isDay year month day && Calendar.inRange year) then none
  if 23 < hour || 59 < minute || 60 < second then none
  let days := (⟨year, month, day⟩ : Calendar.Date).dayNumber
  let leap := second == 60
  let wall := days * 86400 + (hour * 3600 + minute * 60 + (if leap then 59 else second) : Nat)
  let t : Instant := ⟨wall - offset, if leap then nanos + 1000000000 else nanos⟩
  if Calendar.inRange (Calendar.Date.ofDayNumber t.dayNumber).year then some t else none

def ofString? (s : String) : Option Instant := ofChars? s.toList

end Instant

end Voucher
