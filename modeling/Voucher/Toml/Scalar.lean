import Voucher.Decimal.Read
import Voucher.Settings.Value
import Voucher.Toml.Text
import Voucher.Word

/-!
Scalars in TOML other than texts: flags, integers in four bases, floating-point numbers, dates and
times. Underscores may stand between digits. A date is kept as a text.
-/
namespace Voucher.Toml

open Settings (Value)

/-- Drops underscores that stand between digits; there must be at least one digit. -/
def plainDigits? (isDigit : Char → Bool) : List Char → Option (List Char)
  | [] => none
  | [c] => if isDigit c then some [c] else none
  | c :: '_' :: rest =>
    if isDigit c then (plainDigits? isDigit rest).map (c :: ·) else none
  | c :: rest => if isDigit c then (plainDigits? isDigit rest).map (c :: ·) else none

def decimalDigits? (cs : List Char) : Option (List (Fin 10)) :=
  (plainDigits? Char.isDigit cs).bind Text.digits?

/-- The value of digits in a base. -/
def based? (base : Nat) (cs : List Char) : Option Int :=
  let value? (c : Char) : Option Nat := (Json.Parser.hexValue? c).filter (· < base)
  (plainDigits? (fun c => (value? c).isSome) cs).bind fun ds =>
    (ds.foldlM (fun n c => (value? c).map (n * base + ·)) 0).map Int.ofNat

/-- An integer that fits into 64 bits with a sign. -/
def fitting? (i : Int) : Option Value := if Word.Holds64 i then some (.int i) else none

/-- A zero in front of other digits is not allowed. -/
def noLeadingZero : List (Fin 10) → Bool
  | d :: _ :: _ => d.val != 0
  | _ => true

def sign : List Char → Bool × List Char
  | '-' :: rest => (true, rest)
  | '+' :: rest => (false, rest)
  | cs => (false, cs)

def integer? (cs : List Char) : Option Value :=
  match cs with
  | '0' :: 'x' :: rest => (based? 16 rest).bind fitting?
  | '0' :: 'o' :: rest => (based? 8 rest).bind fitting?
  | '0' :: 'b' :: rest => (based? 2 rest).bind fitting?
  | _ =>
    let (negative, cs) := sign cs
    (decimalDigits? cs).bind fun ds =>
      if noLeadingZero ds then
        fitting? (if negative then -(Text.numeral ds : Int) else Text.numeral ds)
      else none

/-- The number that an exponent writes. -/
def exponent? (cs : List Char) : Option Int :=
  let (negative, cs) := sign cs
  (decimalDigits? cs).map fun ds => if negative then -(Text.numeral ds : Int) else Text.numeral ds

def float? (cs : List Char) : Option Value :=
  let (negative, cs) := sign cs
  if cs = ['i', 'n', 'f'] then some (.float (Decimal.infinity negative))
  else if cs = ['n', 'a', 'n'] then some (.float Decimal.nan)
  else do
    let (number, exponent) := Text.cut 'e' (cs.map fun c => if c = 'E' then 'e' else c)
    let (whole, fraction) := Text.cut '.' number
    if exponent.isNone && fraction.isNone then none
    let whole ← decimalDigits? whole
    if !noLeadingZero whole then none
    let fraction ← match fraction with
      | some ds => decimalDigits? ds
      | none => some []
    let exponent ← match exponent with
      | some x => exponent? x
      | none => some 0
    pure (.float (Decimal.ofParts negative whole fraction exponent))

/-- The number of `n` digits at the front. -/
def fixed? (n : Nat) (cs : List Char) : Option (Nat × List Char) :=
  if cs.length < n then none
  else (Text.digits? (cs.take n)).map fun ds => (Text.numeral ds, cs.drop n)

def mark? (c : Char) : List Char → Option (List Char)
  | d :: rest => if c = d then some rest else none
  | [] => none

/-- A day of the calendar, as text. -/
def date? (cs : List Char) : Option (List Char × List Char) := do
  let (year, rest) ← fixed? 4 cs
  let (month, rest) ← (mark? '-' rest).bind (fixed? 2)
  let (day, rest) ← (mark? '-' rest).bind (fixed? 2)
  let leap := year % 4 == 0 && (year % 100 != 0 || year % 400 == 0)
  let days := if month == 2 then (if leap then 29 else 28)
    else if month == 4 || month == 6 || month == 9 || month == 11 then 30 else 31
  if month < 1 || 12 < month || day < 1 || days < day then none
  pure (cs.take 10, rest)

/-- A time of the day, as text without zeros at the end of the fraction. -/
def time? (cs : List Char) : Option (List Char × List Char) := do
  let (hour, rest) ← fixed? 2 cs
  let (minute, rest) ← (mark? ':' rest).bind (fixed? 2)
  let (second, rest) ← (mark? ':' rest).bind (fixed? 2)
  if 23 < hour || 59 < minute || 60 < second then none
  match rest with
  | '.' :: rest =>
    let ds := rest.takeWhile Char.isDigit
    if ds.isEmpty then none
    let shown := (((ds.take 9).reverse.dropWhile (· == '0')).reverse)
    pure (cs.take 8 ++ (if shown.isEmpty then [] else '.' :: shown), rest.drop ds.length)
  | _ => pure (cs.take 8, rest)

/-- An offset from universal time that ends the text. -/
def offset? (cs : List Char) : Option (List Char) :=
  match cs with
  | [] => some []
  | ['Z'] | ['z'] => some ['Z']
  | c :: rest => do
    if c != '+' && c != '-' then none
    let (hour, after) ← fixed? 2 rest
    let (minute, after) ← (mark? ':' after).bind (fixed? 2)
    if 23 < hour || 59 < minute || !after.isEmpty then none
    pure cs

def dateTime? (cs : List Char) : Option Value :=
  match date? cs with
  | some (date, []) => some (.text (String.ofList date))
  | some (date, c :: rest) => do
    if c != 'T' && c != 't' && c != ' ' then none
    let (time, rest) ← time? rest
    let offset ← offset? rest
    pure (.text (String.ofList (date ++ 'T' :: time ++ offset)))
  | none => do
    let (time, rest) ← time? cs
    if !rest.isEmpty then none
    pure (.text (String.ofList time))

/-- Characters of scalars. -/
def isScalarChar (c : Char) : Bool :=
  c.isAlphanum || c == '_' || c == '-' || c == '+' || c == '.' || c == ':'

/-- The characters of a scalar at the front; a space may stand between a date and a time. -/
def scalarChars (cs : List Char) : List Char :=
  let first := cs.takeWhile isScalarChar
  match cs.drop first.length with
  | ' ' :: d :: _ =>
    if first.length = 10 && (date? first).isSome && d.isDigit then
      first ++ ' ' :: (cs.drop 11).takeWhile isScalarChar
    else first
  | _ => first

/-- A scalar that is no text. -/
def scalarValue? (cs : List Char) : Option (Value × List Char) :=
  let token := scalarChars cs
  let value := if token = ['t', 'r', 'u', 'e'] then some (.flag true)
    else if token = ['f', 'a', 'l', 's', 'e'] then some (.flag false)
    else (integer? token).orElse fun _ => (float? token).orElse fun _ => dateTime? token
  value.map fun v => (v, cs.drop token.length)

end Voucher.Toml
