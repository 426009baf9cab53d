import Voucher.Text.Digit

/-!
The shortest decimal text of a binary floating-point number. Among the decimals that round to the
number, one with the fewest digits is chosen, and of those the nearest; of two equally near the one
whose last digit is even.
-/
namespace Voucher.Decimal

/-- A positive rational number as a quotient of naturals. -/
structure Ratio where
  num : Nat
  den : Nat

/-- The number `n · 2 ^ e`. -/
def Ratio.scale2 (n : Nat) (e : Int) : Ratio :=
  if e < 0 then ⟨n, 1 <<< e.natAbs⟩ else ⟨n <<< e.natAbs, 1⟩

/-- A power of ten. -/
def tenTo (n : Nat) : Nat := Nat.pow 10 n

/-- The number `n · 10 ^ e`. -/
def Ratio.scale10 (n : Nat) (e : Int) : Ratio :=
  if e < 0 then ⟨n, tenTo e.natAbs⟩ else ⟨n * tenTo e.natAbs, 1⟩

def Ratio.lt (a b : Ratio) : Bool :=
  a.num * b.den < b.num * a.den

def Ratio.le (a b : Ratio) : Bool :=
  a.num * b.den ≤ b.num * a.den

/-- The quotient of `a` by `10 ^ e`, rounded down. -/
def Ratio.floor10 (a : Ratio) (e : Int) : Nat :=
  if e < 0 then a.num * tenTo e.natAbs / a.den else a.num / (a.den * tenTo e.natAbs)

/-- The reals that round to one number: its two ends, the number, and whether the ends belong. -/
structure Interval where
  low : Ratio
  value : Ratio
  high : Ratio
  closed : Bool

/-- The interval of `m · 2 ^ e` for a significand `m` of at most 53 bits. -/
def Interval.ofParts (m : Nat) (e : Int) (narrow : Bool) : Interval where
  low := .scale2 (4 * m - if narrow then 1 else 2) (e - 2)
  value := .scale2 (4 * m) (e - 2)
  high := .scale2 (4 * m + 2) (e - 2)
  closed := m % 2 == 0

def Interval.contains (i : Interval) (r : Ratio) : Bool :=
  if i.closed then i.low.le r && r.le i.high else i.low.lt r && r.lt i.high

/-- The nearer of `c` and `c + 1` on the grid of `10 ^ e`, if one of them rounds to the number. -/
def Interval.hit? (i : Interval) (e : Int) : Option Nat :=
  let c := i.value.floor10 e
  let below := i.contains (.scale10 c e)
  let above := i.contains (.scale10 (c + 1) e)
  if below && above then
    let twice : Ratio := ⟨2 * i.value.num, i.value.den⟩
    let middle := Ratio.scale10 (2 * c + 1) e
    if twice.lt middle then some c
    else if middle.lt twice then some (c + 1)
    else if c % 2 == 0 then some c else some (c + 1)
  else if below then some c
  else if above then some (c + 1)
  else none

/-- The number of decimal places by which the first digit of `r` stands before the point. -/
def Ratio.magnitude (r : Ratio) : Int :=
  if r.den ≤ r.num then ((Nat.toDigits 10 (r.num / r.den)).length : Int)
  else
    let guess := (Nat.toDigits 10 (r.den / r.num)).length
    if r.den ≤ r.num * tenTo (guess - 1) then 1 - (guess - 1 : Nat) else 1 - (guess : Int)

/-- Digits `d` and exponent `e` of the shortest decimal `d · 10 ^ e`, tried with `n` digits more. -/
def Interval.shortestFrom (i : Interval) (top : Int) : (tries digits : Nat) → Nat × Int
  | 0, digits => (i.value.floor10 (top - digits), top - digits)
  | tries + 1, digits =>
    match i.hit? (top - digits) with
    | some d => (d, top - digits)
    | none => i.shortestFrom top tries (digits + 1)

/-- Drops the zeros at the end of `d`. -/
def dropZeros : (fuel : Nat) → Nat → Int → Nat × Int
  | 0, d, e => (d, e)
  | fuel + 1, d, e => if d % 10 == 0 && d != 0 then dropZeros fuel (d / 10) (e + 1) else (d, e)

def Interval.shortest (i : Interval) : Nat × Int :=
  let (d, e) := i.shortestFrom i.value.magnitude 17 1
  dropZeros 20 d e

/-- How a decimal `d · 10 ^ e` is laid out: positional while the point stands within `places` digits
and at most `leading` zeros follow it, with `.0` after an integer, else with an exponent. -/
structure Style where
  places : Int
  leading : Int

def Style.write (l : Style) (d : Nat) (e : Int) : List Char :=
  let ds := Nat.toDigits 10 d
  let point := (ds.length : Int) + e
  if 0 ≤ e && point ≤ l.places then ds ++ List.replicate e.toNat '0' ++ ['.', '0']
  else if 0 < point && point ≤ l.places then ds.take point.toNat ++ ['.'] ++ ds.drop point.toNat
  else if -l.leading < point && point ≤ 0 then
    ['0', '.'] ++ List.replicate point.natAbs '0' ++ ds
  else
    let exponent := 'e' :: Text.decimalInt (point - 1)
    match ds with
    | [] => exponent
    | [c] => c :: exponent
    | c :: rest => [c, '.'] ++ rest ++ exponent

/-- A decimal `d · 10 ^ e` without exponent, and without a point if it is an integer. -/
def plain (d : Nat) (e : Int) : List Char :=
  let ds := Nat.toDigits 10 d
  let point := (ds.length : Int) + e
  if 0 ≤ e then ds ++ List.replicate e.toNat '0'
  else if 0 < point then ds.take point.toNat ++ ['.'] ++ ds.drop point.toNat
  else ['0', '.'] ++ List.replicate point.natAbs '0' ++ ds

end Voucher.Decimal
