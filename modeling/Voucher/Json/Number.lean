import Voucher.Decimal.Shortest
import Voucher.Json.Basic

/-!
Numbers in JSON texts. A numeral without fraction and exponent is an integer if it fits into 64 bits
(unsigned when positive, signed when negative, and not `-0`); any other numeral is a binary64
number. That number is found from the first digits that fit into 64 bits, scaled by one power of
ten, so it may lie a unit in the last place beside the nearest one.
-/
namespace Voucher.Json

/-- A significand and a power of ten. -/
structure Parts where
  significand : Nat
  exponent : Int

def maxWord : Nat := 18446744073709551615

/-- Takes in digits while the significand fits into 64 bits; returns the digits left. -/
def absorb (n : Nat) : List (Fin 10) → Nat × List (Fin 10)
  | [] => (n, [])
  | d :: ds => if n * 10 + d.val ≤ maxWord then absorb (n * 10 + d.val) ds else (n, d :: ds)

/-- The parts of a numeral: digits of the integer that do not fit raise the exponent, digits of the
fraction that do not fit are dropped. -/
def Parts.ofDigits (whole fraction : List (Fin 10)) : Parts :=
  let (n, left) := absorb 0 whole
  let (m, dropped) := absorb n fraction
  ⟨m, (left.length : Int) - ((fraction.length - dropped.length : Nat) : Int)⟩

end Voucher.Json

namespace Voucher.Double

def ofFloat (f : Float) : Double := ⟨f.toBits⟩

def toFloat (d : Double) : Float := Float.ofBits d.bits

/-- The power of ten nearest to `10 ^ n`, for `n ≤ 308`. -/
def power (n : Nat) : Float := Float.ofScientific 1 false n

/-- Scales by a power of ten; `none` when the number leaves the range. -/
def scale? : (fuel : Nat) → Float → Int → Option Float
  | 0, f, _ => some f
  | fuel + 1, f, e =>
    if e.natAbs ≤ 308 then
      if 0 ≤ e then
        let g := f * power e.natAbs
        if g.isInf then none else some g
      else some (f / power e.natAbs)
    else if f == 0.0 then some f
    else if 0 ≤ e then none
    else scale? fuel (f / power 308) (e + 308)

def ofParts? (negative : Bool) (p : Json.Parts) : Option Double :=
  (scale? (p.exponent.natAbs / 308 + 2) p.significand.toUInt64.toFloat p.exponent).map fun f =>
    ofFloat (if negative then -f else f)

/-- Positional up to sixteen places and five leading zeros, as `1e16` and `1e-6` show. -/
def style : Decimal.Style := ⟨16, 5⟩

def isNegative (d : Double) : Bool := d.bits >>> 63 == 1

/-- The weight of the bit above the fraction, `2 ^ 52`. -/
def unit : Nat := 0x10000000000000

/-- The bits of the exponent. -/
def field (d : Double) : Nat := d.bits.toNat / unit % 2048

/-- The bits of the fraction. -/
def fraction (d : Double) : Nat := d.bits.toNat % unit

def isZero (d : Double) : Bool := d.field == 0 && d.fraction == 0

/-- The digits and the power of ten of the shortest decimal that reads back, without the sign. -/
def shortest (d : Double) : Nat × Int :=
  let m := if d.field == 0 then d.fraction else d.fraction + unit
  let e : Int := (if d.field == 0 then 1 else d.field : Nat) - 1075
  (Decimal.Interval.ofParts m e (d.fraction == 0 && 1 < d.field)).shortest

/-- The shortest text that reads back. -/
def chars (d : Double) : List Char :=
  let sign := if d.isNegative then ['-'] else []
  if d.field == 2047 then ['n', 'u', 'l', 'l']
  else if d.isZero then sign ++ ['0', '.', '0']
  else sign ++ style.write d.shortest.1 d.shortest.2

end Voucher.Double

namespace Voucher.Json

/-- The exponent part of a numeral: its sign and digits. -/
structure Exponent where
  negative : Bool
  digits : List (Fin 10)

/-- The value of a numeral; `none` when it is too large for a binary64 number. -/
def ofNumeral? (negative : Bool) (whole : List (Fin 10)) (fraction : Option (List (Fin 10)))
    (exponent : Option Exponent) : Option Json :=
  match fraction, exponent with
  | none, none =>
    let n := Text.numeral whole
    if !negative && n ≤ maxWord then some (.int n)
    else if negative && 0 < n && n ≤ 9223372036854775808 then some (.int (-n))
    else (Double.ofParts? negative (.ofDigits whole [])).map .float
  | _, none => (Double.ofParts? negative (.ofDigits whole (fraction.getD []))).map .float
  | _, some x =>
    let p := Parts.ofDigits whole (fraction.getD [])
    let e := Text.numeral x.digits
    if e < 2147483648 then
      let shifted := if x.negative then p.exponent - e else p.exponent + e
      (Double.ofParts? negative ⟨p.significand, shifted⟩).map .float
    else if p.significand != 0 && !x.negative then none
    else some (.float (Double.ofFloat (if negative then -0.0 else 0.0)))

end Voucher.Json
