import Voucher.Json.Basic
import Voucher.Text.Digit

/-!
The binary64 number nearest to a decimal. Numbers beyond the range become infinite, and numbers too
small to tell from zero become zero.
-/
namespace Voucher.Decimal

/-- The number nearest to `digits · 10 ^ exponent`. -/
def nearest (digits : Nat) (exponent : Int) : Float :=
  if digits = 0 then 0.0
  else
    let top := ((Text.decimal digits).length : Int) + exponent
    if 310 < top then 1.0 / 0.0
    else if top < -330 then 0.0
    else if 0 ≤ exponent then Float.ofScientific digits false exponent.toNat
    else Float.ofScientific digits true exponent.natAbs

/-- The number that digits before and after a point and an exponent write. -/
def ofParts (negative : Bool) (whole fraction : List (Fin 10)) (exponent : Int) : Double :=
  let f := nearest (Text.numeral (whole ++ fraction)) (exponent - fraction.length)
  ⟨(if negative then -f else f).toBits⟩

def infinity (negative : Bool) : Double :=
  ⟨(if negative then -(1.0 / 0.0) else 1.0 / 0.0 : Float).toBits⟩

def nan : Double := ⟨(0.0 / 0.0 : Float).toBits⟩

end Voucher.Decimal
