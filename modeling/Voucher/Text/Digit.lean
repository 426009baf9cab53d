/-!
Decimal digits and numerals over lists of characters.
-/
namespace Voucher.Text

/-- The value of an ASCII digit. -/
@[inline] def digit? (c : Char) : Option (Fin 10) :=
  if h : 48 ≤ c.toNat ∧ c.toNat < 58 then some ⟨c.toNat - 48, by omega⟩ else none

def digitChar (d : Fin 10) : Char :=
  Char.ofNat (48 + d.val)

theorem digit?_digitChar (d : Fin 10) : digit? (digitChar d) = some d := by
  revert d; decide

/-- The digits at the front of a text, and what follows them. -/
def takeDigits : List Char → List (Fin 10) × List Char
  | [] => ([], [])
  | c :: rest =>
    match digit? c with
    | some d => (d :: (takeDigits rest).1, (takeDigits rest).2)
    | none => ([], c :: rest)

/-- The number that a list of digits writes, most significant first. -/
def numeral (ds : List (Fin 10)) : Nat :=
  ds.foldl (fun n d => n * 10 + d.val) 0

/-- The decimal numeral of `n`, without leading zeros. -/
def decimal (n : Nat) : List Char :=
  Nat.toDigits 10 n

/-- The decimal numeral of an integer, with a minus sign if it is negative. -/
def decimalInt (i : Int) : List Char :=
  if i < 0 then '-' :: decimal i.natAbs else decimal i.natAbs

def decimalString (i : Int) : String :=
  String.ofList (decimalInt i)

/-- All characters as digits; `none` if one is not a digit. -/
def digits? (cs : List Char) : Option (List (Fin 10)) :=
  cs.mapM digit?

end Voucher.Text
