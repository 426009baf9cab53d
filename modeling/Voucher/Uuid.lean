import Voucher.Json.Parser

/-!
Identifiers of 128 bits. They are written as thirty-two lower-case hexadecimal digits in five groups
and read in either case, also without hyphens, in braces or after `urn:uuid:`.
-/
namespace Voucher

structure Uuid where
  bits : BitVec 128
  deriving DecidableEq, Inhabited

namespace Uuid

def nil : Uuid := ⟨0⟩

def ofNat (n : Nat) : Uuid := ⟨BitVec.ofNat 128 n⟩

def toNat (u : Uuid) : Nat := u.bits.toNat

/-- Identifiers are ordered as the numbers they are. -/
def le (a b : Uuid) : Bool := a.toNat ≤ b.toNat

/-- The last `n` hexadecimal digits of a number. -/
def hexDigits : (n : Nat) → Nat → List Char
  | 0, _ => []
  | n + 1, v => hexDigits n (v / 16) ++ [Nat.digitChar (v % 16)]

def digits (u : Uuid) : List Char := hexDigits 32 u.toNat

def chars (u : Uuid) : List Char :=
  let ds := u.digits
  ds.take 8 ++ '-' :: ((ds.drop 8).take 4 ++ '-' :: ((ds.drop 12).take 4 ++ '-' ::
    ((ds.drop 16).take 4 ++ '-' :: ds.drop 20)))

def text (u : Uuid) : String := String.ofList u.chars

/-- The number that hexadecimal digits of either case write. -/
def hexNumeral? (cs : List Char) : Option Nat :=
  cs.foldlM (fun n c => (Json.Parser.hexValue? c).map (n * 16 + ·)) 0

/-- The digits without hyphens, if these stand after 8, 12, 16 and 20 digits. -/
def ungroup? (cs : List Char) : Option (List Char) :=
  if cs.length = 36 ∧ cs[8]? = some '-' ∧ cs[13]? = some '-' ∧ cs[18]? = some '-' ∧
    cs[23]? = some '-'
  then some (cs.take 8 ++ (cs.drop 9).take 4 ++ (cs.drop 14).take 4 ++ (cs.drop 19).take 4 ++
    cs.drop 24)
  else none

def ofGrouped? (cs : List Char) : Option Uuid :=
  (ungroup? cs).bind fun ds => (hexNumeral? ds).map ofNat

def ofChars? (cs : List Char) : Option Uuid :=
  if cs.length = 32 then (hexNumeral? cs).map ofNat
  else if cs.length = 36 then ofGrouped? cs
  else if cs.length = 38 ∧ cs.head? = some '\x7b' ∧ cs.getLast? = some '\x7d' then
    ofGrouped? ((cs.drop 1).take 36)
  else if cs.length = 45 ∧ cs.take 9 = ['u', 'r', 'n', ':', 'u', 'u', 'i', 'd', ':'] then
    ofGrouped? (cs.drop 9)
  else none

def ofString? (s : String) : Option Uuid := ofChars? s.toList

end Uuid

end Voucher
