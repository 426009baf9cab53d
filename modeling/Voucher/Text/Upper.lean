import Voucher.Text.UpperTable

/-!
Upper case: the ASCII mapping, which moves the twenty-six letters only, and the full mapping, which
may turn one character into several. Both work character by character, so they commute with `++`.
-/
namespace Voucher.Text

def isAsciiLower (c : Char) : Bool :=
  'a' ≤ c && c ≤ 'z'

def isAsciiUpper (c : Char) : Bool :=
  'A' ≤ c && c ≤ 'Z'

def isAsciiLetter (c : Char) : Bool :=
  isAsciiLower c || isAsciiUpper c

def isAsciiDigit (c : Char) : Bool :=
  '0' ≤ c && c ≤ '9'

/-- Moves `a`–`z` to `A`–`Z` and leaves all else alone. -/
def asciiUpper (c : Char) : Char :=
  if isAsciiLower c then Char.ofNat (c.toNat - 32) else c

/-- Moves `A`–`Z` to `a`–`z` and leaves all else alone. -/
def asciiLower (c : Char) : Char :=
  if isAsciiUpper c then Char.ofNat (c.toNat + 32) else c

def asciiUpperString (s : String) : String :=
  String.ofList (s.toList.map asciiUpper)

/-- Equality of texts up to the case of ASCII letters. -/
def equalIgnoringAsciiCase (s t : String) : Bool :=
  s.toList.map asciiUpper == t.toList.map asciiUpper

def UpperRun.contains (r : UpperRun) (n : Nat) : Bool :=
  r.lo ≤ n && n ≤ r.hi && (n - r.lo) % r.step == 0

/-- The upper-case form of a character outside ASCII. -/
def upperWide (c : Char) : List Char :=
  match upperSpecial.lookup c.toNat with
  | some codes => codes.map Char.ofNat
  | none =>
    match upperRuns.find? (·.contains c.toNat) with
    | some run => [Char.ofNat (c.toNat + run.shift).toNat]
    | none => [c]

/-- The full upper-case form of a character. -/
def upperChar (c : Char) : List Char :=
  if c.toNat < 128 then [asciiUpper c] else upperWide c

def upperChars (cs : List Char) : List Char :=
  cs.flatMap upperChar

def upper (s : String) : String :=
  String.ofList (upperChars s.toList)

@[simp] theorem toList_upper (s : String) : (upper s).toList = upperChars s.toList := by
  simp [upper]

theorem upperChars_append (a b : List Char) :
    upperChars (a ++ b) = upperChars a ++ upperChars b := by
  simp [upperChars]

end Voucher.Text
