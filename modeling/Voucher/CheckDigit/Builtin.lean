import Voucher.CheckDigit.Algorithm
import Voucher.Text.Digit
import Voucher.Text.Quoted

/-!
The built-in check digit algorithms. Each is a function on the list of digits of its input, except
the one modulo 97, which also takes letters and passes over everything else.
-/
namespace Voucher.CheckDigit

abbrev Digit := Fin 10

/-- The last digit of a number. -/
def lastDigit (n : Nat) : Digit := ⟨n % 10, Nat.mod_lt n (by decide)⟩

/-- A digit of a table, by row and column. -/
def entry (table : List (List Nat)) (row column : Nat) : Digit :=
  lastDigit ((table[row]?.getD [])[column]?.getD 0)

/-- The sum of the terms `f 0 d₀ + f 1 d₁ + …`, counted from the right end of a list. -/
def sumFromRight (f : Nat → Digit → Nat) (ds : List Digit) : Nat :=
  ds.reverse.zipIdx.foldr (fun p n => f p.2 p.1 + n) 0

/-- The sum from the right in words of 32 bits, which wrap around. -/
def wordSum (f : Nat → Digit → Nat) (ds : List Digit) : UInt32 :=
  ds.reverse.zipIdx.foldl (fun n p => n + UInt32.ofNat (f p.2 p.1)) 0

namespace Luhn

/-- Every second digit, from the last one on, counts twice; the digits of a
doubled digit are added. -/
@[inline] def term (i : Nat) (d : Digit) : Nat :=
  if i % 2 = 0 then
    if 9 < 2 * d.val then 2 * d.val - 9 else 2 * d.val
  else d.val

/-- The digit that makes a sum a multiple of ten. -/
def ofSum (n : UInt32) : Nat := (10 - n.toNat % 10) % 10

def sum (ds : List Digit) : UInt32 := wordSum term ds

def check (ds : List Digit) : Nat := ofSum (sum ds)

end Luhn

namespace Mod10

@[inline] def term (_ : Nat) (d : Digit) : Nat := d.val

def ofSum (n : UInt32) : Nat := n.toNat % 10

def check (ds : List Digit) : Nat := ofSum (wordSum term ds)

end Mod10

namespace Mod11

/-- The weights 2 to 7, repeated. -/
def weight (i : Nat) : Nat := 2 + i % 6

def sum (ds : List Digit) : Nat := sumFromRight (fun i d => d.val * weight i) ds

def check (ds : List Digit) : Nat :=
  if sum ds % 11 ≤ 1 then 0 else 11 - sum ds % 11

end Mod11

namespace Mod97

/-- Appends a character to a number modulo 97: a digit as itself, a letter as 10 to 35. -/
def step (r : Nat) (c : Char) : Nat :=
  let c := Text.asciiUpper c
  if Text.isAsciiDigit c then (r * 10 + (c.toNat - 48)) % 97
  else if Text.isAsciiUpper c then (r * 100 + (c.toNat - 55)) % 97
  else r

def remainder (cs : List Char) : Nat := cs.foldl step 0

def check (cs : List Char) : Nat := 98 - remainder cs

end Mod97

namespace Verhoeff

/-- The multiplication table of the dihedral group of order ten. -/
def multiplication : List (List Nat) :=
  [[0, 1, 2, 3, 4, 5, 6, 7, 8, 9],
    [1, 2, 3, 4, 0, 6, 7, 8, 9, 5],
    [2, 3, 4, 0, 1, 7, 8, 9, 5, 6],
    [3, 4, 0, 1, 2, 8, 9, 5, 6, 7],
    [4, 0, 1, 2, 3, 9, 5, 6, 7, 8],
    [5, 9, 8, 7, 6, 0, 4, 3, 2, 1],
    [6, 5, 9, 8, 7, 1, 0, 4, 3, 2],
    [7, 6, 5, 9, 8, 2, 1, 0, 4, 3],
    [8, 7, 6, 5, 9, 3, 2, 1, 0, 4],
    [9, 8, 7, 6, 5, 4, 3, 2, 1, 0]]

/-- The permutation of the digits at each place, repeated after eight places. -/
def permutation : List (List Nat) :=
  [[0, 1, 2, 3, 4, 5, 6, 7, 8, 9],
    [1, 5, 7, 6, 2, 8, 3, 0, 9, 4],
    [5, 8, 0, 3, 7, 9, 6, 1, 4, 2],
    [8, 9, 1, 6, 0, 4, 3, 5, 2, 7],
    [9, 4, 5, 3, 1, 2, 6, 8, 7, 0],
    [4, 2, 8, 6, 5, 7, 3, 9, 0, 1],
    [2, 7, 9, 3, 8, 0, 6, 4, 1, 5],
    [7, 0, 4, 6, 9, 1, 3, 2, 5, 8]]

def inverses : List Nat := [0, 4, 3, 2, 1, 5, 6, 7, 8, 9]

/-- The product of two elements of the group. -/
def mul (a b : Digit) : Digit := entry multiplication a.val b.val

/-- The digit that stands for `d` at place `i`, counted from the right. -/
def permute (i : Nat) (d : Digit) : Digit := entry permutation (i % 8) d.val

def inverse (a : Digit) : Digit := lastDigit (inverses[a.val]?.getD 0)

/-- The product of the permuted digits, from the right; place zero is the check digit's. -/
def product (ds : List Digit) : Digit :=
  ds.reverse.zipIdx.foldl (fun c p => mul c (permute p.2 p.1)) (lastDigit 0)

def check (ds : List Digit) : Digit := inverse (product (ds ++ [lastDigit 0]))

end Verhoeff

namespace Damm

/-- A totally anti-symmetric quasigroup with zeros on the diagonal. -/
def quasigroup : List (List Nat) :=
  [[0, 3, 1, 7, 5, 9, 8, 6, 4, 2],
    [7, 0, 9, 2, 1, 5, 4, 8, 6, 3],
    [4, 2, 0, 6, 8, 7, 1, 3, 5, 9],
    [1, 7, 5, 0, 9, 8, 3, 4, 2, 6],
    [6, 1, 2, 3, 0, 4, 5, 9, 7, 8],
    [3, 6, 7, 4, 2, 0, 9, 5, 8, 1],
    [5, 8, 6, 9, 7, 2, 0, 1, 3, 4],
    [8, 9, 4, 5, 3, 6, 2, 0, 1, 7],
    [9, 4, 3, 8, 6, 1, 7, 2, 0, 5],
    [2, 5, 8, 1, 4, 3, 6, 7, 9, 0]]

def op (a b : Digit) : Digit := entry quasigroup a.val b.val

def check (ds : List Digit) : Digit := ds.foldl op (lastDigit 0)

end Damm

/-- Why a check digit cannot be computed. -/
inductive Fault where
  | nonDigit (position : Nat) (c : Char)
  | needsDefinition
  deriving DecidableEq

namespace Fault

/-- The name of a fault's kind. -/
def kind : Fault → String
  | nonDigit .. => "NonDigit"
  | needsDefinition => "CustomRequiresDefinition"

def message : Fault → String
  | nonDigit position c =>
    "位置 " ++ toString position ++ " 的字符 " ++ Text.quoteChar c ++ " 不是数字"
  | needsDefinition => "CUSTOM 算法需要规则提供校验表达式"

end Fault

/-- The digits of a text, or its first character that is none, with its position. -/
def readDigits (position : Nat) : List Char → Except Fault (List Digit)
  | [] => .ok []
  | c :: rest =>
    match Text.digit? c with
    | some d =>
      match readDigits (position + 1) rest with
      | .ok ds => .ok (d :: ds)
      | .error e => .error e
    | none => .error (.nonDigit position c)

/-- The digit that a character writes; one that is no digit counts as zero. -/
@[inline] def digitOf (c : Char) : Digit := (Text.digit? c).getD ⟨0, Nat.succ_pos 9⟩

/-- Adds a character's term to a sum in words of 32 bits. The number of characters still to come,
this one included, tells its place from the right. -/
@[inline] def addPlace (f : Nat → Digit → Nat) (s : Nat × UInt32) (c : Char) : Nat × UInt32 :=
  (s.1 - 1, s.2 + UInt32.ofNat (f (s.1 - 1) (digitOf c)))

/-- The sum over values that follow one another, which are not put together for it. -/
@[inline] def joinedSum (f : Nat → Digit → Nat) (values : List (List Char)) : UInt32 :=
  let length := values.foldl (fun n value => n + value.length) 0
  (values.foldl (fun s value => value.foldl (addPlace f) s) (length, 0)).2

/-- A number as at least two digits. -/
def twoDigits (n : Nat) : List Char :=
  if n < 10 then '0' :: Text.decimal n else Text.decimal n

namespace Algorithm

/-- The check value of an input. -/
def calculate (a : Algorithm) (input : List Char) : Except Fault (List Char) :=
  let ofDigits (f : List Digit → Nat) := (readDigits 0 input).map fun ds => Text.decimal (f ds)
  match a with
  | luhn => ofDigits Luhn.check
  | mod10 => ofDigits Mod10.check
  | mod11 => ofDigits Mod11.check
  | mod97 => .ok (twoDigits (Mod97.check input))
  | verhoeff => ofDigits fun ds => (Verhoeff.check ds).val
  | damm => ofDigits fun ds => (Damm.check ds).val
  | custom => .error .needsDefinition

/-- `check` is the check value of `input`. -/
def validate (a : Algorithm) (input check : List Char) : Bool :=
  match a.calculate input with
  | .ok expected => expected == check
  | .error _ => false

/-- `check` is the check value of values that follow one another. There may be very many,
as a rule can name one value again and again, so they are put together only where more
than their sum counts. -/
def validateAll (a : Algorithm) (values : List (List Char)) (check : List Char) : Bool :=
  let numeric := values.all fun value => value.all fun c => (Text.digit? c).isSome
  match a with
  | luhn => numeric && Text.decimal (Luhn.ofSum (joinedSum Luhn.term values)) == check
  | mod10 => numeric && Text.decimal (Mod10.ofSum (joinedSum Mod10.term values)) == check
  | a => a.validate values.flatten check

end Algorithm

end Voucher.CheckDigit
