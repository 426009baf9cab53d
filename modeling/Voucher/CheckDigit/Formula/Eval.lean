import Voucher.CheckDigit.Formula.Basic
import Voucher.Text.Quoted
import Voucher.Text.Upper
import Voucher.Word

/-!
Evaluation of formulas. Sums, products and differences are kept within 64 bits and fail where they
would leave them. Every node costs one step and every pass over the input one step for each
character; evaluation ends when the steps exceed the budget, and the steps taken are known also
after a failure.
-/
namespace Voucher.CheckDigit

namespace Formula

inductive Fault where
  | noWeights
  | unsupported (position : Nat) (c : Char)
  | divisionByZero
  | overflow
  | budgetExceeded (budget : Nat)
  deriving DecidableEq

/-- The value of a digit or of a letter of either case. -/
def charValue? (c : Char) : Option Nat :=
  let c := Text.asciiUpper c
  if Text.isAsciiDigit c then some (c.toNat - 48)
  else if Text.isAsciiUpper c then some (c.toNat - 55)
  else none

def charValue (position : Nat) (c : Char) : Except Fault Int64 :=
  match charValue? c with
  | some v => .ok (Int64.ofNat v)
  | none => .error (.unsupported position c)

/-- An exact integer as a word of 64 bits. -/
def word (i : Int) : Except Fault Int64 :=
  if Word.Holds64 i then .ok (Int64.ofInt i) else .error .overflow

def addWords (a b : Int64) : Except Fault Int64 := word (a.toInt + b.toInt)
def subWords (a b : Int64) : Except Fault Int64 := word (a.toInt - b.toInt)
def mulWords (a b : Int64) : Except Fault Int64 := word (a.toInt * b.toInt)

/-- The remainder of `a` by `b` that is not negative. The least word has none by `-1`. -/
def modWords (a b : Int64) : Except Fault Int64 :=
  if b = 0 then .error .divisionByZero
  else if a.toInt = -9223372036854775808 ∧ b.toInt = -1 then .error .overflow
  else word (a.toInt % b.toInt)

/-- The sum of the character values from a position on, added to `acc`. -/
def digitSumFrom (acc : Int64) (position : Nat) : List Char → Except Fault Int64
  | [] => .ok acc
  | c :: rest => do
    let v ← charValue position c
    let acc ← addWords acc v
    digitSumFrom acc (position + 1) rest

/-- A character's value times its weight. -/
def weighted (fold : Bool) (v weight : Int64) : Except Fault Int64 := do
  let p ← mulWords v weight
  if fold && 9 < p then subWords p 9 else pure p

/-- The weighted sum of characters with their positions; `place` counts the characters taken. -/
def weightedSumFrom (weights : List Int64) (fold : Bool) (acc : Int64) (place : Nat) :
    List (Char × Nat) → Except Fault Int64
  | [] => .ok acc
  | (c, position) :: rest => do
    let v ← charValue position c
    let p ← weighted fold v ((weights[place % weights.length]?).getD 0)
    let acc ← addWords acc p
    weightedSumFrom weights fold acc (place + 1) rest

/-- The characters with their positions, in the order of a direction. -/
def Direction.order (d : Direction) (input : List Char) : List (Char × Nat) :=
  match d with
  | .leftToRight => input.zipIdx
  | .rightToLeft => input.zipIdx.reverse

/-- What a sign multiplies the number before it by: letters stand for two digits. -/
def scale (v : Nat) : Nat := if 10 ≤ v then 100 else 10

/-- Appends a sign to a remainder, in words of 128 bits. -/
def appendValue (modulus r : Int) (v : Nat) : Int :=
  (Word.wrap128 (Word.wrap128 (r * scale v) + v)).tmod modulus

/-- What is left of the number that the characters write after the remainder `r`. -/
def remainderFrom (modulus r : Int) (position : Nat) : List Char → Except Fault Int
  | [] => .ok r
  | c :: rest =>
    match charValue? c with
    | some v => remainderFrom modulus (appendValue modulus r v) (position + 1) rest
    | none => .error (.unsupported position c)

/-- A computation that counts steps. -/
abbrev Counted (α : Type) : Type := Nat → Except Fault α × Nat

namespace Counted

/-- The counter stops at the largest word. -/
def maxSteps : Nat := 18446744073709551615

def ok {α : Type} (a : α) : Counted α := fun n => (.ok a, n)

def lift {α : Type} (r : Except Fault α) : Counted α := fun n => (r, n)

def andThen {α β : Type} (m : Counted α) (k : α → Counted β) : Counted β := fun n =>
  match m n with
  | (.ok a, n) => k a n
  | (.error e, n) => (.error e, n)

/-- Pays for some steps and fails when the budget is exceeded. -/
def tick (budget cost : Nat) : Counted Unit := fun n =>
  let n := min (n + cost) maxSteps
  if budget < n then (.error (.budgetExceeded budget), n) else (.ok (), n)

instance : Monad Counted where
  pure := ok
  bind := andThen

end Counted

/-- The sum of character values, paid for at once. -/
def sumDigits (budget : Nat) (input : List Char) : Counted Int64 := do
  Counted.tick budget input.length
  Counted.lift (digitSumFrom 0 0 input)

def sumWeighted (budget : Nat) (input : List Char) (weights : List Int64) (direction : Direction)
    (fold : Bool) : Counted Int64 :=
  if weights.isEmpty then Counted.lift (.error .noWeights)
  else do
    Counted.tick budget input.length
    Counted.lift (weightedSumFrom weights fold 0 0 (Direction.order direction input))

def remainder (budget : Nat) (input : List Char) (modulus : Int64) : Counted Int64 :=
  if modulus ≤ 0 then Counted.lift (.error .divisionByZero)
  else do
    Counted.tick budget input.length
    Counted.lift ((remainderFrom modulus.toInt 0 0 input).map Int64.ofInt)

mutual

/-- The value of a formula on an input. -/
def eval (budget : Nat) (input : List Char) : Formula → Counted Int64
  | .const value => do
    Counted.tick budget 1
    pure value
  | .length => do
    Counted.tick budget 1
    pure (Int64.ofNat input.length)
  | .digitSum => do
    Counted.tick budget 1
    sumDigits budget input
  | .weightedSum weights direction fold => do
    Counted.tick budget 1
    sumWeighted budget input weights direction fold
  | .numericMod modulus => do
    Counted.tick budget 1
    remainder budget input modulus
  | .add args => do
    Counted.tick budget 1
    evalSum budget input 0 args
  | .mul args => do
    Counted.tick budget 1
    evalProduct budget input 1 args
  | .sub l r => do
    Counted.tick budget 1
    let a ← eval budget input l
    let b ← eval budget input r
    Counted.lift (subWords a b)
  | .mod l r => do
    Counted.tick budget 1
    let a ← eval budget input l
    let b ← eval budget input r
    Counted.lift (modWords a b)
  | .cond l c r y n => do
    Counted.tick budget 1
    let a ← eval budget input l
    let b ← eval budget input r
    if c.holds a b then eval budget input y else eval budget input n

/-- Adds the values of formulas to `acc`, one by one. -/
def evalSum (budget : Nat) (input : List Char) (acc : Int64) : List Formula → Counted Int64
  | [] => pure acc
  | f :: rest => do
    let v ← eval budget input f
    let acc ← Counted.lift (addWords acc v)
    evalSum budget input acc rest

/-- Multiplies `acc` by the values of formulas, one by one. -/
def evalProduct (budget : Nat) (input : List Char) (acc : Int64) : List Formula → Counted Int64
  | [] => pure acc
  | f :: rest => do
    let v ← eval budget input f
    let acc ← Counted.lift (mulWords acc v)
    evalProduct budget input acc rest

end

end Formula

end Voucher.CheckDigit
