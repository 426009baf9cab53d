import Voucher.Json.Document

/-!
Formulas of custom check digits: integer arithmetic over the characters of an input, without loops
of its own. A formula is read from a rule, so its depth is bounded before it is evaluated.
-/
namespace Voucher.CheckDigit

/-- The end at which the weights of a weighted sum start. -/
inductive Direction where
  | leftToRight
  | rightToLeft
  deriving DecidableEq, Inhabited

inductive Comparison where
  | eq | ne | lt | le | gt | ge
  deriving DecidableEq, Inhabited

namespace Comparison

def holds (c : Comparison) (a b : Int64) : Bool :=
  match c with
  | eq => a == b
  | ne => a != b
  | lt => a < b
  | le => a ≤ b
  | gt => b < a
  | ge => b ≤ a

end Comparison

inductive Formula where
  | const (value : Int64)
  /-- The number of characters of the input. -/
  | length
  /-- The sum of the character values. -/
  | digitSum
  /-- The sum of the character values times the weights, which repeat; with `fold`, a product above
  nine loses nine. -/
  | weightedSum (weights : List Int64) (direction : Direction) (fold : Bool)
  /-- The remainder of the decimal number that the input writes, a letter counting as two digits. -/
  | numericMod (modulus : Int64)
  | add (args : List Formula)
  | mul (args : List Formula)
  | sub (left right : Formula)
  /-- The remainder that is not negative. -/
  | mod (left right : Formula)
  | cond (left : Formula) (comparison : Comparison) (right yes no : Formula)
  deriving Inhabited

namespace Formula

mutual

/-- How deeply a formula nests; a formula without parts has depth one. -/
def depth : Formula → Nat
  | .const _ | .length | .digitSum | .weightedSum .. | .numericMod _ => 1
  | .add args | .mul args => 1 + depthAll args
  | .sub l r | .mod l r => 1 + max l.depth r.depth
  | .cond l _ r y n => 1 + max (max l.depth r.depth) (max y.depth n.depth)

def depthAll : List Formula → Nat
  | [] => 0
  | f :: rest => max f.depth (depthAll rest)

end

/-- The depth that is still accepted. -/
def maxDepth : Nat := 32

end Formula

/-- Texts that stand for results, by the decimal numeral of the result; the keys ascend. -/
structure Symbols where
  entries : List (String × String)
  sorted : Json.SortedKeys entries

namespace Symbols

def empty : Symbols := ⟨[], by simp [Json.SortedKeys]⟩

instance : Inhabited Symbols := ⟨empty⟩

def insert (s : Symbols) (key value : String) : Symbols :=
  ⟨Json.putMember key value s.entries, Json.sortedKeys_putMember key value s.sorted⟩

def get? (s : Symbols) (key : String) : Option String := s.entries.lookup key

@[ext] theorem ext {a b : Symbols} (h : a.entries = b.entries) : a = b := by
  cases a; cases b; simp_all

end Symbols

/-- A custom check digit: a formula, the width to which results are padded with zeros, and symbols
for some results. -/
structure Definition where
  formula : Formula
  width : Option UInt64
  symbols : Symbols
  deriving Inhabited

end Voucher.CheckDigit
