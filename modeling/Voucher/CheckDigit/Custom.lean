import Voucher.CheckDigit.Formula.Eval
import Voucher.CheckDigit.Formula.Wire
import Voucher.CheckDigit.Builtin

/-!
Custom check digits: reading a definition, computing a check value, and the choice between a
built-in algorithm and the definition of a rule. Whatever goes wrong with a definition, the check
digit is refused.
-/
namespace Voucher.CheckDigit

namespace Definition

inductive Fault where
  | invalid
  | tooDeep (depth : Nat)
  | eval (fault : Formula.Fault)
  | negativeResult (value : Int64)
  /-- The width is beyond what can be written. -/
  | tooWide
  deriving DecidableEq

namespace Fault

/-- The kind of a fault and its message, which is missing where the reason is not worded here. -/
def describe : Fault → String × Option String
  | invalid => ("Invalid", none)
  | tooDeep depth =>
    ("TooDeep", some ("校验表达式嵌套过深: " ++ toString depth ++ " > " ++ toString Formula.maxDepth))
  | eval .noWeights => ("Invalid", some "校验表达式无效: weighted_sum 需要至少一个权重")
  | eval (.unsupported position c) =>
    ("UnsupportedCharacter",
      some ("位置 " ++ toString position ++ " 的字符 " ++ Text.quoteChar c ++ " 无法参与计算"))
  | eval .divisionByZero => ("DivisionByZero", some "除数为 0")
  | eval .overflow => ("Overflow", some "整数溢出")
  | eval (.budgetExceeded budget) =>
    ("BudgetExceeded", some ("求值步数超出预算 " ++ toString budget))
  | negativeResult value =>
    ("NegativeResult", some ("结果 " ++ Text.decimalString value.toInt ++ " 为负且无符号映射"))
  | tooWide => ("Worker", none)

end Fault

/-- Reads a definition whose formula does not nest too deeply. -/
def parse (j : Json) : Except Fault Definition :=
  match ofJson? j with
  | none => .error .invalid
  | some d =>
    if d.formula.depth ≤ Formula.maxDepth then .ok d else .error (.tooDeep d.formula.depth)

/-- The widest number that is written. -/
def maxWidth : Nat := 65535

/-- A result as text: its symbol, or its numeral padded with zeros. -/
def render (d : Definition) (value : Int64) : Except Fault (List Char) :=
  match d.symbols.get? (Text.decimalString value.toInt) with
  | some symbol => .ok symbol.toList
  | none =>
    if value < 0 then .error (.negativeResult value)
    else
      let width := (d.width.getD 1).toNat
      if maxWidth < width then .error .tooWide
      else
        let ds := Text.decimal value.toInt.natAbs
        .ok (List.replicate (width - ds.length) '0' ++ ds)

/-- The check value of an input, within a budget of steps. -/
def calculate (d : Definition) (budget : Nat) (input : List Char) : Except Fault (List Char) :=
  match (Formula.eval budget input d.formula 0).1 with
  | .ok value => d.render value
  | .error fault => .error (.eval fault)

/-- Reads a definition and computes a check value. -/
def run (budget : Nat) (definition : Json) (input : List Char) : Except Fault (List Char) :=
  match parse definition with
  | .ok d => d.calculate budget input
  | .error fault => .error fault

end Definition

/-- `check` is the check value of `input` under an algorithm; the custom one needs a definition. -/
def verify (budget : Nat) (a : Algorithm) (definition : Option Json)
    (input check : List Char) : Bool :=
  match a with
  | .custom =>
    match definition with
    | some j =>
      match Definition.run budget j input with
      | .ok expected => expected == check
      | .error _ => false
    | none => false
  | builtin => builtin.validate input check

/-- `check` is the check value of values that follow one another. -/
def verifyAll (budget : Nat) (a : Algorithm) (definition : Option Json) (values : List (List Char))
    (check : List Char) : Bool :=
  match a with
  | .custom => verify budget .custom definition values.flatten check
  | builtin => builtin.validateAll values check

end Voucher.CheckDigit
