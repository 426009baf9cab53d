import Mathlib.Logic.Relation
import Voucher.Proofs.CheckDigit.Formula.Wire

/-! A definition is read back unless it nests too deeply, and what is accepted is evaluated with few
calls within one another. -/
namespace Voucher.CheckDigit

namespace Formula

variable {budget room : Nat} {input : List Char} {call other beyond : Formula → Counted Int64}
  {f g : Formula}

/-- The formulas that a formula is made of. -/
def operands : Formula → List Formula
  | .const _ | .length | .digitSum | .weightedSum .. | .numericMod _ => []
  | .add args | .mul args => args
  | .sub l r | .mod l r => [l, r]
  | .cond l _ r y n => [l, r, y, n]

theorem depth_eq (f : Formula) : f.depth = 1 + depthAll f.operands := by
  cases f <;> simp [depth, operands, depthAll, Nat.max_assoc]

theorem depth_pos (f : Formula) : 0 < f.depth := by
  rw [depth_eq]
  omega

theorem depth_le_depthAll {args : List Formula} (member : g ∈ args) : g.depth ≤ depthAll args := by
  induction args with
  | nil => contradiction
  | cons f rest ih =>
      rw [depthAll]
      obtain rfl | later := List.mem_cons.mp member
      · exact Nat.le_max_left ..
      · exact Nat.le_trans (ih later) (Nat.le_max_right ..)

theorem depth_operand (operand : g ∈ f.operands) : g.depth < f.depth := by
  have below := depth_le_depthAll operand
  rw [depth_eq f]
  omega

/-- The first formula is made of the second, among others. -/
def HasOperand (f g : Formula) : Prop := g ∈ f.operands

/-- No part nests more deeply than the whole. -/
theorem depth_part (part : Relation.ReflTransGen HasOperand f g) : g.depth ≤ f.depth := by
  induction part with
  | refl => exact Nat.le_refl _
  | tail _ operand ih => exact Nat.le_trans (Nat.le_of_lt (depth_operand operand)) ih

/-- Takes the values of formulas one by one. -/
def accumulate (call : Formula → Counted Int64) (step : Int64 → Int64 → Except Fault Int64)
    (acc : Int64) :
    List Formula → Counted Int64
  | [] => pure acc
  | f :: rest => do
    let v ← call f
    let acc ← Counted.lift (step acc v)
    accumulate call step acc rest

/-- One call of the evaluation, which leaves operands to others. -/
def evalLayer (budget : Nat) (input : List Char) (call : Formula → Counted Int64) :
    Formula → Counted Int64
  | .const value => do
    Counted.tick budget 1
    pure value
  | .length => do
    Counted.tick budget 1
    pure (Int64.ofNat input.length)
  | .digitSum => do
    Counted.tick budget 1
    sumDigits budget input
  | .weightedSum weights direction fold => do
    Counted.tick budget 1
    sumWeighted budget input weights direction fold
  | .numericMod modulus => do
    Counted.tick budget 1
    remainder budget input modulus
  | .add args => do
    Counted.tick budget 1
    accumulate call addWords 0 args
  | .mul args => do
    Counted.tick budget 1
    accumulate call mulWords 1 args
  | .sub l r => do
    Counted.tick budget 1
    let a ← call l
    let b ← call r
    Counted.lift (subWords a b)
  | .mod l r => do
    Counted.tick budget 1
    let a ← call l
    let b ← call r
    Counted.lift (modWords a b)
  | .cond l c r y n => do
    Counted.tick budget 1
    let a ← call l
    let b ← call r
    if c.holds a b then call y else call n

/-- Evaluation with so many calls within one another; what lies beyond them is anything. -/
def evalWithin (beyond : Formula → Counted Int64) (budget : Nat) (input : List Char) :
    Nat → Formula → Counted Int64
  | 0, f => beyond f
  | room + 1, f => evalLayer budget input (evalWithin beyond budget input room) f

theorem evalSum_eq (budget : Nat) (input : List Char) (acc : Int64) (args : List Formula) :
    evalSum budget input acc args = accumulate (eval budget input) addWords acc args := by
  induction args generalizing acc with
  | nil => simp only [evalSum, accumulate]
  | cons f rest ih => simp only [evalSum, accumulate, ih]

theorem evalProduct_eq (budget : Nat) (input : List Char) (acc : Int64) (args : List Formula) :
    evalProduct budget input acc args = accumulate (eval budget input) mulWords acc args := by
  induction args generalizing acc with
  | nil => simp only [evalProduct, accumulate]
  | cons f rest ih => simp only [evalProduct, accumulate, ih]

/-- Evaluation is one call that leaves operands to evaluation. -/
theorem eval_eq_evalLayer (budget : Nat) (input : List Char) (f : Formula) :
    eval budget input f = evalLayer budget input (eval budget input) f := by
  cases f with
  | const | length | digitSum | weightedSum | numericMod => simp only [eval, evalLayer]
  | add args => simp only [eval, evalLayer, evalSum_eq]
  | mul args => simp only [eval, evalLayer, evalProduct_eq]
  | sub | mod | cond => simp only [eval, evalLayer]

theorem accumulate_congr {args : List Formula} (same : ∀ g ∈ args, call g = other g)
    (step : Int64 → Int64 → Except Fault Int64) (acc : Int64) :
    accumulate call step acc args = accumulate other step acc args := by
  induction args generalizing acc with
  | nil => rfl
  | cons f rest ih =>
      obtain ⟨first, more⟩ := List.forall_mem_cons.mp same
      simp only [accumulate, first, ih more]

/-- One call leaves nothing but operands to others. -/
theorem evalLayer_congr (same : ∀ g ∈ f.operands, call g = other g) :
    evalLayer budget input call f = evalLayer budget input other f := by
  cases f with
  | const | length | digitSum | weightedSum | numericMod => rfl
  | add args | mul args =>
      have terms (step : Int64 → Int64 → Except Fault Int64) (acc : Int64) :
          accumulate call step acc args = accumulate other step acc args :=
            accumulate_congr same step acc
      simp only [evalLayer, terms]
  | sub l r | mod l r =>
      obtain ⟨left, right⟩ : call l = other l ∧ call r = other r := by simpa [operands] using same
      simp only [evalLayer, left, right]
  | cond l c r y n =>
      obtain ⟨left, right, yes, no⟩ :
          call l = other l ∧ call r = other r ∧ call y = other y ∧ call n = other n := by
            simpa [operands] using same
      simp only [evalLayer, left, right, yes, no]

/-- As many calls within one another as a formula nests are enough. -/
theorem evalWithin_eq (shallow : f.depth ≤ room) :
    evalWithin beyond budget input room f = eval budget input f := by
  induction room generalizing f with
  | zero =>
      have := f.depth_pos
      omega
  | succ room ih =>
      rw [evalWithin, eval_eq_evalLayer]
      refine evalLayer_congr fun g operand => ih ?_
      have := depth_operand operand
      omega

end Formula

namespace Definition

variable {d : Definition} {j : Json}

theorem parse_written (d : Definition) (written : d.toJson.Rearranged j) :
    parse j = if d.formula.depth ≤ 32 then .ok d else .error (.tooDeep d.formula.depth) := by
  rw [parse, d.read_written written]
  rfl

theorem depth_of_parse (accepted : parse j = .ok d) : d.formula.depth ≤ 32 := by
  unfold parse at accepted
  split at accepted
  · contradiction
  · split at accepted
    · cases accepted
      assumption
    · contradiction

/-- A definition is read back, in whatever order members stand, unless it nests more than 32 levels
deep; then it is told how deep it nests. No part of an accepted one nests more deeply than that, and
evaluation never needs more calls within one another. -/
theorem definition_read_back :
    (∀ (d : Definition) j, d.toJson.Rearranged j →
      parse j = if d.formula.depth ≤ 32 then .ok d else .error (.tooDeep d.formula.depth)) ∧
    (∀ d : Definition, d.toJson.Rearranged d.toJson ∧
      d.toJson.Rearranged (Document.ofJson d.toJson).value) ∧
    (∀ depth, (Fault.tooDeep depth).describe =
      ("TooDeep", some ("校验表达式嵌套过深: " ++ toString depth ++ " > 32"))) ∧
    (∀ budget input f, Formula.eval budget input f =
      Formula.evalLayer budget input (Formula.eval budget input) f) ∧
    ∀ j d, parse j = .ok d →
      (∀ g, Relation.ReflTransGen Formula.HasOperand d.formula g → g.depth ≤ 32) ∧
      ∀ beyond budget input,
        Formula.evalWithin beyond budget input 32 d.formula =
          Formula.eval budget input d.formula := by
  refine ⟨?_, ?_, ?_, Formula.eval_eq_evalLayer, ?_⟩
  · intro d j written
    exact d.parse_written written
  · intro d
    constructor
    · exact Json.rearranged_refl d.toJson
    · exact Json.rearranged_canonical d.settled_toJson
  · intro depth
    have number : toString Formula.maxDepth = "32" := rfl
    have bound : " > " ++ "32" = " > 32" := rfl
    simp only [Fault.describe, number, String.append_assoc, bound]
  · intro j d accepted
    have shallow := depth_of_parse accepted
    constructor
    · intro g part
      exact Nat.le_trans (Formula.depth_part part) shallow
    · intro beyond budget input
      exact Formula.evalWithin_eq shallow

/-- A sum of one sum of one sum, and so on. -/
def tower : Nat → Formula
  | 0 => .length
  | n + 1 => .add [tower n]

theorem depth_tower (n : Nat) : (tower n).depth = n + 1 := by
  induction n with
  | zero => simp only [tower, Formula.depth]
  | succ n ih =>
      simp only [tower, Formula.depth, Formula.depthAll, ih]
      omega

/-- The last tower that is accepted, and the first that is not. -/
theorem definition_read_back_tower :
    parse (⟨tower 31, some 2, .empty⟩ : Definition).toJson = .ok ⟨tower 31, some 2, .empty⟩ ∧
      parse (⟨tower 32, some 2, .empty⟩ : Definition).toJson = .error (.tooDeep 33) ∧
      Formula.evalWithin (fun _ => Formula.Counted.lift (.error .overflow)) 100 [] 32 (tower 31) =
        Formula.eval 100 [] (tower 31) := by
  obtain ⟨read, back, -, -, within⟩ := definition_read_back
  have accepted := read ⟨tower 31, some 2, .empty⟩ _ (back _).1
  have refused := read ⟨tower 32, some 2, .empty⟩ _ (back _).1
  rw [depth_tower] at accepted refused
  exact ⟨accepted, refused, (within _ _ accepted).2 _ 100 []⟩

end Definition

end Voucher.CheckDigit
