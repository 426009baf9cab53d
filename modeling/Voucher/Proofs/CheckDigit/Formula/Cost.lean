import Voucher.Proofs.CheckDigit.Formula.Refinement

/-! What a formula costs, from what its parts cost. A budget that covers the steps is enough for the
value, and as many steps are counted. -/
namespace Voucher.CheckDigit

namespace Formula

open Counted (maxSteps tick)

variable {α β : Type} {budget cost left right : Nat} {input : List Char} {l r : Formula}
  {a b v : Int64}

/-- The computation yields a value and takes so many steps, if the budget covers them. -/
def Pays (budget cost : Nat) (m : Counted α) (a : α) : Prop :=
  ∀ start ≤ maxSteps, start + cost ≤ budget → m start = (.ok a, min (start + cost) maxSteps)

theorem pays_tick : Pays budget cost (tick budget cost) () := by
  intro start _ covered
  exact if_neg (by omega)

theorem pays_lift {a : α} : Pays budget 0 (Counted.lift (.ok a)) a := by
  intro start room _
  rw [Nat.add_zero, Nat.min_eq_left room]
  rfl

theorem Pays.bind {m : Counted α} {k : α → Counted β} {a : α} {b : β} (first : Pays budget left m a)
    (rest : Pays budget right (k a) b) : Pays budget (left + right) (m >>= k) b := by
  intro start room covered
  have here := first start room (by omega)
  rw [Counted.bind_ok here, rest _ (Nat.min_le_right _ _) (by omega)]
  congr 1
  omega

/-- What needs no step may follow. -/
theorem Pays.lift {m : Counted α} {k : α → Counted β} {a : α} {b : β} (first : Pays budget cost m a)
    (rest : k a = Counted.lift (.ok b)) : Pays budget cost (m >>= k) b := by
  rw [← Nat.add_zero cost]
  refine first.bind ?_
  rw [rest]
  exact pays_lift

theorem pays_const : Pays budget 1 (eval budget input (.const v)) v := by
  simp only [eval]
  exact pays_tick.lift rfl

theorem Pays.sub (first : Pays budget left (eval budget input l) a)
    (second : Pays budget right (eval budget input r) b) (fits : subWords a b = .ok v) :
    Pays budget (1 + (left + right)) (eval budget input (.sub l r)) v := by
  simp only [eval]
  refine pays_tick.bind (first.bind (second.lift ?_))
  rw [fits]

theorem Pays.mod (first : Pays budget left (eval budget input l) a)
    (second : Pays budget right (eval budget input r) b) (divides : modWords a b = .ok v) :
    Pays budget (1 + (left + right)) (eval budget input (.mod l r)) v := by
  simp only [eval]
  refine pays_tick.bind (first.bind (second.lift ?_))
  rw [divides]

theorem pays_weightedSum {weights : List Int64} (some : weights ≠ [])
    (sum : weightedSumFrom weights fold 0 0 (Direction.order direction input) = .ok v) :
    Pays budget (1 + input.length) (eval budget input (.weightedSum weights direction fold)) v := by
  simp only [eval, sumWeighted, List.isEmpty_iff, some, if_false]
  refine pays_tick.bind (pays_tick.lift ?_)
  rw [sum]

theorem pays_numericMod {modulus : Int64} (positive : 0 < modulus) {n : Int}
    (left : remainderFrom modulus.toInt 0 0 input = .ok n) :
    Pays budget (1 + input.length) (eval budget input (.numericMod modulus)) (Int64.ofInt n) := by
  have large : ¬ modulus ≤ 0 := Int64.not_le.mpr positive
  simp only [eval, remainder, large, if_false]
  refine pays_tick.bind (pays_tick.lift ?_)
  rw [left]
  rfl

variable {m n : Nat}

theorem toInt_ofNat (fits : n < 9223372036854775808) : (Int64.ofNat n).toInt = n :=
  Int64.toInt_ofNat_of_lt fits

theorem word_natCast (fits : n < 9223372036854775808) : word n = .ok (Int64.ofNat n) := by
  have holds : Word.Holds64 n := ⟨by omega, by omega⟩
  rw [word, if_pos holds, Except.ok.injEq, ← Int64.toInt_inj, toInt_word holds, toInt_ofNat fits]

theorem addWords_ofNat (fits : m + n < 9223372036854775808) :
    addWords (Int64.ofNat m) (Int64.ofNat n) = .ok (Int64.ofNat (m + n)) := by
  rw [addWords,
    toInt_ofNat (by omega), toInt_ofNat (by omega), ← word_natCast fits, Int.natCast_add]

theorem subWords_ofNat (fits : m < 9223372036854775808) (less : n ≤ m) :
    subWords (Int64.ofNat m) (Int64.ofNat n) = .ok (Int64.ofNat (m - n)) := by
  rw [subWords, toInt_ofNat fits,
    toInt_ofNat (by omega), ← word_natCast (by omega), Int.natCast_sub less]

theorem mulWords_ofNat (fits : m < 9223372036854775808) (fits' : n < 9223372036854775808)
    (product : m * n < 9223372036854775808) :
    mulWords (Int64.ofNat m) (Int64.ofNat n) = .ok (Int64.ofNat (m * n)) := by
  rw [mulWords, toInt_ofNat fits, toInt_ofNat fits', ← word_natCast product, Int.natCast_mul]

theorem lt_ofNat_iff (fits : m < 9223372036854775808) (fits' : n < 9223372036854775808) :
    Int64.ofNat m < Int64.ofNat n ↔ m < n := by
  rw [Int64.lt_iff_toInt_lt, toInt_ofNat fits, toInt_ofNat fits', Int.ofNat_lt]

theorem modWords_ofNat (fits : m < 9223372036854775808) (fits' : n < 9223372036854775808)
    (positive : 0 < n) :
    modWords (Int64.ofNat m) (Int64.ofNat n) = .ok (Int64.ofNat (m % n)) := by
  have small := Nat.mod_lt m positive
  have nonzero : Int64.ofNat n ≠ 0 := by
    rw [Ne, ← Int64.toInt_inj, toInt_ofNat fits', Int64.toInt_zero]
    omega
  have other : ¬ ((Int64.ofNat m).toInt = -9223372036854775808 ∧ (Int64.ofNat n).toInt = -1) := by
    rw [toInt_ofNat fits]
    omega
  rw [modWords, if_neg nonzero, if_neg other, toInt_ofNat fits, toInt_ofNat fits',
    ← word_natCast (by omega), Int.natCast_emod]

end Formula

end Voucher.CheckDigit
