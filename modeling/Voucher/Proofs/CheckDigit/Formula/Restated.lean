import Voucher.CheckDigit.Custom
import Voucher.Proofs.CheckDigit.Formula.Cost
import Voucher.Proofs.CheckDigit.Luhn
import Voucher.Proofs.CheckDigit.Mod11
import Voucher.Proofs.CheckDigit.Mod97

/-! Built-in algorithms written as formulas. Over digits or letters a formula yields
what the algorithm does, in a number of steps that its input's length tells, as long
as the sums fit a word. -/
namespace Voucher.CheckDigit

namespace Formula

variable {f : Nat → Digit → Nat} {weights : List Int64} {fold : Bool}

/-- The weights make of each digit its term. -/
def Weighs (weights : List Int64) (fold : Bool) (f : Nat → Digit → Nat) : Prop :=
  ∀ i d, weighted fold (Int64.ofNat d.val) ((weights[i % weights.length]?).getD 0) =
    .ok (Int64.ofNat (f i d))

theorem charValue_digitChar (position : Nat) (d : Digit) :
    charValue position (Text.digitChar d) = .ok (Int64.ofNat d.val) := by
  have value : ∀ d : Digit, charValue? (Text.digitChar d) = some d.val := by decide
  rw [charValue, value]

/-- A digit times a small weight fits a word. -/
theorem weighted_digit (fold : Bool) (d : Digit) {w : Nat} (small : w < 100) :
    weighted fold (Int64.ofNat d.val) (Int64.ofNat w) =
      .ok (Int64.ofNat (if fold = true ∧ 9 < d.val * w then d.val * w - 9 else d.val * w)) := by
  have below : d.val * w < 10 * 100 := Nat.mul_lt_mul'' d.isLt small
  have fits : d.val * w < 9223372036854775808 := by omega
  rw [weighted, mulWords_ofNat (by omega) (by omega) fits]
  show (if (fold && decide (Int64.ofNat 9 < Int64.ofNat (d.val * w))) = true then
    subWords (Int64.ofNat (d.val * w)) (Int64.ofNat 9) else .ok (Int64.ofNat (d.val * w))) = _
  simp only [Bool.and_eq_true, decide_eq_true_eq,
    lt_ofNat_iff (by decide : 9 < 9223372036854775808) fits]
  split
  · rename_i above
    exact subWords_ofNat fits above.2.le
  · rfl

/-- Where the digits stand in the input makes no difference, as none is objected to. -/
theorem weightedSumFrom_digits (weighs : Weighs weights fold f) {entries : List (Char × Nat)}
    {ds : List Digit} (digits : entries.map Prod.fst = text ds) {acc place : Nat}
    (fits : acc + sumFrom f place ds < 9223372036854775808) :
    weightedSumFrom weights fold (Int64.ofNat acc) place entries =
      .ok (Int64.ofNat (acc + sumFrom f place ds)) := by
  induction ds generalizing entries acc place with
  | nil =>
      obtain rfl := List.map_eq_nil_iff.mp digits
      rfl
  | cons d ds ih =>
      obtain ⟨⟨c, position⟩, rest, rfl, rfl, more⟩ := List.map_eq_cons_iff.mp digits
      rw [sumFrom, ← Nat.add_assoc] at fits ⊢
      rw [weightedSumFrom, charValue_digitChar]
      show weighted fold _ _ >>= _ = _
      rw [weighs place d]
      show addWords _ _ >>= _ = _
      rw [addWords_ofNat (by omega)]
      exact ih more fits

theorem weightedSumFrom_text (weighs : Weighs weights fold f) {ds : List Digit}
    (fits : sumFromRight f ds < 9223372036854775808) :
    weightedSumFrom weights fold 0 0 (Direction.order .rightToLeft (text ds)) =
      .ok (Int64.ofNat (sumFromRight f ds)) := by
  have digits : (Direction.order .rightToLeft (text ds)).map Prod.fst = text ds.reverse := by
    rw [Direction.order, List.map_reverse, List.zipIdx_map_fst, text, text, List.map_reverse]
  rw [sumFromRight_eq] at fits ⊢
  have summed :
      weightedSumFrom weights fold (Int64.ofNat 0) 0 (Direction.order .rightToLeft (text ds)) =
        .ok (Int64.ofNat (0 + sumFrom f 0 ds.reverse)) :=
    weightedSumFrom_digits weighs digits (by rwa [Nat.zero_add])
  rwa [Nat.zero_add] at summed

/-- What a weighted sum from the right lacks to a multiple of `n`. -/
def complement (n : Int64) (weights : List Int64) (fold : Bool) : Formula :=
  .mod (.sub (.const n) (.mod (.weightedSum weights .rightToLeft fold) (.const n))) (.const n)

theorem pays_complement (budget : Nat) {n : Nat} (weighs : Weighs weights fold f)
    (some : weights ≠ []) (positive : 0 < n) (small : n < 9223372036854775808) {ds : List Digit}
    (fits : sumFromRight f ds < 9223372036854775808) :
    Pays budget ((text ds).length + 7)
      (eval budget (text ds) (complement (Int64.ofNat n) weights fold))
      (Int64.ofNat ((n - sumFromRight f ds % n) % n)) := by
  have below := Nat.mod_lt (sumFromRight f ds) positive
  have sum : Pays budget (1 + (text ds).length) _ _ :=
    pays_weightedSum some (weightedSumFrom_text weighs fits)
  have left := sum.mod pays_const (modWords_ofNat fits small positive)
  have lacking := pays_const.sub left (subWords_ofNat small below.le)
  have whole := lacking.mod pays_const (modWords_ofNat (by omega) small positive)
  have cost : 1 + ((1 + (1 + (1 + ((1 + (text ds).length) + 1)))) + 1) = (text ds).length + 7 := by
    omega
  rwa [cost] at whole

theorem remainderFrom_alphanumeric {x : List Char} (alphanumeric : ∀ c ∈ x, c.isAlphanum = true)
    {r : Nat} (left : r < 97) (position : Nat) :
    remainderFrom 97 r position x = .ok (x.foldl Mod97.step r : Nat) := by
  induction x generalizing r position with
  | nil => rfl
  | cons c x ih =>
      obtain ⟨v, found⟩ := Mod97.exists_value (alphanumeric c List.mem_cons_self)
      have step : appendValue 97 r v = (Mod97.step r c : Nat) := by
        rw [Mod97.step_value found]
        exact appendValue_eq (by decide) left (value?_lt found)
      have below : Mod97.step r c < 97 := by
        rw [Mod97.step_value found]
        exact Nat.mod_lt _ (by decide)
      rw [remainderFrom, charValue?_eq, found, List.foldl_cons]
      dsimp only
      rw [step]
      exact ih (fun d member => alphanumeric d (List.mem_cons_of_mem c member)) below _

theorem pays_remainder (budget : Nat) {x : List Char}
    (alphanumeric : ∀ c ∈ x, c.isAlphanum = true) :
    Pays budget (x.length + 3) (eval budget x (.sub (.const 98) (.numericMod 97)))
      (Int64.ofNat (Mod97.check x)) := by
  have below : x.foldl Mod97.step 0 < 97 := Mod97.remainder_lt x
  have left : Pays budget (1 + x.length) (eval budget x (.numericMod 97))
      (Int64.ofInt (x.foldl Mod97.step 0 : Nat)) :=
    pays_numericMod (by decide) (remainderFrom_alphanumeric alphanumeric (by decide) 0)
  rw [Int64.ofInt_eq_ofNat] at left
  have whole :=
    pays_const.sub left (subWords_ofNat (by decide : 98 < 9223372036854775808) (by omega))
  have cost : 1 + (1 + (1 + x.length)) = x.length + 3 := by omega
  rwa [cost] at whole

end Formula

namespace Definition

def luhn : Definition := ⟨Formula.complement 10 [2, 1] true, none, .empty⟩

/-- A result of ten is written X. -/
def mod11 : Definition :=
  ⟨Formula.complement 11 [2, 3, 4, 5, 6, 7] false, none, Symbols.empty.insert "10" "X"⟩

def mod97 : Definition := ⟨.sub (.const 98) (.numericMod 97), some 2, .empty⟩

theorem luhn_weighs : Formula.Weighs [2, 1] true Luhn.term := by
  intro i d
  have small := d.isLt
  show Formula.weighted true (Int64.ofNat d.val) (([2, 1] : List Int64)[i % 2]?.getD 0) = _
  rcases Nat.mod_two_eq_zero_or_one i with even | odd
  · have doubled : Luhn.term i d = if true = true ∧ 9 < d.val * 2 then d.val *
        2 - 9 else d.val * 2 := by
      simp only [Luhn.term, even, Nat.mul_comm, if_true, true_and]
    rw [even, doubled]
    exact Formula.weighted_digit true d (w := 2) (by decide)
  · have once : Luhn.term i d = if true = true ∧ 9 < d.val * 1 then d.val *
        1 - 9 else d.val * 1 := by
      rw [Luhn.term, if_neg (by omega), if_neg (by omega), Nat.mul_one]
    rw [odd, once]
    exact Formula.weighted_digit true d (w := 1) (by decide)

theorem mod11_weighs :
    Formula.Weighs [2, 3, 4, 5, 6, 7] false fun i d => d.val * Mod11.weight i := by
  intro i d
  have weight : ∀ r < 6, ([2, 3, 4, 5, 6, 7] : List Int64)[r]?.getD 0 = Int64.ofNat (2 + r) := by
    decide
  have small : Mod11.weight i < 100 := by unfold Mod11.weight; omega
  show Formula.weighted false (Int64.ofNat d.val)
    (([2, 3, 4, 5, 6, 7] : List Int64)[i % 6]?.getD 0) = _
  rw [weight _ (Nat.mod_lt i (by decide)), ← Mod11.weight]
  exact Formula.weighted_digit false d small

theorem calculate_eq {d : Definition} {budget cost : Nat} {input : List Char} {v : Int64}
    (pays : Formula.Pays budget cost (Formula.eval budget input d.formula) v)
    (covered : cost ≤ budget) :
    d.calculate budget input = d.render v := by
  rw [calculate, pays 0 (Nat.zero_le _) (by omega)]

theorem decimal_length (n : Nat) :
    n < 10 ∧ (Text.decimal n).length = 1 ∨ 10 ≤ n ∧ 2 ≤ (Text.decimal n).length := by
  rw [Text.decimal_eq, List.length_map, Text.digits]
  split
  · rename_i small
    exact .inl ⟨small, rfl⟩
  · rename_i large
    have more := List.length_pos_iff.mpr (Text.digits_ne_nil (n / 10))
    rw [List.length_append, List.length_singleton]
    omega

theorem decimalString_inj {m n : Nat} (same : Text.decimalString m = Text.decimalString n) :
    m = n := by
  have decimals : Text.decimal m = Text.decimal n := String.ofList_injective same
  rw [Text.decimal_eq, Text.decimal_eq] at decimals
  rw [← Text.numeral_digits m, text_inj decimals, Text.numeral_digits]

section Render

variable {d : Definition} {n : Nat}

theorem render_ofNat (fits : n < 9223372036854775808)
    (unmapped : d.symbols.get? (Text.decimalString n) = none)
    (narrow : (d.width.getD 1).toNat ≤ maxWidth) :
    d.render (Int64.ofNat n) =
      .ok (List.replicate ((d.width.getD 1).toNat - (Text.decimal n).length) '0' ++
        Text.decimal n) := by
  have positive : ¬ Int64.ofNat n < 0 := by
    rw [Int64.lt_iff_toInt_lt, Formula.toInt_ofNat fits, Int64.toInt_zero]
    omega
  unfold render
  rw [Formula.toInt_ofNat fits, unmapped]
  simp only [positive, Nat.not_lt.mpr narrow, if_false, Int.natAbs_natCast]

theorem render_unpadded (fits : n < 9223372036854775808)
    (unmapped : d.symbols.get? (Text.decimalString n) = none) (unset : d.width = none) :
    d.render (Int64.ofNat n) = .ok (Text.decimal n) := by
  have length := decimal_length n
  have full : 1 - (Text.decimal n).length = 0 := by omega
  rw [render_ofNat fits unmapped (by rw [unset]; decide), unset]
  show Except.ok (List.replicate (1 - (Text.decimal n).length) '0' ++ Text.decimal n) = _
  rw [full]
  rfl

theorem luhn_render (fits : n < 9223372036854775808) :
    luhn.render (Int64.ofNat n) = .ok (Text.decimal n) :=
  render_unpadded fits rfl rfl

theorem mod11_render (fits : n < 9223372036854775808) :
    mod11.render (Int64.ofNat n) = .ok (if n = 10 then ['X'] else Text.decimal n) := by
  split
  · rename_i ten
    rw [ten]
    rfl
  · rename_i other
    have unlike : (Text.decimalString n == "10") = false :=
      beq_false_of_ne fun same => other (decimalString_inj same)
    refine render_unpadded fits ?_ rfl
    show (match Text.decimalString n == "10" with | true => some "X" | false => none) = none
    rw [unlike]

theorem mod97_render (fits : n < 9223372036854775808) :
    mod97.render (Int64.ofNat n) = .ok (twoDigits n) := by
  rw [render_ofNat fits rfl (by decide), twoDigits]
  show Except.ok (List.replicate (2 - (Text.decimal n).length) '0' ++ Text.decimal n) = _
  rcases decimal_length n with ⟨small, length⟩ | ⟨large, length⟩
  · rw [length, if_pos small]
    rfl
  · rw [Nat.sub_eq_zero_of_le length, if_neg (Nat.not_lt.mpr large)]
    rfl

end Render

variable {budget : Nat} {ds : List Digit}

/-- The formula adds up in words of 64 bits. -/
theorem luhn_calculate (fits : Luhn.total (text ds) < 9223372036854775808)
    (covered : (text ds).length + 7 ≤ budget) :
    luhn.calculate budget (text ds) =
      .ok (Text.decimal ((10 - Luhn.total (text ds) % 10) % 10)) := by
  rw [Luhn.total_text] at fits ⊢
  have pays := Formula.pays_complement budget (n := 10) luhn_weighs (by decide) (by decide)
    (by decide) fits
  rw [calculate_eq pays covered]
  exact luhn_render (by omega)

/-- Ten is what the sum lacks if it leaves one, which has the check digit of zero. -/
theorem mod11_calculate (fits : Mod11.sum ds < 9223372036854775808)
    (covered : (text ds).length + 7 ≤ budget) :
    mod11.calculate budget (text ds) =
      .ok (if Mod11.sum ds % 11 = 1 then ['X'] else Text.decimal (Mod11.check ds)) := by
  have pays := Formula.pays_complement budget (n := 11) mod11_weighs
    (by decide) (by decide) (by decide) fits
  have ten : (11 - Mod11.sum ds % 11) % 11 = 10 ↔ Mod11.sum ds % 11 = 1 := by omega
  rw [calculate_eq pays covered]
  refine (mod11_render (n := (11 - Mod11.sum ds % 11) % 11) (by omega)).trans ?_
  show Except.ok (if (11 - Mod11.sum ds % 11) % 11 = 10 then ['X'] else
    Text.decimal ((11 - Mod11.sum ds % 11) % 11)) = _
  simp only [ten]
  split
  · rfl
  · have same : (11 - Mod11.sum ds % 11) % 11 = Mod11.check ds := by
      unfold Mod11.check
      split <;> omega
    rw [same]

theorem mod97_calculate {x : List Char} (alphanumeric : ∀ c ∈ x, c.isAlphanum = true)
    (covered : x.length + 3 ≤ budget) :
    mod97.calculate budget x = .ok (twoDigits (Mod97.check x)) := by
  rw [calculate_eq (Formula.pays_remainder budget alphanumeric) covered]
  exact mod97_render (by unfold Mod97.check; omega)

end Definition

/-- Three algorithms and their formulas agree on every input of digits, or of letters and digits,
whose sums fit the words in which both take them, in as many steps as the input has signs and seven
or three more. Only where the sum leaves one does the second formula write X for the zero of the
algorithm. -/
theorem formulas_restate (budget : Nat) :
    (∀ ds, Word.HoldsU32 (Luhn.total (text ds)) → (text ds).length + 7 ≤ budget →
      ∃ t, Algorithm.luhn.calculate (text ds) = .ok t ∧
        Definition.luhn.calculate budget (text ds) = .ok t) ∧
    (∀ ds, Word.Holds64 (Mod11.sum ds) → (text ds).length + 7 ≤ budget →
      ∃ t, Algorithm.mod11.calculate (text ds) = .ok t ∧
        Definition.mod11.calculate budget (text ds) =
          .ok (if Mod11.sum ds % 11 = 1 then ['X'] else t) ∧
        (Mod11.sum ds % 11 = 1 → t = ['0'])) ∧
    (∀ x, (∀ c ∈ x, c.isAlphanum = true) → x.length + 3 ≤ budget →
      ∃ t, Algorithm.mod97.calculate x = .ok t ∧ Definition.mod97.calculate budget x = .ok t) := by
  refine ⟨?_, ?_, ?_⟩
  · intro ds holds covered
    refine ⟨_, ?_, Definition.luhn_calculate (by omega) covered⟩
    rw [← Luhn.check_eq holds, Algorithm.calculate, readDigits_text]
    rfl
  · intro ds holds covered
    refine ⟨Text.decimal (Mod11.check ds), ?_, Definition.mod11_calculate (by omega) covered, ?_⟩
    · rw [Algorithm.calculate, readDigits_text]
      rfl
    · intro one
      rw [Mod11.check_eq_zero one.le]
      rfl
  · intro x alphanumeric covered
    exact ⟨_, rfl, Definition.mod97_calculate alphanumeric covered⟩

theorem luhn_total_nines (n : Nat) : Luhn.total (text (List.replicate n 9)) = 9 * n := by
  rw [Luhn.total_text]
  induction n with
  | zero => rfl
  | succ n ih =>
      have nine := Luhn.term_cases n 9
      rw [List.replicate_succ, sumFromRight_cons, ih, List.length_replicate]
      omega

theorem luhn_calculate_nines (n : Nat) : Algorithm.luhn.calculate (text (List.replicate n 9)) =
    .ok (Text.decimal ((10 - 9 * n % 4294967296 % 10) % 10)) := by
  have sum : (Luhn.sum (List.replicate n 9)).toNat = 9 * n % 4294967296 := by
    rw [Luhn.sum, wordSum_toNat, ← Luhn.total_text, luhn_total_nines]
  rw [Algorithm.calculate, readDigits_text, ← sum]
  rfl

/-- The sum of so many nines fits 64 bits, but is 5 in words of 32 bits. -/
theorem luhn_wraps_before_formula :
    Word.Holds64 (Luhn.total (text (List.replicate 477218589 9))) ∧
      Algorithm.luhn.calculate (text (List.replicate 477218589 9)) = .ok ['5'] ∧
      Definition.luhn.calculate 477218596 (text (List.replicate 477218589 9)) = .ok ['9'] := by
  have total := luhn_total_nines 477218589
  have length : (text (List.replicate 477218589 9)).length = 477218589 := by
    rw [text, List.length_map, List.length_replicate]
  refine ⟨?_, ?_, ?_⟩
  · rw [total]
    decide
  · rw [luhn_calculate_nines]
    rfl
  · rw [Definition.luhn_calculate (by rw [total]; decide) (by rw [length]), total]
    rfl

/-- Ten digits and seven steps more are enough for the 3 of 7992739871, and three digits and seven
for the X of 572; eight signs and three for the 49 of ABCD1234. -/
theorem formulas_restate_known :
    Definition.luhn.calculate 17 (text [7, 9, 9, 2, 7, 3, 9, 8, 7, 1]) = .ok ['3'] ∧
      Definition.mod11.calculate 10 (text [5, 7, 2]) = .ok ['X'] ∧
      Algorithm.mod11.calculate (text [5, 7, 2]) = .ok ['0'] ∧
      Definition.mod97.calculate 11 ['A', 'B', 'C', 'D', '1', '2', '3', '4'] = .ok ['4', '9'] := by
  obtain ⟨luhn, -, -⟩ := formulas_restate 17
  obtain ⟨-, mod11, -⟩ := formulas_restate 10
  obtain ⟨-, -, mod97⟩ := formulas_restate 11
  have three : Algorithm.luhn.calculate (text [7, 9, 9, 2, 7, 3, 9, 8, 7, 1]) = .ok ['3'] := rfl
  have pair : Algorithm.mod97.calculate ['A', 'B', 'C', 'D', '1', '2', '3', '4'] = .ok ['4', '9'] :=
    rfl
  obtain ⟨t, builtin, restated⟩ := luhn [7, 9, 9, 2, 7, 3, 9, 8, 7, 1] (by decide) (by decide)
  obtain ⟨z, zero, cross, one⟩ := mod11 [5, 7, 2] (by decide) (by decide)
  obtain ⟨p, builtin', restated'⟩ :=
    mod97 ['A', 'B', 'C', 'D', '1', '2', '3', '4'] (List.all_eq_true.mp rfl) (by decide)
  obtain rfl := Except.ok.inj (three.symm.trans builtin)
  obtain rfl := Except.ok.inj (pair.symm.trans builtin')
  obtain rfl := one rfl
  exact ⟨restated, cross, zero, restated'⟩

end Voucher.CheckDigit
