import Voucher.CheckDigit.Formula.Eval
import Voucher.Proofs.Text.Ascii
import Voucher.Proofs.Text.Digit

/-! Formulas over unbounded integers: the same order of evaluation, but no word that could
overflow and no budget. What is computed on the way is kept, so that it can be asked
whether it would fit a word. -/
namespace Voucher.CheckDigit

/-- How two integers compare. -/
def Comparison.Relates (c : Comparison) (a b : Int) : Prop :=
  match c with
  | eq => a = b
  | ne => a ≠ b
  | lt => a < b
  | le => a ≤ b
  | gt => b < a
  | ge => b ≤ a

instance (c : Comparison) (a b : Int) : Decidable (c.Relates a b) :=
  match c with
  | .eq => inferInstanceAs (Decidable (a = b))
  | .ne => inferInstanceAs (Decidable (a ≠ b))
  | .lt => inferInstanceAs (Decidable (a < b))
  | .le => inferInstanceAs (Decidable (a ≤ b))
  | .gt => inferInstanceAs (Decidable (b < a))
  | .ge => inferInstanceAs (Decidable (b ≤ a))

namespace Direction

/-- The place of a position, counted from the end at which the weights start. -/
def place (d : Direction) (length position : Nat) : Nat :=
  match d with
  | .leftToRight => position
  | .rightToLeft => length - 1 - position

def arrange {α : Type} (d : Direction) (terms : List α) : List α :=
  match d with
  | .leftToRight => terms
  | .rightToLeft => terms.reverse

end Direction

namespace Formula

/-- Why a formula has no value, however large the numbers may grow. -/
inductive Objection where
  | noWeights
  | unsupported (position : Nat) (c : Char)
  | divisionByZero
  deriving DecidableEq

namespace Objection

def fault : Objection → Fault
  | noWeights => .noWeights
  | unsupported position c => .unsupported position c
  | divisionByZero => .divisionByZero

/-- A sign that is objected to is no letter and no digit, and stands where the objection says. -/
def Names (input : List Char) : Objection → Prop
  | unsupported position c => input[position]? = some c ∧ c.isAlphanum = false
  | noWeights | divisionByZero => True

end Objection

/-- What words may fail to compute: a sum, product or difference, or the remainder of `a` by `b`. -/
inductive Step where
  | gives (i : Int)
  | divides (a b : Int)
  deriving DecidableEq

def Step.Fits : Step → Prop
  | gives i => Word.Holds64 i
  | divides a b => ¬ (a = -9223372036854775808 ∧ b = -1)

/-- An exact computation: its steps in their order, and what comes of it. -/
structure Exact (α : Type) where
  steps : List Step
  outcome : Except Objection α

namespace Exact

variable {α β : Type}

def ok (a : α) : Exact α := ⟨[], .ok a⟩

def object (o : Objection) : Exact α := ⟨[], .error o⟩

def andThen (m : Exact α) (k : α → Exact β) : Exact β :=
  match m.outcome with
  | .ok a => ⟨m.steps ++ (k a).steps, (k a).outcome⟩
  | .error o => ⟨m.steps, .error o⟩

instance : Monad Exact where
  pure := ok
  bind := andThen

def give (i : Int) : Exact Int := ⟨[.gives i], .ok i⟩

/-- The remainder that is not negative. -/
def divide (a b : Int) : Exact Int :=
  if b = 0 then object .divisionByZero else ⟨[.divides a b], .ok (a % b)⟩

/-- Takes terms into a sum or a product, one by one. -/
def accumulate (op : Int → Int → Int) (acc : Int) : List (Exact Int) → Exact Int
  | [] => pure acc
  | term :: rest => do
    let v ← term
    let acc ← give (op acc v)
    accumulate op acc rest

end Exact

open Exact

/-- The signs that formulas read. The value of a sign is its place. -/
def signs : List Char := "0123456789ABCDEFGHIJKLMNOPQRSTUVWXYZ".toList

def value? (c : Char) : Option Nat := signs.idxOf? c.toUpper

def read (position : Nat) (c : Char) : Exact Int :=
  match value? c with
  | some v => pure v
  | none => object (.unsupported position c)

/-- The decimal digits of a text, in which a letter writes two. -/
def spell (position : Nat) : List Char → Exact (List (Fin 10))
  | [] => pure []
  | c :: rest =>
    match value? c with
    | some v => do
      let ds ← spell (position + 1) rest
      pure (Text.digits v ++ ds)
    | none => object (.unsupported position c)

/-- A sign's value times the weight of its place, less nine if that is asked for above nine. -/
def weigh (weights : List Int64) (direction : Direction) (fold : Bool) (length position : Nat)
    (c : Char) :
    Exact Int := do
  let v ← read position c
  let weight := (weights[direction.place length position % weights.length]?).getD 0
  let p ← give (v * weight.toInt)
  pure (if fold = true ∧ 9 < p then p - 9 else p)

mutual

/-- The exact value of a formula on an input. -/
def exact (input : List Char) : Formula → Exact Int
  | .const value => pure value.toInt
  | .length => pure input.length
  | .digitSum => accumulate (· + ·) 0 (input.zipIdx.map fun p => read p.2 p.1)
  | .weightedSum weights direction fold =>
    if weights = [] then object .noWeights
    else accumulate (· + ·) 0 (direction.arrange
      (input.zipIdx.map fun p => weigh weights direction fold input.length p.2 p.1))
  | .numericMod modulus =>
    if modulus.toInt ≤ 0 then object .divisionByZero
    else do
      let ds ← spell 0 input
      pure (Text.numeral ds % modulus.toInt)
  | .add args => accumulate (· + ·) 0 (exactAll input args)
  | .mul args => accumulate (· * ·) 1 (exactAll input args)
  | .sub l r => do
    let a ← exact input l
    let b ← exact input r
    give (a - b)
  | .mod l r => do
    let a ← exact input l
    let b ← exact input r
    divide a b
  | .cond l c r y n => do
    let a ← exact input l
    let b ← exact input r
    if c.Relates a b then exact input y else exact input n

def exactAll (input : List Char) : List Formula → List (Exact Int)
  | [] => []
  | f :: rest => exact input f :: exactAll input rest

end

theorem charValue?_wide {c : Char} (wide : ¬ c.toNat < 128) : charValue? c = none := by
  have lower : Text.isAsciiLower c = false := by simp [Text.isAsciiLower, Text.le_iff_toNat]; omega
  have upper : Text.isAsciiUpper c = false := by simp [Text.isAsciiUpper, Text.le_iff_toNat]; omega
  have digit : Text.isAsciiDigit c = false := by simp [Text.isAsciiDigit, Text.le_iff_toNat]; omega
  simp [charValue?, Text.asciiUpper, lower, upper, digit]

theorem value?_wide {c : Char} (wide : ¬ c.toNat < 128) : value? c = none := by
  have narrow : (signs.all fun sign => decide (sign.toNat < 128)) = true := by decide
  rw [value?, Text.toUpper_wide wide, List.idxOf?_eq_none_iff]
  intro member
  exact wide (of_decide_eq_true (List.all_eq_true.mp narrow c member))

theorem charValue?_eq (c : Char) : charValue? c = value? c := by
  by_cases ascii : c.toNat < 128
  · exact Text.of_ascii (fun c => charValue? c = value? c) (by decide +kernel) ascii
  · rw [charValue?_wide ascii, value?_wide ascii]

/-- A remainder by a word of 64 bits has room for one more sign. -/
theorem appendValue_eq {modulus r v : Nat} (holds : Word.Holds64 modulus) (left : r < modulus)
    (sign : v < 36) : appendValue modulus r v = ((r * scale v + v) % modulus : Nat) := by
  have small : r * scale v < 1000000000000000000000 := by
    unfold scale
    split <;> omega
  have exactly (n : Nat) (room : n < 1000000000000000000036) : Word.wrap128 n = n :=
    Word.wrap128_eq (by omega) (by unfold Word.max128; omega)
  rw [appendValue, ← Int.natCast_mul, exactly _ (by omega), ← Int.natCast_add, exactly _ (by omega),
    Int.tmod_eq_emod_of_nonneg (by omega), Int.natCast_emod]

theorem isAlphanum_ascii {c : Char} (alphanumeric : c.isAlphanum = true) : c.toNat < 128 := by
  have narrow : ∀ last : Char, c ≤ last → last.toNat < 128 → c.toNat < 128 := by
    intro last below
    exact Nat.lt_of_le_of_lt (UInt32.le_iff_toNat_le.mp below)
  rcases Bool.or_eq_true_iff.mp alphanumeric with letter | digit
  · rcases Bool.or_eq_true_iff.mp letter with upper | lower
    · exact narrow 'Z' (of_decide_eq_true upper).2 (by decide)
    · exact narrow 'z' (of_decide_eq_true (Bool.and_eq_true_iff.mp lower).2) (by decide)
  · exact narrow '9' (of_decide_eq_true (Bool.and_eq_true_iff.mp digit).2) (by decide)

theorem value?_none {c : Char} (none : value? c = none) : c.isAlphanum = false := by
  rw [← charValue?_eq] at none
  by_cases ascii : c.toNat < 128
  · exact Text.of_ascii (fun c => charValue? c = .none → c.isAlphanum = false)
      (by decide +kernel) ascii none
  · rw [← Bool.not_eq_true]
    exact fun alphanumeric => ascii (isAlphanum_ascii alphanumeric)

theorem value?_lt {c : Char} (some : value? c = some v) : v < 36 := by
  obtain ⟨below, -⟩ := List.idxOf?_eq_some_iff.mp some
  exact below

namespace Exact

variable {α β : Type} {P : Objection → Prop}

theorem bind_ok {m : Exact α} {k : α → Exact β} (done : m.outcome = .ok a) :
    m >>= k = ⟨m.steps ++ (k a).steps, (k a).outcome⟩ := by
  show andThen m k = _
  rw [andThen, done]

theorem bind_error {m : Exact α} {k : α → Exact β} (failed : m.outcome = .error o) :
    m >>= k = ⟨m.steps, .error o⟩ := by
  show andThen m k = _
  rw [andThen, failed]

theorem mem_steps_bind {m : Exact α} (k : α → Exact β) (member : s ∈ m.steps) :
    s ∈ (m >>= k).steps := by
  cases outcome : m.outcome with
  | error o => rwa [bind_error outcome]
  | ok a =>
      rw [bind_ok outcome]
      exact List.mem_append_left _ member

/-- Whatever is objected to has a property. -/
def Objects (P : Objection → Prop) (m : Exact α) : Prop := ∀ o, m.outcome = .error o → P o

theorem objects_pure (a : α) : (pure a : Exact α).Objects P := nofun

theorem objects_give (i : Int) : (give i).Objects P := nofun

theorem objects_object {o : Objection} (holds : P o) : (object o : Exact α).Objects P := by
  intro other same
  rwa [← Except.error.inj same]

theorem Objects.bind {m : Exact α} {k : α → Exact β} (first : m.Objects P)
    (rest : ∀ a, (k a).Objects P) :
    (m >>= k).Objects P := by
  intro o failed
  cases outcome : m.outcome with
  | error other =>
      rw [bind_error outcome] at failed
      obtain rfl := Except.error.inj failed
      exact first other outcome
  | ok a =>
      rw [bind_ok outcome] at failed
      exact rest a o failed

theorem objects_divide {a b : Int} (zero : P .divisionByZero) : (divide a b).Objects P := by
  unfold divide
  split
  · exact objects_object zero
  · exact nofun

theorem objects_accumulate {terms : List (Exact Int)} {op : Int → Int → Int} {acc : Int}
    (all : ∀ term ∈ terms, term.Objects P) : (accumulate op acc terms).Objects P := by
  induction terms generalizing acc with
  | nil => exact objects_pure acc
  | cons term rest ih =>
      refine (all term List.mem_cons_self).bind fun v => Objects.bind (objects_give _) fun acc => ?_
      exact ih fun term member => all term (List.mem_cons_of_mem _ member)

end Exact

theorem objects_read {input : List Char} {position : Nat} {c : Char}
    (placed : input[position]? = some c) :
    (read position c).Objects (Objection.Names input) := by
  unfold read
  split
  · exact objects_pure _
  · rename_i none
    exact objects_object ⟨placed, value?_none none⟩

theorem objects_weigh {input : List Char} {length position : Nat} {c : Char}
    (placed : input[position]? = some c) :
    (weigh weights direction fold length position c).Objects (Objection.Names input) :=
  (objects_read placed).bind fun _ => (objects_give _).bind fun _ => objects_pure _

theorem objects_spell {input rest : List Char} (placed : input.drop position = rest) :
    (spell position rest).Objects (Objection.Names input) := by
  induction rest generalizing position with
  | nil => exact objects_pure []
  | cons c rest ih =>
      have here : input[position]? = some c := by
        rw [← List.head?_drop, placed]
        rfl
      have behind : input.drop (position + 1) = rest := by
        rw [← List.tail_drop, placed]
        rfl
      unfold spell
      split
      · exact (ih behind).bind fun _ => objects_pure _
      · rename_i none
        exact objects_object ⟨here, value?_none none⟩

theorem placed_zipIdx {input : List Char} {p : Char × Nat} (member : p ∈ input.zipIdx) :
    input[p.2]? = some p.1 := List.mk_mem_zipIdx_iff_getElem?.mp member

mutual

theorem objects_exact (input : List Char) (f : Formula) :
    (exact input f).Objects (Objection.Names input) := by
  match f with
  | .const _ | .length =>
      simp only [exact]
      exact objects_pure _
  | .digitSum =>
      simp only [exact]
      apply objects_accumulate
      simp only [List.mem_map]
      rintro term ⟨p, member, rfl⟩
      exact objects_read (placed_zipIdx member)
  | .weightedSum weights direction fold =>
      simp only [exact]
      split
      · exact objects_object trivial
      · apply objects_accumulate
        intro term member
        have listed : term ∈ input.zipIdx.map fun p =>
            weigh weights direction fold input.length p.2 p.1 := by
          cases direction with
          | leftToRight => exact member
          | rightToLeft => exact List.mem_reverse.mp member
        obtain ⟨p, placed, rfl⟩ := List.mem_map.mp listed
        exact objects_weigh (placed_zipIdx placed)
  | .numericMod modulus =>
      simp only [exact]
      split
      · exact objects_object trivial
      · exact (objects_spell List.drop_zero).bind fun _ => objects_pure _
  | .add args | .mul args =>
      simp only [exact]
      exact objects_accumulate (objects_exactAll input args)
  | .sub l r =>
      simp only [exact]
      exact (objects_exact input l).bind fun _ => (objects_exact input r).bind fun _ =>
        objects_give _
  | .mod l r =>
      simp only [exact]
      exact (objects_exact input l).bind fun _ => (objects_exact input r).bind fun _ =>
        objects_divide trivial
  | .cond l c r y n =>
      simp only [exact]
      apply (objects_exact input l).bind
      intro a
      apply (objects_exact input r).bind
      intro b
      split
      · exact objects_exact input y
      · exact objects_exact input n

theorem objects_exactAll (input : List Char) (args : List Formula) :
    ∀ term ∈ exactAll input args, term.Objects (Objection.Names input) := by
  match args with
  | [] => exact nofun
  | f :: rest =>
      simp only [exactAll]
      exact List.forall_mem_cons.mpr ⟨objects_exact input f, objects_exactAll input rest⟩

end

end Formula

end Voucher.CheckDigit
