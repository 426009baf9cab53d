import Voucher.Proofs.Text.Ascii
import Voucher.Text.Digit

/-! Numerals are read back: the digits of a number write it, and they are taken off the front of a
text up to the first character that is no digit. -/
namespace Voucher.Text

theorem ten_pos : 0 < 10 := by decide

theorem mod_ten_lt (n : Nat) : n % 10 < 10 := Nat.mod_lt n ten_pos

theorem digit?_eq_some_iff {c : Char} {d : Fin 10} : digit? c = some d ↔ c = digitChar d := by
  constructor
  · intro found
    unfold digit? at found
    split at found
    · obtain rfl := Option.some.inj found
      rename_i range
      have number : 48 + (c.toNat - 48) = c.toNat := by omega
      rw [digitChar, number, Char.ofNat_toNat]
    · contradiction
  · rintro rfl
    exact digit?_digitChar d

theorem digitChar_inj (a b : Fin 10) (same : digitChar a = digitChar b) : a = b := by
  have read := digit?_eq_some_iff.mpr same
  rw [digit?_digitChar] at read
  exact Option.some.inj read

theorem toNat_digitChar (d : Fin 10) : (digitChar d).toNat - '0'.toNat = d.val := by
  revert d
  decide

theorem isDigit_digitChar (d : Fin 10) : (digitChar d).isDigit = true := by
  revert d
  decide

theorem digit?_isDigit {c : Char} (digit : c.isDigit = true) : ∃ d, digit? c = some d := by
  obtain ⟨low, high⟩ := isDigit_iff.mp digit
  exact ⟨_, dif_pos ⟨low, Nat.lt_succ_of_le high⟩⟩

theorem exists_digits {cs : List Char} (numeric : ∀ c ∈ cs, c.isDigit = true) :
    ∃ ds : List (Fin 10), cs = ds.map digitChar := by
  induction cs with
  | nil => exact ⟨[], rfl⟩
  | cons c cs ih =>
      obtain ⟨ds, rfl⟩ := ih fun e member => numeric e (List.mem_cons_of_mem c member)
      obtain ⟨d, found⟩ := digit?_isDigit (numeric c List.mem_cons_self)
      obtain rfl := digit?_eq_some_iff.mp found
      exact ⟨d :: ds, rfl⟩

theorem digits?_eq_some_iff {cs : List Char} {ds : List (Fin 10)} :
    digits? cs = some ds ↔ cs = ds.map digitChar := by
  unfold digits?
  induction cs generalizing ds with
  | nil => cases ds <;> simp
  | cons c cs ih =>
      constructor
      · intro read
        rw [List.mapM_cons] at read
        obtain ⟨d, first, read⟩ := Option.bind_eq_some_iff.mp read
        obtain ⟨more, rest, same⟩ := Option.bind_eq_some_iff.mp read
        obtain rfl := Option.some.inj same
        rw [digit?_eq_some_iff.mp first, ih.mp rest, List.map_cons]
      · intro written
        obtain ⟨d, more, rfl, rfl, rest⟩ := List.map_eq_cons_iff.mp written.symm
        rw [List.mapM_cons, digit?_digitChar, ih.mpr rest.symm]
        rfl

/-- The number that digits write is the number that their characters do. -/
theorem ofDigitChars_map (ds : List (Fin 10)) :
    Nat.ofDigitChars 10 (ds.map digitChar) 0 = numeral ds := by
  rw [Nat.ofDigitChars_eq_foldl, List.foldl_map, numeral]
  congr
  funext n d
  rw [toNat_digitChar, Nat.mul_comm]

/-- The decimal digits of a number, without leading zeros. -/
def digits (n : Nat) : List (Fin 10) :=
  if h : n < 10 then [⟨n, h⟩] else digits (n / 10) ++ [⟨n % 10, mod_ten_lt n⟩]

theorem digitChar_eq (d : Fin 10) : Nat.digitChar d.val = digitChar d := by
  revert d
  decide

theorem decimal_eq (n : Nat) : decimal n = (digits n).map digitChar := by
  unfold decimal
  induction n using digits.induct with
  | case1 n small =>
      rw [digits, dif_pos small, Nat.toDigits_of_lt_base small]
      exact congrArg ([·]) (digitChar_eq ⟨n, small⟩)
  | case2 n large ih =>
      rw [digits, dif_neg large, Nat.toDigits_of_base_le
        (by decide) (by omega), ih, List.map_append]
      exact congrArg (_ ++ [·]) (digitChar_eq ⟨n % 10, mod_ten_lt n⟩)

theorem numeral_append (ds : List (Fin 10)) (d : Fin 10) :
    numeral (ds ++ [d]) = numeral ds * 10 + d.val := by
  simp [numeral]

@[simp] theorem numeral_digits (n : Nat) : numeral (digits n) = n := by
  induction n using digits.induct with
  | case1 n small => simp [digits, small, numeral]
  | case2 n large ih =>
      rw [digits, dif_neg large, numeral_append, ih]
      exact Nat.div_add_mod' n 10

theorem digits_ne_nil (n : Nat) : digits n ≠ [] := by
  rw [digits]
  split <;> simp

/-- Only zero starts with the digit zero, which is then its only one. -/
theorem digits_zero_cons {n : Nat} (zero : digits n = 0 :: ds) : ds = [] := by
  induction n using digits.induct generalizing ds with
  | case1 n small =>
      rw [digits, dif_pos small] at zero
      exact (List.cons.inj zero).2.symm
  | case2 n large ih =>
      rw [digits, dif_neg large] at zero
      obtain ⟨d, more, first⟩ := List.exists_cons_of_ne_nil (digits_ne_nil (n / 10))
      rw [first, List.cons_append] at zero
      obtain rfl := (List.cons.inj zero).1
      have nothing := ih first
      have value := numeral_digits (n / 10)
      rw [first, nothing] at value
      have : numeral [0] = 0 := rfl
      omega

/-- A text does not go on with a digit. -/
def Undigited (rest : List Char) : Prop := ∀ c ∈ rest.head?, digit? c = none

theorem takeDigits_append (ds : List (Fin 10)) {rest : List Char} (stops : Undigited rest) :
    takeDigits (ds.map digitChar ++ rest) = (ds, rest) := by
  induction ds with
  | nil =>
      cases rest with
      | nil => rfl
      | cons c rest =>
          have none : digit? c = none := stops c rfl
          simp [takeDigits, none]
  | cons d ds ih => simp [takeDigits, digit?_digitChar, ih]

end Voucher.Text
