import Mathlib.Algebra.Group.Nat.Defs
import Voucher.Uuid

/-! Identifiers are the numbers that they are ordered by. The text of an identifier is read back, so
different identifiers have different texts. -/
namespace Voucher.Uuid

theorem toNat_inj {a b : Uuid} : a.toNat = b.toNat ↔ a = b := by
  refine ⟨fun same => ?_, congrArg toNat⟩
  cases a
  cases b
  exact congrArg mk (BitVec.eq_of_toNat_eq same)

theorem length_hexDigits (n v : Nat) : (hexDigits n v).length = n := by
  induction n generalizing v with
  | zero => rfl
  | succ n ih => rw [hexDigits, List.length_append, ih, List.length_singleton]

theorem hexValue?_digitChar (n : Fin 16) :
    Json.Parser.hexValue? (Nat.digitChar n.val) = some n.val := by
  revert n
  decide

theorem hexNumeral?_hexDigits (n v : Nat) : hexNumeral? (hexDigits n v) = some (v % 16 ^ n) := by
  induction n generalizing v with
  | zero => simp [hexDigits, hexNumeral?, Nat.mod_one]
  | succ n ih =>
      have last := hexValue?_digitChar ⟨v % 16, by omega⟩
      have before := ih (v / 16)
      unfold hexNumeral? at before ⊢
      rw [hexDigits, List.foldlM_append, before]
      simp only [Option.bind_eq_bind, Option.bind_some, List.foldlM_cons, List.foldlM_nil, last,
        Option.map_some, Option.pure_def]
      rw [Nat.pow_succ', Nat.mod_mul, Nat.mul_comm, Nat.add_comm]

/-- Hyphens between groups of the right lengths are dropped. -/
theorem ungroup?_groups {a b c d e : List Char} (ha : a.length = 8) (hb : b.length = 4)
    (hc : c.length = 4) (hd : d.length = 4) (he : e.length = 12) :
    ungroup? (a ++ '-' :: (b ++ '-' :: (c ++ '-' :: (d ++ '-' :: e)))) =
      some (a ++ b ++ c ++ d ++ e) := by
  simp [ungroup?, List.drop_append, List.drop_eq_nil_of_le, ha, hb, hc, hd, he]

theorem ofChars?_chars (u : Uuid) : ofChars? u.chars = some u := by
  have all : u.digits.length = 32 := length_hexDigits 32 _
  have grouped : ungroup? u.chars = some u.digits := by
    have read := ungroup?_groups (a := u.digits.take 8) (b := (u.digits.drop 8).take 4)
      (c := (u.digits.drop 12).take 4) (d := (u.digits.drop 16).take 4) (e := u.digits.drop 20)
      (by simp [all]) (by simp [all]) (by simp [all]) (by simp [all]) (by simp [all])
    rw [chars, read, ← List.take_add, ← List.take_add, ← List.take_add, List.take_append_drop]
  have length : u.chars.length = 36 := by simp [chars, all]
  have number : hexNumeral? u.digits = some u.toNat := by
    rw [digits, hexNumeral?_hexDigits]
    exact congrArg some (Nat.mod_eq_of_lt u.bits.isLt)
  rw [ofChars?, if_neg (by omega), if_pos length, ofGrouped?, grouped]
  simp [number, ofNat, toNat]

@[simp] theorem ofString?_text (u : Uuid) : ofString? u.text = some u := by
  rw [ofString?, text, String.toList_ofList, ofChars?_chars]

theorem text_inj {a b : Uuid} (same : a.text = b.text) : a = b := by
  have read := ofString?_text a
  rw [same, ofString?_text] at read
  exact (Option.some.inj read).symm

end Voucher.Uuid
