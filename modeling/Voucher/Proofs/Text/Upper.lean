import Voucher.Proofs.Text.Ascii

/-! Upper-case forms are never empty, so a text whose characters are some of another's has a shorter
one. They have no small ASCII letters, and the case of an ASCII letter is not seen in them. -/
namespace Voucher.Text

variable {cs xs ys : List Char} {c : Char}

theorem upperChar_ascii (ascii : c.toNat < 128) : upperChar c = [c.toUpper] := by
  rw [upperChar, if_pos ascii, asciiUpper_eq]

theorem upperChar_toUpper (c : Char) : upperChar c.toUpper = upperChar c := by
  by_cases ascii : c.toNat < 128
  · have narrow : c.toUpper.toNat < 128 := by
      rw [toNat_toUpper]
      split <;> omega
    rw [upperChar_ascii ascii, upperChar_ascii narrow, toUpper_toUpper]
  · rw [toUpper_wide ascii]

theorem upperChars_map_toUpper (cs : List Char) :
    upperChars (cs.map Char.toUpper) = upperChars cs := by
  rw [upperChars, List.flatMap_map, upperChars]
  simp only [upperChar_toUpper]

theorem upperChars_ascii (ascii : ∀ c ∈ cs, c.toNat < 128) :
    upperChars cs = cs.map Char.toUpper := by
  induction cs with
  | nil => rfl
  | cons c cs ih =>
      have rest := ih fun d member => ascii d (List.mem_cons_of_mem c member)
      rw [upperChars, List.flatMap_cons, upperChar_ascii (ascii c List.mem_cons_self),
        ← upperChars, rest]
      rfl

theorem upperWide_cases (c : Char) :
    (∃ codes, (c.toNat, codes) ∈ upperSpecial ∧ upperWide c = codes.map Char.ofNat) ∨
      (∃ run ∈ upperRuns, run.lo ≤ c.toNat ∧ c.toNat ≤ run.hi ∧
        upperWide c = [Char.ofNat (c.toNat + run.shift).toNat]) ∨ upperWide c = [c] := by
  unfold upperWide
  cases special : upperSpecial.lookup c.toNat with
  | some codes =>
      obtain ⟨before, after, listed, -⟩ := List.lookup_eq_some_iff.mp special
      exact .inl ⟨codes, by simp [listed], rfl⟩
  | none =>
      cases found : upperRuns.find? (·.contains c.toNat) with
      | none => exact .inr (.inr rfl)
      | some run =>
          have range := List.find?_some found
          simp only [UpperRun.contains, Bool.and_eq_true, decide_eq_true_eq] at range
          exact .inr (.inl ⟨run, List.mem_of_find?_eq_some found, range.1.1, range.1.2, rfl⟩)

theorem upperChar_ne_nil (c : Char) : upperChar c ≠ [] := by
  rw [upperChar]
  split
  · simp
  · obtain ⟨codes, listed, upper⟩ | ⟨run, -, -, -, upper⟩ | upper := upperWide_cases c
    · have written : (upperSpecial.all fun e => !e.2.isEmpty) = true := by decide
      have some := List.all_eq_true.mp written _ listed
      rw [upper]
      simpa using some
    · simp [upper]
    · simp [upper]

/-- Leaving out characters leaves a shorter upper-case form. -/
theorem length_upperChars_lt (sublist : xs.Sublist ys) (fewer : xs.length < ys.length) :
    (upperChars xs).length < (upperChars ys).length := by
  have dropped : (upperChars xs).length + ys.length ≤ (upperChars ys).length + xs.length := by
    clear fewer
    induction sublist with
    | slnil => exact Nat.le_refl _
    | cons c _ ih =>
        have written := List.length_pos_iff.mpr (upperChar_ne_nil c)
        simp only [upperChars, List.flatMap_cons, List.length_append, List.length_cons] at ih ⊢
        omega
    | cons_cons c _ ih =>
        simp only [upperChars, List.flatMap_cons, List.length_append, List.length_cons] at ih ⊢
        omega
  omega

theorem isLower_ofNat {n : Nat} (apart : n < 97 ∨ 122 < n) : (Char.ofNat n).isLower = false := by
  by_cases valid : n.isValidChar
  · rw [← Bool.not_eq_true, isLower_iff, toNat_ofNat valid]
    omega
  · rw [Char.ofNat, dif_neg valid]
    decide

/-- An upper-case form has no small ASCII letter. -/
theorem isLower_upperChars {d : Char} (member : d ∈ upperChars cs) : d.isLower = false := by
  obtain ⟨c, -, written⟩ := List.mem_flatMap.mp member
  rw [upperChar] at written
  split at written
  · rw [asciiUpper_eq, List.mem_singleton] at written
    rw [written]
    exact isLower_toUpper c
  · rename_i wide
    obtain ⟨codes, listed, upper⟩ | ⟨run, listed, low, high, upper⟩ | upper := upperWide_cases c
    · have apart : (upperSpecial.all fun e => e.2.all fun n => decide (n < 97 ∨ 122 < n)) =
          true := by
        decide
      rw [upper] at written
      obtain ⟨n, code, rfl⟩ := List.mem_map.mp written
      have entry := List.all_eq_true.mp apart _ listed
      exact isLower_ofNat (of_decide_eq_true (List.all_eq_true.mp entry n code))
    · have apart : (upperRuns.all fun r => decide (r.hi + r.shift < 97 ∨ 122 < r.lo + r.shift)) =
          true := by
        decide
      rw [upper, List.mem_singleton] at written
      have run := of_decide_eq_true (List.all_eq_true.mp apart run listed)
      rw [written]
      exact isLower_ofNat (by omega)
    · rw [upper, List.mem_singleton] at written
      rw [written, ← Bool.not_eq_true, isLower_iff]
      omega

end Voucher.Text
