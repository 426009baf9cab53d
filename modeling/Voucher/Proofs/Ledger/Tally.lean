import Mathlib.Algebra.BigOperators.Group.List.Basic
import Mathlib.Algebra.Ring.Int.Defs
import Mathlib.Data.Finset.Card
import Voucher.Ledger.Store
import Voucher.Proofs.Keyed

/-! What counting the elements of a list comes to: each element is there once, with the number of
its occurrences. -/
namespace Voucher.Ledger.Store

variable {α : Type} [DecidableEq α] {xs : List α} {counts : List (α × Nat)} {a b : α} {n : Nat}

theorem lookup_bump (a b : α) (counts : List (α × Nat)) :
    (bump a counts).lookup b =
      if b = a then some ((counts.lookup a).getD 0 + 1) else counts.lookup b := by
  induction counts with
  | nil =>
      by_cases same : b = a
      · simp [bump, same]
      · rw [bump, Keyed.lookup_cons_ne same, if_neg same]
  | cons p rest ih =>
      obtain ⟨c, n⟩ := p
      rw [bump]
      by_cases head : c = a
      · subst head
        by_cases same : b = c
        · simp [same]
        · rw [if_pos rfl, if_neg same, Keyed.lookup_cons_ne same, Keyed.lookup_cons_ne same]
      · rw [if_neg head, Keyed.lookup_cons_ne (Ne.symm head)]
        by_cases same : b = c
        · simp [same, head]
        · rw [Keyed.lookup_cons_ne same, Keyed.lookup_cons_ne same, ih]

theorem map_bump (a : α) (counts : List (α × Nat)) :
    (bump a counts).map (·.1) =
      if a ∈ counts.map (·.1) then counts.map (·.1) else counts.map (·.1) ++ [a] := by
  induction counts with
  | nil => rfl
  | cons p rest ih =>
      obtain ⟨c, n⟩ := p
      rw [bump]
      by_cases head : c = a
      · simp [head]
      · by_cases later : a ∈ rest.map (·.1)
        · simp only [head, if_false, List.map_cons, ih, later, if_true, List.mem_cons, or_true]
        · simp only [head, if_false, List.map_cons, ih, later, List.mem_cons, Ne.symm head, or_self,
            List.cons_append]

theorem nodup_tally (xs : List α) : ((tally xs).map (·.1)).Nodup := by
  induction xs with
  | nil => exact List.nodup_nil
  | cons a rest ih =>
      rw [tally, map_bump]
      split
      · exact ih
      · rename_i new
        refine List.nodup_append.mpr ⟨ih, List.nodup_singleton a, ?_⟩
        rintro b listed _ own rfl
        obtain rfl := List.mem_singleton.mp own
        exact new listed

theorem countP_pos_iff_mem : 0 < xs.countP (fun x => x = a) ↔ a ∈ xs := by
  simp [List.countP_pos_iff]

theorem lookup_tally (xs : List α) (a : α) :
    (tally xs).lookup a = if a ∈ xs then some (xs.countP fun x => x = a) else none := by
  induction xs with
  | nil => rfl
  | cons b rest ih =>
      rw [tally, lookup_bump]
      by_cases same : a = b
      · subst same
        by_cases again : a ∈ rest
        · simp [ih, again]
        · have none : rest.countP (fun x => x = a) = 0 :=
            Nat.eq_zero_of_not_pos fun positive => again (countP_pos_iff_mem.mp positive)
          simp [ih, again, none]
      · simp [ih, same, Ne.symm same]

/-- An element is listed with the number of its occurrences, if there are any. -/
theorem mem_tally : (a, n) ∈ tally xs ↔ xs.countP (fun x => x = a) = n ∧ 0 < n := by
  rw [← Keyed.lookup_eq_some_iff (nodup_tally xs), lookup_tally]
  split
  · rename_i there
    have positive := countP_pos_iff_mem.mpr there
    rw [Option.some.injEq]
    exact ⟨fun same => ⟨same, same ▸ positive⟩, And.left⟩
  · rename_i absent
    simp only [reduceCtorEq, false_iff]
    rintro ⟨rfl, positive⟩
    exact absent (countP_pos_iff_mem.mp positive)

/-- No occurrence is lost. -/
theorem sum_tally (xs : List α) : ((tally xs).map fun t => (t.2 : Int)).sum = xs.length := by
  have bumped (a : α) (counts : List (α × Nat)) :
      ((bump a counts).map fun t => (t.2 : Int)).sum =
        (counts.map fun t => (t.2 : Int)).sum + 1 := by
    induction counts with
    | nil => rfl
    | cons p rest ih =>
        rw [bump]
        split
        · simp only [List.map_cons, List.sum_cons]
          omega
        · simp only [List.map_cons, List.sum_cons, ih]
          omega
  induction xs with
  | nil => rfl
  | cons a rest ih => rw [tally, bumped, ih, List.length_cons, Int.natCast_succ]

theorem length_tally (xs : List α) : (tally xs).length = xs.toFinset.card := by
  have same : ((tally xs).map (·.1)).toFinset = xs.toFinset := by
    ext a
    simp [mem_tally]
  rw [← same, List.toFinset_card_of_nodup (nodup_tally xs), List.length_map]

end Voucher.Ledger.Store
