import Voucher.Text.Search

/-! Removing a literal text takes out characters and adds none. It takes out none exactly if the
literal does not occur, and text that shares no character with it stays where it is. -/
namespace Voucher.Text

variable {literal tail cs xs ys : List Char} {sep : Char}

theorem dropLiteral?_eq_none_iff : dropLiteral? literal cs = none ↔ ¬ literal <+: cs := by
  rw [Option.eq_none_iff_forall_ne_some]
  constructor
  · rintro absent ⟨rest, found⟩
    exact absent rest (dropLiteral?_eq_some_iff.mpr found.symm)
  · intro absent rest found
    exact absent ⟨rest, (dropLiteral?_eq_some_iff.mp found).symm⟩

theorem removeAll_found (rest : List Char) :
    removeAll sep tail (sep :: tail ++ rest) = removeAll sep tail rest := by
  have found : dropLiteral? (sep :: tail) (sep :: (tail ++ rest)) = some rest :=
    dropLiteral?_eq_some_iff.mpr rfl
  rw [List.cons_append, removeAll]
  split
  · rename_i after again
    rw [Option.some.inj (again.symm.trans found)]
  · rename_i absent
    rw [absent] at found
    contradiction

theorem removeAll_kept {c : Char} {rest : List Char} (absent : ¬ sep :: tail <+: c :: rest) :
    removeAll sep tail (c :: rest) = c :: removeAll sep tail rest := by
  rw [removeAll]
  split
  · rename_i after found
    exact absurd ⟨after, (dropLiteral?_eq_some_iff.mp found).symm⟩ absent
  · rfl

/-- The text from its front on is an occurrence and what follows it, or a
character that starts none. -/
theorem removeAll_cases (sep : Char) (tail : List Char) {motive : List Char → Prop}
    (nil : motive []) (found : ∀ rest, motive rest → motive (sep :: tail ++ rest))
    (kept : ∀ c rest, ¬ sep :: tail <+: c :: rest → motive rest → motive (c :: rest))
    (cs : List Char) :
    motive cs := by
  induction cs using removeAll.induct sep tail with
  | case1 => exact nil
  | case2 c rest after occurs ih =>
      rw [dropLiteral?_eq_some_iff.mp occurs]
      exact found after ih
  | case3 c rest absent ih => exact kept c rest (dropLiteral?_eq_none_iff.mp absent) ih

theorem removeAll_sublist (sep : Char) (tail cs : List Char) :
    (removeAll sep tail cs).Sublist cs := by
  induction cs using removeAll_cases sep tail with
  | nil => simp [removeAll]
  | found rest ih =>
      rw [removeAll_found]
      exact ih.trans (List.sublist_append_right _ rest)
  | kept c rest absent ih =>
      rw [removeAll_kept absent]
      exact ih.cons_cons c

theorem length_removeAll_lt (occurs : sep :: tail <:+: cs) :
    (removeAll sep tail cs).length < cs.length := by
  induction cs using removeAll_cases sep tail with
  | nil => simp at occurs
  | found rest ih =>
      have left : (removeAll sep tail rest).length ≤ rest.length :=
        (removeAll_sublist sep tail rest).length_le
      rw [removeAll_found, List.length_append, List.length_cons]
      omega
  | kept c rest absent ih =>
      rw [removeAll_kept absent, List.length_cons, List.length_cons]
      obtain front | later := List.infix_cons_iff.mp occurs
      · exact absurd front absent
      · exact Nat.succ_lt_succ (ih later)

theorem removeAll_eq_self (absent : ¬ sep :: tail <:+: cs) : removeAll sep tail cs = cs := by
  induction cs using removeAll_cases sep tail with
  | nil => rw [removeAll]
  | found rest ih => exact absurd (List.prefix_append (sep :: tail) rest).isInfix absent
  | kept c rest elsewhere ih =>
      have behind : ¬ sep :: tail <:+: rest := fun occurs => absent (List.infix_cons occurs)
      rw [removeAll_kept elsewhere, ih behind]

/-- An occurrence does not reach into text that shares no character with it. -/
theorem prefix_of_append_apart (apart : ∀ c ∈ ys, c ∉ literal) (found : literal <+: xs ++ ys) :
    literal <+: xs := by
  obtain ⟨rest, split⟩ := found
  obtain ⟨inside, whole, -⟩ | ⟨outside, rfl, behind⟩ := List.append_eq_append_iff.mp split
  · exact ⟨inside, whole.symm⟩
  · cases outside with
    | nil => exact ⟨[], List.append_nil _ |>.trans (List.append_nil _)⟩
    | cons c more =>
        have shared : c ∈ ys := by simp [behind]
        exact absurd (by simp) (apart c shared)

theorem removeAll_append (apart : ∀ c ∈ ys, c ∉ sep :: tail) :
    removeAll sep tail (xs ++ ys) = removeAll sep tail xs ++ ys := by
  induction xs using removeAll_cases sep tail with
  | nil =>
      have absent : ¬ sep :: tail <:+: ys := fun occurs =>
        apart sep (occurs.subset List.mem_cons_self) List.mem_cons_self
      rw [List.nil_append, removeAll_eq_self absent, removeAll, List.nil_append]
  | found rest ih => rw [List.append_assoc, removeAll_found, removeAll_found, ih]
  | kept c rest absent ih =>
      have still : ¬ sep :: tail <+: c :: rest ++ ys := mt (prefix_of_append_apart apart) absent
      rw [removeAll_kept absent, List.cons_append, List.cons_append, ← ih]
      exact removeAll_kept still

theorem removeAll_map {f : Char → Char} (fixed : ∀ c ∈ sep :: tail, f c = c)
    (reached : ∀ c, f c ∈ sep :: tail → f c = c) :
    removeAll sep tail (cs.map f) = (removeAll sep tail cs).map f := by
  have literal : (sep :: tail).map f = sep :: tail :=
    (List.map_congr_left fixed).trans (List.map_id' _)
  induction cs using removeAll_cases sep tail with
  | nil => rw [removeAll, List.map_nil, removeAll]
  | found rest ih => rw [List.map_append, literal, removeAll_found, removeAll_found, ih]
  | kept c rest absent ih =>
      have still : ¬ sep :: tail <+: f c :: rest.map f := by
        rintro ⟨behind, split⟩
        rw [← List.map_cons, eq_comm, List.map_eq_append_iff] at split
        obtain ⟨front, back, whole, fronts, -⟩ := split
        have same : front = sep :: tail := by
          have kept : ∀ d ∈ front, f d = d :=
            fun d member => reached d (fronts ▸ List.mem_map_of_mem member)
          rw [← fronts, List.map_congr_left kept, List.map_id']
        exact absent ⟨back, same ▸ whole.symm⟩
      rw [List.map_cons, removeAll_kept still, removeAll_kept absent, ih, List.map_cons]

theorem remove_sublist (literal cs : List Char) : (remove literal cs).Sublist cs := by
  cases literal with
  | nil => exact List.Sublist.refl cs
  | cons sep tail => exact removeAll_sublist sep tail cs

theorem length_remove_lt (some : literal ≠ []) (occurs : literal <:+: cs) :
    (remove literal cs).length < cs.length := by
  obtain ⟨sep, tail, rfl⟩ := List.exists_cons_of_ne_nil some
  exact length_removeAll_lt occurs

/-- Nothing is removed exactly if the literal is empty or does not occur. -/
theorem remove_eq_self_iff : remove literal cs = cs ↔ (literal ≠ [] → ¬ literal <:+: cs) := by
  constructor
  · intro same some occurs
    exact absurd (length_remove_lt some occurs) (by rw [same]; exact Nat.lt_irrefl _)
  · intro absent
    cases literal with
    | nil => rfl
    | cons sep tail => exact removeAll_eq_self (absent (List.cons_ne_nil sep tail))

theorem remove_append (apart : ∀ c ∈ ys, c ∉ literal) :
    remove literal (xs ++ ys) = remove literal xs ++ ys := by
  cases literal with
  | nil => rfl
  | cons sep tail => exact removeAll_append apart

theorem remove_map {f : Char → Char} (fixed : ∀ c ∈ literal, f c = c)
    (reached : ∀ c, f c ∈ literal → f c = c) :
    remove literal (cs.map f) = (remove literal cs).map f := by
  cases literal with
  | nil => rfl
  | cons sep tail => exact removeAll_map fixed reached

theorem splitAt_ne_nil (sep : Char) (cs : List Char) : splitAt sep cs ≠ [] := by
  cases cs with
  | nil => simp [splitAt]
  | cons c rest =>
      rw [splitAt]
      split
      · simp
      · split <;> simp

/-- The pieces between separators make up the text. -/
theorem intercalate_splitAt (sep : Char) (cs : List Char) :
    [sep].intercalate (splitAt sep cs) = cs := by
  induction cs with
  | nil => rfl
  | cons c rest ih =>
      obtain ⟨piece, pieces, split⟩ := List.exists_cons_of_ne_nil (splitAt_ne_nil sep rest)
      rw [split] at ih
      rw [splitAt, split]
      by_cases same : c = sep
      · rw [if_pos same, List.intercalate_cons_cons, ih, same]
        rfl
      · simp only [if_neg same]
        rw [← ih]
        cases pieces with
        | nil => simp
        | cons next more => simp only [List.intercalate_cons_cons, List.cons_append]

end Voucher.Text
