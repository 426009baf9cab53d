import Mathlib.Data.List.Induction
import Mathlib.Data.List.Nodup
import Voucher.Json.Document

/-! Lists in which no two elements share a key. Searching for a key finds the one element that has
it, and a list of pairs made of such elements is searched alike. -/
namespace Voucher.Keyed

variable {α κ β : Type} [BEq κ] [LawfulBEq κ] {key : α → κ} {l : List α}

theorem find?_eq_some_iff (distinct : (l.map key).Nodup) {k : κ} {a : α} :
    l.find? (fun x => key x == k) = some a ↔ a ∈ l ∧ key a = k := by
  constructor
  · intro found
    exact ⟨List.mem_of_find?_eq_some found, by simpa using List.find?_some found⟩
  · rintro ⟨member, rfl⟩
    cases found : l.find? fun x => key x == key a with
    | none => exact False.elim (List.find?_eq_none.mp found a member (by simp))
    | some b =>
        have same : key b = key a := by simpa using List.find?_some found
        exact congrArg
          some (List.inj_on_of_nodup_map distinct (List.mem_of_find?_eq_some found) member same)

theorem find?_eq_none_iff {k : κ} : l.find? (fun x => key x == k) = none ↔ ∀ a ∈ l, key a ≠ k := by
  simp [List.find?_eq_none]

omit [BEq κ] [LawfulBEq κ] in
/-- Keys are distinct if no element has the key of one before it. -/
theorem nodup_iff_new : (l.map key).Nodup ↔
    ∀ before a after, l = before ++ a :: after → key a ∉ before.map key := by
  constructor
  · rintro distinct before a after rfl
    rw [List.map_append, List.map_cons, List.nodup_append] at distinct
    intro member
    exact distinct.2.2 _ member _ List.mem_cons_self rfl
  · intro new
    induction l using List.reverseRecOn with
    | nil => exact List.nodup_nil
    | append_singleton l a ih =>
        have distinct := ih fun before b after placed =>
          new before b (after ++ [a]) (by rw [placed, List.append_assoc, List.cons_append])
        rw [List.map_append, List.map_singleton, List.nodup_append]
        refine ⟨distinct, List.nodup_singleton _, ?_⟩
        rintro k member _ own rfl
        obtain rfl := List.mem_singleton.mp own
        exact new l a [] rfl member

theorem length_filter_le_one (distinct : (l.map key).Nodup) (k : κ) :
    (l.filter fun x => key x == k).length ≤ 1 := by
  have count := List.nodup_iff_count_le_one.mp distinct k
  rwa [List.count, List.countP_map, List.countP_eq_length_filter] at count

theorem lookup_cons_ne {k other : κ} (ne : other ≠ k) (value : β) (l : List (κ × β)) :
    ((k, value) :: l).lookup other = l.lookup other := by
  have apart : (other == k) = false := by simpa using ne
  rw [List.lookup_cons, apart]

theorem lookup_map (key : α → κ) (value : α → β) (l : List α) (k : κ) :
    (l.map fun a => (key a, value a)).lookup k = (l.find? fun a => key a == k).map value := by
  induction l with
  | nil => rfl
  | cons a rest ih =>
      by_cases same : key a = k
      · simp [same]
      · rw [List.map_cons, lookup_cons_ne (Ne.symm same), ih,
          List.find?_cons_of_neg (by simpa using same)]

theorem lookup_eq_some_iff {l : List (κ × β)} (distinct : (l.map (·.1)).Nodup) {k : κ} {b : β} :
    l.lookup k = some b ↔ (k, b) ∈ l := by
  have searched := lookup_map (fun p : κ × β => p.1) (fun p => p.2) l k
  rw [List.map_id'' (fun _ => rfl)] at searched
  rw [searched, Option.map_eq_some_iff]
  simp only [find?_eq_some_iff distinct]
  constructor
  · rintro ⟨p, ⟨member, rfl⟩, rfl⟩
    exact member
  · intro member
    exact ⟨(k, b), ⟨member, rfl⟩, rfl⟩

theorem lookup_perm {l others : List (κ × β)} (perm : l.Perm others)
    (distinct : (others.map (·.1)).Nodup) (k : κ) :
    l.lookup k = others.lookup k := by
  ext b
  rw [lookup_eq_some_iff ((perm.map _).nodup_iff.mpr distinct), lookup_eq_some_iff distinct,
    perm.mem_iff]

/-- What is kept by its key is found as before, and nothing else is. -/
theorem lookup_filter (keep : κ → Bool) (l : List (κ × β)) (k : κ) :
    (l.filter fun p => keep p.1).lookup k = if keep k then l.lookup k else none := by
  induction l with
  | nil => simp
  | cons p rest ih =>
      obtain ⟨head, value⟩ := p
      by_cases same : k = head
      · subst same
        by_cases kept : keep k <;> simp [kept, ih]
      · have apart := lookup_cons_ne same value
        by_cases kept : keep head <;> simp [kept, apart, ih]

theorem lookup_filter_self (l : List (κ × β)) (k : κ) : (l.filter (·.1 != k)).lookup k = none :=
  (lookup_filter (· != k) l k).trans (if_neg (by simp))

theorem lookup_filter_ne (l : List (κ × β)) {k other : κ} (ne : other ≠ k) :
    (l.filter (·.1 != k)).lookup other = l.lookup other :=
  (lookup_filter (· != k) l other).trans (if_pos (by simpa using ne))

theorem lookup_putMember_self (key : String) (value : β) (l : List (String × β)) :
    (Json.putMember key value l).lookup key = some value := by
  induction l with
  | nil => simp [Json.putMember]
  | cons p rest ih =>
      obtain ⟨k, v⟩ := p
      rw [Json.putMember]
      split
      · simp
      · split
        · simp
        · rename_i differs
          have other : (key == k) = false := by simpa using differs
          rw [List.lookup_cons, other]
          exact ih

theorem lookup_putMember_ne {key other : String} (ne : other ≠ key) (value : β)
    (l : List (String × β)) :
    (Json.putMember key value l).lookup other = l.lookup other := by
  induction l with
  | nil => exact lookup_cons_ne ne value []
  | cons p rest ih =>
      obtain ⟨k, v⟩ := p
      rw [Json.putMember]
      split
      · exact lookup_cons_ne ne value _
      · split
        · rename_i same
          subst same
          rw [lookup_cons_ne ne, lookup_cons_ne ne]
        · rw [List.lookup_cons, List.lookup_cons, ih]

omit [LawfulBEq κ] in
/-- Changing elements without changing their keys changes what a search finds in the same way. -/
theorem find?_map {change : α → α} (keeps : ∀ a, key (change a) = key a) (l : List α) (k : κ) :
    (l.map change).find? (fun x => key x == k) = (l.find? fun x => key x == k).map change := by
  rw [List.find?_map]
  simp only [Function.comp_def, keeps]

omit [BEq κ] [LawfulBEq κ] in
/-- Sorting does not see the order of a list in which no two elements are of one rank. -/
theorem mergeSort_eq_of_perm {le : α → α → Bool} {xs ys : List α}
    (trans : ∀ a b c, le a b → le b c → le a c) (total : ∀ a b, (le a b || le b a) = true)
    (antisymm : ∀ a ∈ xs, ∀ b ∈ xs, le a b → le b a → a = b)
    (perm : xs.Perm ys) : xs.mergeSort le = ys.mergeSort le := by
  have sorted : (xs.mergeSort le).Perm (ys.mergeSort le) :=
    ((List.mergeSort_perm xs le).trans perm).trans (List.mergeSort_perm ys le).symm
  refine sorted.eq_of_pairwise ?_ (List.pairwise_mergeSort trans total xs)
    (List.pairwise_mergeSort trans total ys)
  intro a b left right
  exact antisymm a (List.mem_mergeSort.mp left) b (perm.mem_iff.mpr (List.mem_mergeSort.mp right))

omit [BEq κ] [LawfulBEq κ] in
/-- A list in a strict order is settled by its elements. -/
theorem eq_of_ordered {R : α → α → Prop} {xs ys : List α} (asymm : ∀ a b, R a b → ¬ R b a)
    (first : xs.Pairwise R) (second : ys.Pairwise R) (same : ∀ a, a ∈ xs ↔ a ∈ ys) : xs = ys := by
  have once {l : List α} (ordered : l.Pairwise R) : l.Nodup := by
    refine ordered.imp ?_
    rintro a _ before rfl
    exact asymm a a before before
  have perm := (List.perm_ext_iff_of_nodup (once first) (once second)).mpr same
  exact perm.eq_of_pairwise (fun a b _ _ before after => absurd after (asymm a b before))
    first second

end Voucher.Keyed
