import Voucher.Match.Fields

/-! A payload that splits is cut into consecutive slices, one for each segment in its place. -/
namespace Voucher

/-- The exact sum of the segment lengths. -/
def Layout.total (l : Layout) : Nat := l.segments.foldr (fun s n => s.length.toNat + n) 0

@[simp] theorem Layout.total_cons (s : Segment) (rest : List Segment) :
    (⟨s :: rest⟩ : Layout).total = s.length.toNat + (⟨rest⟩ : Layout).total := rfl

namespace Segment

/-- The characters at a segment's own place, behind the segments before it. -/
def slice (payload : List Char) (before : List Segment) (s : Segment) : List Char :=
  (payload.drop (⟨before⟩ : Layout).total).take s.length.toNat

end Segment

namespace Fields

/-- The slices of a payload from an offset on. -/
def slices (payload : List Char) (offset : Nat) : List Segment → List (String × List Char)
  | [] => []
  | s :: rest =>
      (s.name, (payload.drop offset).take s.length.toNat) ::
        slices payload (offset + s.length.toNat) rest

theorem stop?_eq_some_iff {offset stop : UInt64} : stop? payload offset s = some stop ↔
    stop.toNat = offset.toNat + s.length.toNat ∧ stop.toNat ≤ payload.length := by
  rw [stop?, Option.filter_eq_some_iff, Word.add?_eq_some_iff, decide_eq_true_eq]

theorem splitFrom_ok {offset : UInt64} {found : List (String × List Char)}
    (split : splitFrom payload offset segments = .ok found) :
    found = slices payload offset.toNat segments := by
  induction segments generalizing offset found with
  | nil => exact (Except.ok.inj split).symm
  | cons s rest ih =>
      rw [splitFrom] at split
      split at split
      · contradiction
      · rename_i stop fits
        simp only at split
        split at split
        · contradiction
        · split at split
          · rename_i behind
            rw [slices, ← (stop?_eq_some_iff.mp fits).1, ← ih behind]
            exact (Except.ok.inj split).symm
          · contradiction

theorem slices_append (payload : List Char) (offset : Nat) (first rest : List Segment) :
    slices payload offset (first ++ rest) =
      slices payload offset first ++ slices payload (offset + (⟨first⟩ : Layout).total) rest := by
  induction first generalizing offset with
  | nil => rfl
  | cons s more ih =>
      rw [List.cons_append, slices, ih, slices, List.cons_append, Layout.total_cons, Nat.add_assoc]

theorem slices_name (payload : List Char) (offset : Nat) (segments : List Segment) :
    (slices payload offset segments).map Prod.fst = segments.map (·.name) := by
  induction segments generalizing offset with
  | nil => rfl
  | cons s rest ih => rw [slices, List.map_cons, ih, List.map_cons]

end Fields

theorem Layout.split_ok {l : Layout} {fields : Fields} (split : l.split payload = .ok fields) :
    fields.entries = Fields.slices payload 0 l.segments := by
  unfold Layout.split at split
  cases entries : Fields.splitFrom payload 0 l.segments with
  | error fault => simp [entries] at split
  | ok found =>
      rw [entries] at split
      obtain rfl := Except.ok.inj split
      exact Fields.splitFrom_ok entries

/-- Under the name of a segment stands the segment's own slice, unless an
earlier one has the name. -/
theorem Layout.split_get? {l : Layout} {fields : Fields} (split : l.split payload = .ok fields)
    (placed : l.segments = before ++ s :: after) (first : ∀ x ∈ before, x.name ≠ s.name) :
    fields.get? s.name = some (s.slice payload before) := by
  have missing : (Fields.slices payload 0 before).lookup s.name = none := by
    rw [List.lookup_eq_none_iff]
    intro p member
    have named : p.1 ∈ before.map (·.name) := by
      rw [← Fields.slices_name payload 0]
      exact List.mem_map_of_mem member
    obtain ⟨x, earlier, same⟩ := List.mem_map.mp named
    simpa [← same] using (first x earlier).symm
  rw [Fields.get?, Layout.split_ok split, placed, Fields.slices_append, List.lookup_append, missing,
    Fields.slices, List.lookup_cons_self, Option.none_or, Nat.zero_add]
  rfl

/-- Every segment of a layout has a value under its name, its own or that of an earlier one. -/
theorem Layout.split_isSome {l : Layout} {fields : Fields} (split : l.split payload = .ok fields)
    (member : s ∈ l.segments) : (fields.get? s.name).isSome := by
  have named : s.name ∈ fields.entries.map Prod.fst := by
    rw [Layout.split_ok split, Fields.slices_name]
    exact List.mem_map_of_mem member
  obtain ⟨p, found, same⟩ := List.mem_map.mp named
  rw [Fields.get?, List.lookup_isSome_iff]
  exact ⟨p, found, by simp [same]⟩

end Voucher
