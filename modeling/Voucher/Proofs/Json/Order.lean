import Mathlib.Data.List.Perm.Basic
import Voucher.Json.Document
import Voucher.Proofs.Keyed

/-! JSON values that differ in the order of members only, and canonical values as a case of this. -/
namespace Voucher.Json

mutual

/-- The same value with the members of every object in any order. -/
def Rearranged : Json → Json → Prop
  | .arr items, j => ∃ others, j = .arr others ∧ RearrangedItems items others
  | .obj members, j =>
      ∃ others written, j = .obj written ∧ RearrangedMembers members others ∧ written.Perm others
  | .null, j => j = .null
  | .bool b, j => j = .bool b
  | .int i, j => j = .int i
  | .float d, j => j = .float d
  | .str s, j => j = .str s

def RearrangedItems : List Json → List Json → Prop
  | [], js => js = []
  | item :: rest, js =>
      ∃ j others, js = j :: others ∧ Rearranged item j ∧ RearrangedItems rest others

def RearrangedMembers : List (String × Json) → List (String × Json) → Prop
  | [], ms => ms = []
  | (key, value) :: rest, ms =>
    ∃ j others, ms = (key, j) :: others ∧ Rearranged value j ∧ RearrangedMembers rest others

end

mutual

/-- No object writes a key twice, and integers fit into 64 bits. -/
def Settled : Json → Prop
  | .int i => FitsWord i
  | .arr items => SettledItems items
  | .obj members => (members.map Prod.fst).Nodup ∧ SettledMembers members
  | .null | .bool _ | .float _ | .str _ => True

def SettledItems : List Json → Prop
  | [] => True
  | item :: rest => item.Settled ∧ SettledItems rest

def SettledMembers : List (String × Json) → Prop
  | [] => True
  | (_, value) :: rest => value.Settled ∧ SettledMembers rest

end

mutual

theorem rearranged_refl : ∀ j : Json, j.Rearranged j
  | .arr items => ⟨items, rfl, rearrangedItems_refl items⟩
  | .obj members => ⟨members, members, rfl, rearrangedMembers_refl members, .refl _⟩
  | .null | .bool _ | .int _ | .float _ | .str _ => rfl

theorem rearrangedItems_refl : ∀ items : List Json, RearrangedItems items items
  | [] => rfl
  | item :: rest => ⟨item, rest, rfl, rearranged_refl item, rearrangedItems_refl rest⟩

theorem rearrangedMembers_refl : ∀ members : List (String × Json), RearrangedMembers members members
  | [] => rfl
  | (_, value) :: rest => ⟨value, rest, rfl, rearranged_refl value, rearrangedMembers_refl rest⟩

end

theorem RearrangedMembers.keys {members others : List (String × Json)}
    (same : RearrangedMembers members others) :
    others.map Prod.fst = members.map Prod.fst := by
  induction members generalizing others with
  | nil =>
      obtain rfl := same
      rfl
  | cons m rest ih =>
      obtain ⟨j, others, rfl, -, same⟩ := same
      rw [List.map_cons, List.map_cons, ih same]

theorem putMember_perm {α : Type} {key : String} {members : List (String × α)}
    (new : key ∉ members.map Prod.fst)
    (value : α) : (putMember key value members).Perm ((key, value) :: members) := by
  induction members with
  | nil => rfl
  | cons m rest ih =>
      obtain ⟨k, v⟩ := m
      obtain ⟨apart, later⟩ : key ≠ k ∧ key ∉ rest.map Prod.fst := by simpa using new
      rw [putMember, if_neg apart]
      split
      · rfl
      · exact ((ih later).cons (k, v)).trans (.swap ..)

theorem canonicalMembers_perm (members sorted : List (String × Json))
    (distinct : ((members ++ sorted).map Prod.fst).Nodup) :
    (canonicalMembers members sorted).Perm
      (members.map (fun m => (m.1, m.2.canonical)) ++ sorted) := by
  induction members generalizing sorted with
  | nil =>
      rw [canonicalMembers]
      rfl
  | cons m rest ih =>
      obtain ⟨key, value⟩ := m
      obtain ⟨new, others⟩ := List.nodup_cons.mp distinct
      have put :=
        putMember_perm
          (fun there => new (by simp [there]) : key ∉ sorted.map Prod.fst) value.canonical
      have moved : (rest ++ putMember key value.canonical sorted).Perm
          ((key, value.canonical) :: (rest ++ sorted)) :=
        (put.append_left rest).trans List.perm_middle
      have next := ih (putMember key value.canonical sorted)
        ((moved.map Prod.fst).nodup_iff.mpr distinct)
      rw [canonicalMembers]
      exact next.trans ((put.append_left _).trans List.perm_middle)

mutual

/-- The canonical value only differs in the order of members. -/
theorem rearranged_canonical : ∀ {j : Json}, j.Settled → j.Rearranged j.canonical
  | .int i, fits => by
      rw [canonical, ofInt, if_pos (show FitsWord i from fits)]
      rfl
  | .arr items, settled => by
      rw [canonical]
      exact ⟨_, rfl, rearrangedItems_canonical settled⟩
  | .obj members, ⟨distinct, settled⟩ => by
      rw [canonical]
      refine ⟨_, _, rfl, rearrangedMembers_canonical settled, ?_⟩
      simpa using canonicalMembers_perm members [] (by simpa using distinct)
  | .null, _ | .bool _, _ | .float _, _ | .str _, _ => by
      rw [canonical]
      rfl

theorem rearrangedItems_canonical : ∀ {items : List Json}, SettledItems items →
    RearrangedItems items (canonicalItems items)
  | [], _ => by
      rw [canonicalItems]
      rfl
  | _ :: _, ⟨first, more⟩ => by
      rw [canonicalItems]
      exact ⟨_, _, rfl, rearranged_canonical first, rearrangedItems_canonical more⟩

theorem rearrangedMembers_canonical : ∀ {members : List (String × Json)}, SettledMembers members →
    RearrangedMembers members (members.map fun m => (m.1, m.2.canonical))
  | [], _ => rfl
  | _ :: _, ⟨first, more⟩ =>
      ⟨_, _, rfl, rearranged_canonical first, rearrangedMembers_canonical more⟩

end

end Voucher.Json
