import Voucher.Json.Number

/-!
Free-form JSON documents. `canonical` sorts the members of every object by key, keeps the last of
several members with one key, and turns integers beyond 64 bits into binary64 numbers; `Canonical`
says that nothing is left to do. A `Document` is a value in this form.
-/
namespace Voucher
namespace Json

/-- Puts a member into a sorted list of members; a member with the same key gives way. -/
def putMember {α : Type} (key : String) (value : α) : List (String × α) → List (String × α)
  | [] => [(key, value)]
  | (k, v) :: rest =>
    if key < k then (key, value) :: (k, v) :: rest
    else if key = k then (key, value) :: rest
    else (k, v) :: putMember key value rest

/-- The integers that are kept as integers. -/
def FitsWord (i : Int) : Prop := -9223372036854775808 ≤ i ∧ i < 18446744073709551616

instance (i : Int) : Decidable (FitsWord i) := inferInstanceAs (Decidable (_ ∧ _))

/-- An integer, as a binary64 number if it is beyond 64 bits. -/
def ofInt (i : Int) : Json :=
  if FitsWord i then .int i
  else
    let ds := (Text.digits? (Text.decimal i.natAbs)).getD []
    match Double.ofParts? (decide (i < 0)) (.ofDigits ds []) with
    | some d => .float d
    | none => .null

mutual

def canonical : Json → Json
  | .int i => ofInt i
  | .arr items => .arr (canonicalItems items)
  | .obj members => .obj (canonicalMembers members [])
  | .null => .null
  | .bool b => .bool b
  | .float d => .float d
  | .str s => .str s

def canonicalItems : List Json → List Json
  | [] => []
  | item :: rest => item.canonical :: canonicalItems rest

def canonicalMembers : (members sorted : List (String × Json)) → List (String × Json)
  | [], sorted => sorted
  | (key, value) :: rest, sorted => canonicalMembers rest (putMember key value.canonical sorted)

end

/-- The keys ascend strictly. -/
def SortedKeys {α : Type} (members : List (String × α)) : Prop :=
  (members.map Prod.fst).Pairwise (· < ·)

mutual

/-- In every object the keys ascend strictly, and integers fit into 64 bits. -/
def Canonical : Json → Prop
  | .int i => FitsWord i
  | .arr items => CanonicalItems items
  | .obj members => SortedKeys members ∧ CanonicalMembers members
  | .null | .bool _ | .float _ | .str _ => True

def CanonicalItems : List Json → Prop
  | [] => True
  | item :: rest => item.Canonical ∧ CanonicalItems rest

def CanonicalMembers : List (String × Json) → Prop
  | [] => True
  | (_, value) :: rest => value.Canonical ∧ CanonicalMembers rest

end

theorem mem_keys_putMember {α : Type} {key k : String} {value : α} {members : List (String × α)}
    (h : k ∈ (putMember key value members).map Prod.fst) :
    k = key ∨ k ∈ members.map Prod.fst := by
  induction members with
  | nil => simpa [putMember] using h
  | cons m rest ih =>
    obtain ⟨k', v'⟩ := m
    rw [putMember] at h
    split at h
    · simpa using h
    · split at h
      · rename_i same
        subst same
        rcases List.mem_cons.1 h with h | h
        · exact .inl h
        · exact .inr (by simp [h])
      · rcases List.mem_cons.1 h with h | h
        · exact .inr (by simp [h])
        · rcases ih h with h | h
          · exact .inl h
          · exact .inr (by simp [h])

theorem sortedKeys_putMember {α : Type} (key : String) (value : α) {members : List (String × α)}
    (sorted : SortedKeys members) : SortedKeys (putMember key value members) := by
  induction members with
  | nil => simp [putMember, SortedKeys]
  | cons m rest ih =>
    obtain ⟨k, v⟩ := m
    simp only [SortedKeys, List.map_cons, List.pairwise_cons] at sorted ih
    obtain ⟨above, tail⟩ := sorted
    rw [putMember]
    split
    · rename_i lower
      simp only [SortedKeys, List.map_cons, List.pairwise_cons, List.mem_cons]
      refine ⟨?_, above, tail⟩
      rintro k' (rfl | member)
      · exact lower
      · exact String.lt_trans lower (above k' member)
    · split
      · rename_i same
        subst same
        simp only [SortedKeys, List.map_cons, List.pairwise_cons]
        exact ⟨above, tail⟩
      · rename_i notLower different
        simp only [SortedKeys, List.map_cons, List.pairwise_cons]
        refine ⟨?_, ih tail⟩
        intro k' member
        rcases mem_keys_putMember member with rfl | member
        · rcases Classical.em (k < k') with h | h
          · exact h
          · exact absurd (String.le_antisymm (String.not_lt.1 h) (String.not_lt.1 notLower))
              different
        · exact above k' member

theorem canonicalMembers_putMember {key : String} {value : Json} {members : List (String × Json)}
    (hv : value.Canonical) (hm : CanonicalMembers members) :
    CanonicalMembers (putMember key value members) := by
  induction members with
  | nil => simp [putMember, CanonicalMembers, hv]
  | cons m rest ih =>
    obtain ⟨k, v⟩ := m
    simp only [CanonicalMembers] at hm
    rw [putMember]
    split
    · simp [CanonicalMembers, hv, hm]
    · split
      · simp [CanonicalMembers, hv, hm]
      · simp [CanonicalMembers, hm, ih hm.2]

theorem canonical_ofInt (i : Int) : (ofInt i).Canonical := by
  rw [ofInt]
  split
  · assumption
  · dsimp only
    split <;> simp [Canonical]

mutual

theorem canonical_isCanonical : ∀ j : Json, j.canonical.Canonical
  | .int i => by simpa only [canonical] using canonical_ofInt i
  | .arr items => by simpa only [canonical, Canonical] using canonicalItems_isCanonical items
  | .obj members => by
    simpa only [canonical, Canonical] using
      canonicalMembers_isCanonical members [] (by simp [SortedKeys]) (by simp [CanonicalMembers])
  | .null | .bool _ | .float _ | .str _ => by simp [canonical, Canonical]

theorem canonicalItems_isCanonical : ∀ items : List Json, CanonicalItems (canonicalItems items)
  | [] => by simp [canonicalItems, CanonicalItems]
  | item :: rest => by
    simp only [canonicalItems, CanonicalItems]
    exact ⟨canonical_isCanonical item, canonicalItems_isCanonical rest⟩

theorem canonicalMembers_isCanonical : ∀ members sorted : List (String × Json),
    SortedKeys sorted → CanonicalMembers sorted →
    SortedKeys (canonicalMembers members sorted) ∧
      CanonicalMembers (canonicalMembers members sorted)
  | [], _, hs, hc => by simpa only [canonicalMembers] using And.intro hs hc
  | (key, value) :: rest, sorted, hs, hc => by
    rw [canonicalMembers]
    exact canonicalMembers_isCanonical rest _ (sortedKeys_putMember key value.canonical hs)
      (canonicalMembers_putMember (canonical_isCanonical value) hc)

end

end Json

/-- A JSON value in canonical form. -/
structure Document where
  value : Json
  canonical : value.Canonical

namespace Document

def ofJson (j : Json) : Document := ⟨j.canonical, j.canonical_isCanonical⟩

@[ext] theorem ext {a b : Document} (h : a.value = b.value) : a = b := by
  cases a; cases b; simp_all

instance : Inhabited Document := ⟨.ofJson .null⟩

end Document

end Voucher
