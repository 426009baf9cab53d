import Voucher.Json.Record
import Voucher.Proofs.Instant.Text
import Voucher.Proofs.Json.Parser
import Voucher.Proofs.Uuid

/-! What is written of a field is read back, whatever the field holds; of a free-form document only
the explicit null is not told from no document. -/
namespace Voucher

namespace Json

variable {α : Type} {members sorted : List (String × Json)}

theorem putMember_last {key : String} {members : List (String × α)} (value : α)
    (below : ∀ k ∈ members.map Prod.fst, k < key) :
    putMember key value members = members ++ [(key, value)] := by
  induction members with
  | nil => rfl
  | cons m rest ih =>
      have first : m.1 < key := below m.1 (by simp)
      have lower : ¬ key < m.1 := fun above => String.lt_irrefl key (String.lt_trans above first)
      have different : key ≠ m.1 := fun same => String.lt_irrefl key (same ▸ first)
      rw [putMember, if_neg lower, if_neg different,
        ih fun k later => below k (by simp at later ⊢; grind)]
      rfl

mutual

/-- A canonical value is left as it is. -/
theorem canonical_eq : ∀ {j : Json}, j.Canonical → j.canonical = j
  | .int i, fits => if_pos (show FitsWord i from fits)
  | .arr items, canonical => by
      rw [Json.canonical, canonicalItems_eq canonical]
  | .obj members, ⟨sorted, canonical⟩ => by
      rw [Json.canonical, canonicalMembers_eq (show SortedKeys ([] ++ members) from sorted)
        canonical]
      rfl
  | .null, _ | .bool _, _ | .float _, _ | .str _, _ => by rw [Json.canonical]

theorem canonicalItems_eq :
    ∀ {items : List Json}, CanonicalItems items → canonicalItems items = items
  | [], _ => by rw [canonicalItems]
  | item :: rest, ⟨first, more⟩ => by
      rw [canonicalItems, canonical_eq first, canonicalItems_eq more]

theorem canonicalMembers_eq :
    ∀ {members sorted : List (String × Json)}, SortedKeys (sorted ++ members) →
    CanonicalMembers members → canonicalMembers members sorted = sorted ++ members
  | [], sorted, _, _ => by rw [canonicalMembers, List.append_nil]
  | (key, value) :: rest, sorted, ascending, ⟨first, more⟩ => by
      have below : ∀ k ∈ sorted.map Prod.fst, k < key := by
        intro k before
        rw [SortedKeys, List.map_append, List.pairwise_append] at ascending
        exact ascending.2.2 k before key (by simp)
      have next : sorted ++ [(key, value)] ++ rest = sorted ++ (key, value) :: rest := by simp
      rw [canonicalMembers, canonical_eq first, putMember_last value below,
        canonicalMembers_eq (next ▸ ascending) more, next]

end

end Json

namespace Document

@[simp] theorem ofJson_value (d : Document) : ofJson d.value = d :=
  ext (Json.canonical_eq d.canonical)

/-- What is left of a document field in which null is not told from nothing. -/
def unlessNull : Option Document → Option Document
  | some ⟨.null, _⟩ => none
  | d => d

end Document

namespace Json

open Record (nullable)

variable {α : Type} {read : Json → Option α} {write : α → Json}

@[simp] theorem readUInt64?_ofUInt64 (n : UInt64) : readUInt64? (ofUInt64 n) = some n := by
  have fits : n.toNat < 18446744073709551616 := n.toNat_lt
  simp [readUInt64?, readNat?, ofUInt64, fits]

@[simp] theorem readInt64?_ofInt64 (i : Int64) : readInt64? (ofInt64 i) = some i := by
  have least := i.le_toInt
  have greatest := i.toInt_lt
  have holds : Word.Holds64 i.toInt := by
    unfold Word.Holds64
    omega
  simp [readInt64?, ofInt64, holds]

@[simp] theorem readInt32?_ofInt32 (i : Int32) : readInt32? (ofInt32 i) = some i := by
  have least := i.le_toInt
  have greatest := i.toInt_lt
  have holds : Word.Holds32 i.toInt := by
    unfold Word.Holds32
    omega
  simp [readInt32?, ofInt32, holds]

@[simp] theorem readUuid?_ofUuid (u : Uuid) : readUuid? (ofUuid u) = some u := by
  simp [readUuid?, ofUuid, asString?]

theorem readInstant?_ofInstant {t : Instant} (valid : t.Valid) :
    readInstant? (ofInstant t) = some t := by
  simp [readInstant?, ofInstant, asString?, Instant.ofString?_text valid]

@[simp] theorem readDocument?_ofDocument (d : Document) :
    readDocument? (ofDocument d) = some d := by
  simp [readDocument?, ofDocument]

@[simp] theorem asString?_str (s : String) : asString? (.str s) = some s := rfl

@[simp] theorem asBool?_bool (b : Bool) : asBool? (.bool b) = some b := rfl

/-- A value that is not written as null is read back where null may stand for it. -/
theorem nullable_write {a : α} (back : read (write a) = some a) (some : write a ≠ .null) :
    nullable read (write a) = Option.some (Option.some a) := by
  unfold nullable
  split
  · contradiction
  · rw [back]
    rfl

theorem nullable_ofOption {o : Option α} (back : ∀ a ∈ o, read (write a) = some a)
    (some : ∀ a, write a ≠ .null) : nullable read (ofOption write o) = Option.some o := by
  cases o with
  | none => rfl
  | some a => exact nullable_write (back a rfl) (some a)

@[simp] theorem nullable_ofStringOption (s : Option String) :
    nullable asString? (ofStringOption s) = some s := nullable_ofOption (fun _ _ => rfl) (by simp)

@[simp] theorem nullable_ofInt32 (i : Option Int32) :
    nullable readInt32? (ofOption ofInt32 i) = some i :=
  nullable_ofOption (fun _ _ => readInt32?_ofInt32 _) (by simp [ofInt32])

theorem nullable_ofInstant {t : Option Instant} (valid : ∀ a ∈ t, a.Valid) :
    nullable readInstant? (ofOption ofInstant t) = some t :=
  nullable_ofOption (fun a held => readInstant?_ofInstant (valid a held)) (by simp [ofInstant])

@[simp] theorem nullable_ofDocument (d : Option Document) :
    nullable readDocument? (ofOption ofDocument d) = some (Document.unlessNull d) := by
  match d with
  | none => rfl
  | some ⟨.null, _⟩ => rfl
  | some ⟨.bool _, _⟩ | some ⟨.int _, _⟩ | some ⟨.float _, _⟩ | some ⟨.str _, _⟩ | some ⟨.arr _, _⟩
  | some ⟨.obj _, _⟩ => exact nullable_write (readDocument?_ofDocument _) (by simp [ofDocument])

theorem readList?_map {β : Type} {read : Json → Option β} {back : α → β} {as : List α}
    (each : ∀ a ∈ as, read (write a) = some (back a)) :
    readList? read (.arr (as.map write)) = some (as.map back) := by
  simp only [readList?, asItems?, Option.bind_some]
  induction as with
  | nil => rfl
  | cons a as ih =>
      have first := each a (by simp)
      have more := ih fun a later => each a (by simp [later])
      simp [first, more]

theorem readList?_map_self {as : List α} (each : ∀ a ∈ as, read (write a) = some a) :
    readList? read (.arr (as.map write)) = some as := by
  simpa using readList?_map each

@[simp] theorem readStrings?_ofStrings (ss : List String) : readStrings? (ofStrings ss) = some ss :=
  readList?_map_self fun _ _ => rfl

theorem plainItems_iff {items : List Json} : PlainItems items ↔ ∀ j ∈ items, j.Plain := by
  induction items with
  | nil => simp [PlainItems]
  | cons item rest ih => simp [PlainItems, ih]

theorem plainMembers_iff {members : List (String × Json)} :
    PlainMembers members ↔ ∀ m ∈ members, m.2.Plain := by
  induction members with
  | nil => simp [PlainMembers]
  | cons m rest ih => simp [PlainMembers, ih]

theorem plain_arr_map {as : List α} (plain : ∀ a ∈ as, (write a).Plain) :
    (arr (as.map write)).Plain := by
  simpa [Plain, plainItems_iff] using plain

theorem plain_ofOption {o : Option α} (write : α → Json) (plain : ∀ a ∈ o, (write a).Plain) :
    (ofOption write o).Plain := by
  cases o with
  | none => trivial
  | some a => exact plain a rfl

@[simp] theorem plain_str (s : String) : (str s).Plain := trivial

@[simp] theorem plain_ofUuid (u : Uuid) : (ofUuid u).Plain := trivial

@[simp] theorem plain_ofInstant (t : Instant) : (ofInstant t).Plain := trivial

@[simp] theorem plain_ofStrings (ss : List String) : (ofStrings ss).Plain :=
  plain_arr_map fun s _ => plain_str s

@[simp] theorem plain_ofStringOption (s : Option String) : (ofStringOption s).Plain :=
  plain_ofOption _ fun s _ => plain_str s

@[simp] theorem plain_ofUInt64 (n : UInt64) : (ofUInt64 n).Plain := by
  have := n.toNat_lt
  unfold ofUInt64 Plain FitsWord
  omega

@[simp] theorem plain_ofInt64 (i : Int64) : (ofInt64 i).Plain := by
  have least := i.le_toInt
  have greatest := i.toInt_lt
  unfold ofInt64 Plain FitsWord
  omega

@[simp] theorem plain_ofInt32 (i : Int32) : (ofInt32 i).Plain := by
  have least := i.le_toInt
  have greatest := i.toInt_lt
  unfold ofInt32 Plain FitsWord
  omega

end Json

/-- The members of an object. -/
def Json.memberList : Json → List (String × Json)
  | .obj members => members
  | _ => []

namespace Record

variable {members : List (String × Json)}

theorem length_valuesOf_le_one (distinct : (members.map Prod.fst).Nodup) (name : String) :
    (Json.valuesOf name members).length ≤ 1 := by
  induction members with
  | nil => simp [Json.valuesOf]
  | cons m rest ih =>
      obtain ⟨absent, distinct⟩ := List.nodup_cons.mp distinct
      by_cases same : m.1 = name
      · have others : Json.valuesOf name rest = [] := by
          rw [Json.valuesOf, List.filterMap_eq_nil_iff]
          intro other later
          have different : other.1 ≠ name := by
            rintro rfl
            exact absent (same ▸ List.mem_map_of_mem later)
          rw [if_neg different]
        unfold Json.valuesOf at others
        simp [Json.valuesOf, same, others]
      · have rest := ih distinct
        unfold Json.valuesOf at rest
        simpa [Json.valuesOf, same] using rest

/-- An object that writes no key twice is a record. -/
theorem ofJson?_obj (distinct : (members.map Prod.fst).Nodup) (names : List String) :
    ofJson? names (.obj members) = some ⟨members, false⟩ := by
  rw [ofJson?, if_pos]
  simpa using fun name _ => length_valuesOf_le_one distinct name

theorem ofObject?_obj (distinct : (members.map Prod.fst).Nodup) (names : List String) :
    ofObject? names (.obj members) = some ⟨members, false⟩ := ofJson?_obj distinct names

/-- In a record that writes no key twice every member is found. -/
theorem get?_of_mem {name : String} {value : Json} {positional : Bool}
    (distinct : (members.map Prod.fst).Nodup)
    (held : (name, value) ∈ members) : (⟨members, positional⟩ : Record).get? name = some value := by
  induction members with
  | nil => contradiction
  | cons m rest ih =>
      obtain ⟨absent, distinct⟩ := List.nodup_cons.mp distinct
      obtain rfl | later := List.mem_cons.mp held
      · simp [get?]
      · have different : name ≠ m.1 := by
          rintro rfl
          exact absent (List.mem_map.mpr ⟨_, later, rfl⟩)
        rw [get?, List.lookup_cons, beq_eq_false_iff_ne.mpr different]
        exact ih distinct later

/-- What a record that is written as an object says of its fields. -/
theorem ofJson?_written (j : Json) (names : List String) (object : j = .obj j.memberList)
    (keys : j.memberList.map Prod.fst = names) (distinct : names.Nodup) :
    ∃ f, ofJson? names j = some f ∧ ∀ (place : Nat) (name : String) (value : Json),
      j.memberList[place]? = some (name, value) → f.get? name = some value := by
  subst keys
  refine ⟨⟨j.memberList, false⟩, ?_, fun place name value held =>
    get?_of_mem distinct (List.mem_of_getElem? held)⟩
  rw [object]
  exact ofJson?_obj distinct _

theorem lookup_member {β : Type} (name other : String) (b : β) (rest : List (String × β)) :
    ((name, b) :: rest).lookup other = if other = name then some b else rest.lookup other := by
  by_cases same : other = name
  · simp [same]
  · simp [List.lookup_cons, same, beq_eq_false_iff_ne.mpr same]

variable {α : Type} {r : Record} {name : String} {value : Json} {read : Json → Option α}

theorem required_eq {a : α} (held : r.get? name = some value) (back : read value = some a) :
    r.required name read = some a := by
  rw [required, held, Option.bind_some, back]

theorem orDefault_eq {default a : α} (held : r.get? name = some value)
    (back : read value = some a) :
    r.orDefault name default read = some a := by
  simp only [orDefault, held, back]

theorem omissible_eq {a : Option α} (held : r.get? name = some value)
    (back : nullable read value = some a) :
    r.omissible name read = some a := orDefault_eq held back

theorem optional_eq {a : Option α} (held : r.get? name = some value)
    (back : nullable read value = some a) :
    r.optional name read = some a := by
  simp only [optional, held, back]

end Record

end Voucher
