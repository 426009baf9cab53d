import Voucher.CheckDigit.Custom
import Voucher.Proofs.Json.Order
import Voucher.Proofs.Json.Record

/-! What is written of a custom check digit is read back, in whatever order the members of its
objects stand. -/
namespace Voucher.CheckDigit

open Json (Rearranged RearrangedItems RearrangedMembers)

theorem Direction.ofJson?_name (d : Direction) : Direction.ofJson? (.str d.name) = some d := by
  cases d <;> rfl

theorem Comparison.ofJson?_name (c : Comparison) : Comparison.ofJson? (.str c.name) = some c := by
  cases c <;> rfl

namespace Formula

variable {fields others : List (String × Part)} {members written : List (String × Json)}
  {tag : String} {inner : Bool}

theorem memberParts_eq (members : List (String × Json)) :
    memberParts members = members.map fun m => (m.1, partOf m.2) := by
  induction members with
  | nil => rfl
  | cons m rest ih => rw [memberParts, ih, List.map_cons]

theorem partOf_json (j : Json) : (partOf j).json = j := by
  cases j <;> rfl

theorem partOf_formula? (j : Json) : (partOf j).formula? = (partsOf j).bind (ofParts? true) := by
  cases j <;> rfl

theorem unique?_eq (distinct : (fields.map Prod.fst).Nodup) (key : String) :
    Parts.unique? key fields = some (fields.lookup key) := by
  induction fields with
  | nil => rfl
  | cons p rest ih =>
      obtain ⟨k, part⟩ := p
      obtain ⟨new, distinct⟩ := List.nodup_cons.mp distinct
      by_cases own : k = key
      · subst own
        have nothing : rest.filter (·.1 == k) = [] := by
          rw [List.filter_eq_nil_iff]
          intro q later
          have apart : q.1 ≠ k := by
            rintro rfl
            exact new (List.mem_map.mpr ⟨q, later, rfl⟩)
          simpa using apart
        simp [Parts.unique?, nothing]
      · have skipped : Parts.unique? key ((k, part) :: rest) = Parts.unique? key rest := by
          rw [Parts.unique?, List.filter_cons_of_neg (by simpa using own), Parts.unique?]
        rw [skipped, ih distinct, Keyed.lookup_cons_ne (Ne.symm own)]

theorem fields?_named (distinct : (fields.map Prod.fst).Nodup) (names : List String) :
    Parts.fields? names (.named fields) = some fields := by
  simp [Parts.fields?, unique?_eq distinct]

theorem ofFields?_perm (perm : fields.Perm others) (distinct : (others.map Prod.fst).Nodup)
    (tag : String) :
    ofFields? tag (.named fields) = ofFields? tag (.named others) := by
  have found := Keyed.lookup_perm perm distinct
  rw [ofFields?, ofFields?, fields?_named ((perm.map _).nodup_iff.mpr distinct),
    fields?_named distinct]
  simp only [Option.bind_eq_bind, Option.bind_some, found]

theorem ofParts?_perm (perm : fields.Perm others) (distinct : (others.map Prod.fst).Nodup)
    (inner : Bool) :
    ofParts? inner (.named fields) = ofParts? inner (.named others) := by
  rw [ofParts?, ofParts?, unique?_eq ((perm.map _).nodup_iff.mpr distinct), unique?_eq distinct,
    Keyed.lookup_perm perm distinct]
  simp only [ofFields?_perm perm distinct]

theorem fieldNames_nodup : ∀ tag ∈ tags, ("op" :: fieldNames tag).Nodup := by
  decide

/-- An object with a tag is read as that operation, as if its members stood in the order in which
they are written. -/
theorem read_operation {rest : List (String × Json)} {j : Json} (known : tag ∈ tags)
    (named : rest.map Prod.fst = fieldNames tag)
    (rearranged : (Json.obj (("op", .str tag) :: rest)).Rearranged j) :
    ∃ others, RearrangedMembers rest others ∧
      ∀ inner, (partsOf j).bind (ofParts? inner) =
        ofFields? tag
          (.named (("op", partOf (.str tag)) :: others.map fun m => (m.1, partOf m.2))) := by
  obtain ⟨_, written, rfl, ⟨_, others, rfl, rfl, same⟩, perm⟩ := rearranged
  refine ⟨others, same, fun inner => ?_⟩
  have keys :
      (((("op", Json.str tag) :: others).map fun m => (m.1, partOf m.2)).map Prod.fst).Nodup := by
    have distinct := fieldNames_nodup tag known
    rw [← named, ← same.keys] at distinct
    rw [List.map_map]
    exact distinct
  rw [partsOf, Option.bind_some, memberParts_eq, ofParts?_perm (perm.map _) keys, ofParts?,
    unique?_eq keys]
  simp [partOf, Json.readTag?, known]

theorem rearrangedItems_map {α : Type} {write : α → Json} {as : List α} {js : List Json}
    (scalar : ∀ a j, (write a).Rearranged j → j = write a)
    (same : RearrangedItems (as.map write) js) :
    js = as.map write := by
  induction as generalizing js with
  | nil => exact same
  | cons a rest ih =>
      obtain ⟨j, others, rfl, first, more⟩ := same
      rw [scalar a j first, ih more, List.map_cons]

mutual

/-- Whatever the order of members, the formula that was written is read. -/
theorem read_written : ∀ (f : Formula) {j : Json}, f.toJson.Rearranged j →
    ∀ inner, (partsOf j).bind (ofParts? inner) = some f
  | .length, j, written, inner | .digitSum, j, written, inner => by
      obtain ⟨_, rfl, read⟩ := read_operation (by decide) rfl written
      rw [read]
      rfl
  | .const value, j, written, inner | .numericMod value, j, written, inner => by
      obtain ⟨_, ⟨_, _, rfl, rfl, rfl⟩, read⟩ := read_operation (by decide) rfl written
      have back : (Json.int value.toInt).readInt64? = some value := Json.readInt64?_ofInt64 value
      rw [read]
      simp [ofFields?, fieldNames, Parts.fields?, Parts.unique?, Record.lookup_member,
        partOf_json, back]
  | .weightedSum weights direction fold, j, written, inner => by
      obtain ⟨_, ⟨_, _, rfl, ⟨_, rfl, same⟩, _, _, rfl, rfl, _, _, rfl, rfl, rfl⟩, read⟩ :=
        read_operation (by decide) rfl written
      have back : Json.readList? Json.readInt64? (.arr (weights.map Json.ofInt64)) = some weights :=
        Json.readList?_map_self fun w _ => Json.readInt64?_ofInt64 w
      rw [read, rearrangedItems_map (fun _ _ => id) same]
      simp [ofFields?, fieldNames, Parts.fields?, Parts.unique?, Record.lookup_member,
        partOf_json, back, Direction.ofJson?_name]
  | .add args, j, written, inner | .mul args, j, written, inner => by
      obtain ⟨_, ⟨_, _, rfl, ⟨_, rfl, same⟩, rfl⟩, read⟩ := read_operation (by decide) rfl written
      have parts := read_all args same
      rw [read]
      simp [ofFields?, fieldNames, Parts.fields?, Parts.unique?, Record.lookup_member,
        partOf, parts]
  | .sub l r, j, written, inner | .mod l r, j, written, inner => by
      obtain ⟨_, ⟨_, _, rfl, left, _, _, rfl, right, rfl⟩, read⟩ :=
        read_operation (by decide) rfl written
      have first := read_written l left true
      have second := read_written r right true
      rw [read]
      simp [ofFields?, fieldNames, Parts.fields?, Parts.unique?, Record.lookup_member,
        partOf_formula?, first, second]
  | .cond l c r y n, j, written, inner => by
      obtain ⟨_, ⟨_, _, rfl, left, _, _, rfl, rfl, _, _, rfl, right, _, _, rfl, yes, _, _, rfl, no,
        rfl⟩, read⟩ :=
        read_operation (by decide) rfl written
      have first := read_written l left true
      have second := read_written r right true
      have third := read_written y yes true
      have fourth := read_written n no true
      rw [read]
      simp [ofFields?, fieldNames, Parts.fields?, Parts.unique?, Record.lookup_member,
        partOf_formula?, partOf_json, Comparison.ofJson?_name, first, second, third, fourth]

theorem read_all : ∀ (fs : List Formula) {items : List Json}, RearrangedItems (toJsonAll fs) items →
    (itemParts items).mapM (·.formula?) = some fs
  | [], _, written => by
      obtain rfl := written
      rfl
  | f :: rest, _, written => by
      obtain ⟨j, others, rfl, first, more⟩ := written
      have head := read_written f first true
      have tail := read_all rest more
      simp [itemParts, partOf_formula?, head, tail]

end

mutual

theorem settled_toJson : ∀ f : Formula, f.toJson.Settled
  | .const value => ⟨by simp, trivial, Json.plain_ofInt64 value, trivial⟩
  | .length | .digitSum => ⟨by simp, trivial, trivial⟩
  | .weightedSum weights _ _ => by
      refine ⟨by simp, trivial, ?_, trivial, trivial, trivial⟩
      induction weights with
      | nil => trivial
      | cons w rest ih => exact ⟨Json.plain_ofInt64 w, ih⟩
  | .numericMod modulus => ⟨by simp, trivial, Json.plain_ofInt64 modulus, trivial⟩
  | .add args | .mul args => ⟨by simp, trivial, settled_toJsonAll args, trivial⟩
  | .sub l r | .mod l r => ⟨by simp, trivial, settled_toJson l, settled_toJson r, trivial⟩
  | .cond l _ r y n =>
      ⟨by simp, trivial, settled_toJson l, trivial, settled_toJson r, settled_toJson y,
        settled_toJson n, trivial⟩

theorem settled_toJsonAll : ∀ fs : List Formula, Json.SettledItems (toJsonAll fs)
  | [] => trivial
  | f :: rest => ⟨settled_toJson f, settled_toJsonAll rest⟩

end

end Formula

namespace Symbols

/-- A symbol as a member. -/
def member (e : String × String) : String × Json := (e.1, .str e.2)

theorem member_injective : Function.Injective member := by
  rintro ⟨k, v⟩ ⟨k', v'⟩ same
  simpa [member] using same

theorem keys_members (entries : List (String × String)) :
    (entries.map member).map Prod.fst = entries.map Prod.fst := List.map_map

theorem rearranged_members {entries : List (String × String)} {others : List (String × Json)}
    (same : RearrangedMembers (entries.map member) others) : others = entries.map member := by
  induction entries generalizing others with
  | nil => exact same
  | cons e rest ih =>
      obtain ⟨_, others, rfl, rfl, more⟩ := same
      rw [ih more]
      rfl

/-- Texts under keys of their own all become symbols. -/
theorem ofMembers?_perm {members : List (String × Json)} (texts : ∀ m ∈ members, ∃ e, m = member e)
    (s : Symbols) (distinct : ((members ++ s.entries.map member).map Prod.fst).Nodup) :
    ∃ t, ofMembers? members s = some t ∧
      (t.entries.map member).Perm (members ++ s.entries.map member) := by
  induction members generalizing s with
  | nil => exact ⟨s, rfl, .refl _⟩
  | cons m rest ih =>
      obtain ⟨⟨⟨key, text⟩, rfl⟩, more⟩ := List.forall_mem_cons.mp texts
      obtain ⟨new, -⟩ := List.nodup_cons.mp distinct
      have absent : key ∉ s.entries.map Prod.fst := by
        intro there
        rw [← keys_members] at there
        exact new (List.map_append ▸ List.mem_append_right _ there)
      have put : ((s.insert key text).entries.map member).Perm
          (member (key, text) :: s.entries.map member) :=
        (Json.putMember_perm absent text).map member
      have moved := (put.append_left rest).trans List.perm_middle
      obtain ⟨t, read, all⟩ :=
        ih more (s.insert key text) ((moved.map Prod.fst).nodup_iff.mpr distinct)
      exact ⟨t, read, all.trans moved⟩

theorem keys_nodup (s : Symbols) : ((s.entries.map member).map Prod.fst).Nodup := by
  rw [keys_members]
  refine s.sorted.imp ?_
  rintro a _ less rfl
  exact String.lt_irrefl a less

theorem ordered (s : Symbols) : s.entries.Pairwise fun a b => a.1 < b.1 :=
  List.pairwise_map.mp s.sorted

theorem read_written (s : Symbols) {j : Json} (written : s.toJson.Rearranged j) :
    Symbols.ofJson? j = some s := by
  obtain ⟨_, members, rfl, same, perm⟩ := written
  rw [rearranged_members same] at perm
  have texts : ∀ m ∈ members, ∃ e, m = member e := by
    intro m there
    obtain ⟨e, -, rfl⟩ := List.mem_map.mp (perm.mem_iff.mp there)
    exact ⟨e, rfl⟩
  obtain ⟨t, read, all⟩ := ofMembers?_perm texts .empty
    (((perm.append_right _).map Prod.fst).nodup_iff.mpr (by simpa [empty] using s.keys_nodup))
  have entries : t.entries.Perm s.entries :=
    (List.map_perm_map_iff member_injective).mp ((all.trans (by simp [empty])).trans perm)
  refine read.trans (congrArg some (ext ?_))
  exact Keyed.eq_of_ordered (fun _ _ => String.lt_asymm) t.ordered s.ordered fun _ =>
    entries.mem_iff

theorem settled_toJson (s : Symbols) : s.toJson.Settled := by
  refine ⟨s.keys_nodup, ?_⟩
  generalize s.entries = entries
  induction entries with
  | nil => trivial
  | cons e rest ih => exact ⟨trivial, ih⟩

end Symbols

namespace Definition

theorem read_written (d : Definition) {j : Json} (written : d.toJson.Rearranged j) :
    ofJson? j = some d := by
  obtain ⟨_, members, rfl, ⟨e, _, rfl, expression, w, _, rfl, width, s, _, rfl, symbols, rfl⟩,
    perm⟩ := written
  obtain rfl : w = .ofOption .ofUInt64 d.width := by
    cases held : d.width <;> rw [held] at width <;> exact width
  have distinct : (members.map Prod.fst).Nodup := (perm.map Prod.fst).nodup_iff.mpr (by simp)
  have formula : Formula.ofJson? e = some d.formula :=
    Formula.read_written d.formula expression false
  have number : Record.nullable Json.readUInt64? (.ofOption .ofUInt64 d.width) = some d.width :=
    Json.nullable_ofOption (fun n _ => Json.readUInt64?_ofUInt64 n) (by simp [Json.ofUInt64])
  have held (name : String) (value : Json)
      (there : (name, value) ∈ [("expression", e), ("width", .ofOption .ofUInt64 d.width),
        ("symbols", s)]) :
      (⟨members, false⟩ : Record).get? name = some value :=
        Record.get?_of_mem distinct (perm.mem_iff.mpr there)
  have first := Record.required_eq (held "expression" e (by simp)) formula
  have second := Record.omissible_eq (held "width" _ (by simp)) number
  have third : (⟨members, false⟩ : Record).orDefault "symbols" .empty Symbols.ofJson? =
      some d.symbols :=
    Record.orDefault_eq (held "symbols" s (by simp)) (d.symbols.read_written symbols)
  rw [ofJson?, Record.ofJson?_obj distinct]
  simp only [Option.bind_eq_bind, Option.bind_some, first, second, third]
  rfl

theorem settled_toJson (d : Definition) : d.toJson.Settled := by
  refine ⟨by simp, d.formula.settled_toJson, ?_, d.symbols.settled_toJson, trivial⟩
  cases d.width with
  | none => trivial
  | some n => exact Json.plain_ofUInt64 n

end Definition

end Voucher.CheckDigit
