import Voucher.Proofs.Json.Record
import Voucher.Rule.Wire

/-! Rule books are read back from the JSON that they are written to: every field of every rule and
every kind of segment, with only an explicit null of a free-form field taken for its absence. -/
namespace Voucher

open Record Json

@[simp] theorem LetterCase.ofInnerJson?_toJson (c : LetterCase) :
    ofInnerJson? c.toJson = some c := by
  cases c <;> rfl

@[simp] theorem Charset.ofJson?_toJson (c : Charset) : ofJson? c.toJson = some c := by
  cases c <;> rfl

@[simp] theorem CheckDigit.Algorithm.ofJson?_toJson (a : Algorithm) :
    ofJson? a.toJson = some a := by
  cases a <;> rfl

@[simp] theorem CheckDigit.Position.ofJson?_toJson (p : Position) : ofJson? p.toJson = some p := by
  cases p <;> rfl

namespace Segment

/-- The members of a segment. -/
def members (s : Segment) : List (String × Json) :=
  ("name", .str s.name) :: ("length", .ofUInt64 s.length) ::
    (memberIfSome "description" .str s.description ++ s.kind.members)

theorem members_distinct (s : Segment) : (s.members.map Prod.fst).Nodup := by
  obtain ⟨name, length, description, kind⟩ := s
  cases kind with
  | fixed | alpha | alphanumeric | oneOf | date =>
      cases description <;> simp [members, memberIfSome, Kind.members]
  | numeric min max =>
      cases description <;> cases min <;> cases max <;> simp [members, memberIfSome, Kind.members]
  | check algorithm appliesTo =>
      cases description <;> cases algorithm <;> simp [members, memberIfSome, Kind.members]

/-- The tag that a kind is written with. -/
def Kind.tag : Kind → String
  | .fixed _ => "fixed"
  | .numeric .. => "numeric"
  | .alpha _ => "alpha"
  | .alphanumeric => "alphanumeric"
  | .oneOf _ => "enum"
  | .date _ => "date"
  | .check .. => "check"

theorem lookup_memberIfSome {α : Type} (name other : String) (write : α → Json) (a : Option α) :
    (memberIfSome name write a).lookup other = if other = name then a.map write else none := by
  cases a with
  | none => simp [memberIfSome]
  | some a => simp [memberIfSome, lookup_member]

/-- A field that is left out when absent is read back. -/
theorem omissible_memberIfSome {α : Type} {r : Record} {name : String} {read : Json → Option α}
    (write : α → Json) {a : Option α} (held : r.get? name = a.map write)
    (back : ∀ a, read (write a) = some a) (some : ∀ a, write a ≠ .null) :
    r.omissible name read = Option.some a := by
  rw [omissible, orDefault, held]
  cases a with
  | none => rfl
  | some a => exact nullable_write (back a) (some a)

/-- The fields of a kind do not stand before its tag. -/
theorem get?_members (s : Segment) {name : String}
    (own : name ∉ ["name", "length", "description"]) :
    (⟨s.members, false⟩ : Record).get? name = s.kind.members.lookup name := by
  simp only [List.mem_cons, List.not_mem_nil, or_false, not_or] at own
  simp [Record.get?, members, lookup_member, List.lookup_append, lookup_memberIfSome, own]

theorem Kind.ofFields?_members (s : Segment) :
    ofFields? s.kind.tag (.obj s.members) = some s.kind := by
  have record := ofObject?_obj s.members_distinct
  have field {name : String} (own : name ∉ ["name", "length", "description"]) := s.get?_members own
  simp only [ofFields?, record, Option.bind_eq_bind, Option.bind_some]
  cases kind : s.kind with
  | fixed value => simp [tag, required, field, kind, members, lookup_member]
  | numeric min max =>
      rw [kind] at field
      have least : (⟨s.members, false⟩ : Record).omissible "min" readInt64? = some min :=
        omissible_memberIfSome ofInt64
          (by simp [field, members, lookup_member, List.lookup_append, lookup_memberIfSome])
          readInt64?_ofInt64 (by simp [ofInt64])
      have most : (⟨s.members, false⟩ : Record).omissible "max" readInt64? = some max :=
        omissible_memberIfSome ofInt64
          (by simp [field, members, lookup_member, List.lookup_append, lookup_memberIfSome])
          readInt64?_ofInt64 (by simp [ofInt64])
      simp [tag, least, most]
  | alpha letters => simp [tag, orDefault, field, kind, members, lookup_member]
  | alphanumeric => rfl
  | oneOf values => simp [tag, required, field, kind, members, lookup_member]
  | date format => simp [tag, required, field, kind, members, lookup_member]
  | check algorithm appliesTo =>
      rw [kind] at field
      have named : (⟨s.members, false⟩ : Record).omissible "algorithm" asString? = some algorithm :=
        omissible_memberIfSome .str
          (by simp [field, members, lookup_member, List.lookup_append, lookup_memberIfSome])
          asString?_str (by simp)
      simp [tag, named, orDefault, field, members, lookup_member, List.lookup_append,
        lookup_memberIfSome]

theorem Kind.lookup_type (kind : Kind) : kind.members.lookup "type" = some (.str kind.tag) := by
  cases kind <;> rfl

theorem Kind.lookup_description (kind : Kind) : kind.members.lookup "description" = none := by
  cases kind <;> simp [members, lookup_member, List.lookup_append, lookup_memberIfSome]

theorem Kind.readTag?_tag (kind : Kind) : readTag? tags true (.str kind.tag) = some kind.tag := by
  cases kind <;> rfl

theorem ofJson?_toJson (s : Segment) : ofJson? s.toJson = some s := by
  obtain ⟨f, fields⟩ : ∃ f : Record, f = ⟨s.members, false⟩ := ⟨_, rfl⟩
  have record : Record.ofObject? ["name", "length", "description", "type"] s.toJson = some f :=
    fields ▸ ofObject?_obj s.members_distinct _
  have name : f.required "name" asString? = some s.name :=
    required_eq (fields ▸ rfl) (asString?_str _)
  have length : f.required "length" readUInt64? = some s.length := by
    refine required_eq ?_ (readUInt64?_ofUInt64 _)
    simp [fields, Record.get?, members, lookup_member]
  have description : f.omissible "description" asString? = some s.description := by
    refine omissible_memberIfSome .str ?_ asString?_str (by simp)
    simp [fields, Record.get?, members, lookup_member, List.lookup_append, lookup_memberIfSome,
      Kind.lookup_description]
  have tag : f.required "type" (readTag? Kind.tags true) = some s.kind.tag := by
    rw [required, fields, get?_members s (by simp), Kind.lookup_type]
    exact s.kind.readTag?_tag
  refine Option.bind_eq_some_iff.mpr ⟨_, record, ?_⟩
  refine Option.bind_eq_some_iff.mpr ⟨_, name, ?_⟩
  refine Option.bind_eq_some_iff.mpr ⟨_, length, ?_⟩
  refine Option.bind_eq_some_iff.mpr ⟨_, description, ?_⟩
  refine Option.bind_eq_some_iff.mpr ⟨_, tag, ?_⟩
  exact Option.bind_eq_some_iff.mpr ⟨_, Kind.ofFields?_members s, rfl⟩

end Segment

theorem Layout.ofJson?_toJson (l : Layout) : ofJson? l.toJson = some l := by
  have record : Record.ofJson? ["segments"] l.toJson =
      some ⟨[("segments", .arr (l.segments.map Segment.toJson))], false⟩ := ofJson?_obj (by simp) _
  have segments := readList?_map_self fun s (_ : s ∈ l.segments) => s.ofJson?_toJson
  unfold ofJson?
  refine Option.bind_eq_some_iff.mpr ⟨_, record, ?_⟩
  exact Option.bind_eq_some_iff.mpr ⟨_, orDefault_eq rfl segments, rfl⟩

/-- A rule as it is read back. -/
def Rule.withoutNulls (r : Rule) : Rule :=
  { r with
    customCheck := Document.unlessNull r.customCheck
    productInfo := Document.unlessNull r.productInfo
    campaignInfo := Document.unlessNull r.campaignInfo }

theorem Rule.ofJson?_toJson {r : Rule} (created : r.createdAt.Valid) :
    ofJson? r.toJson = some r.withoutNulls := by
  obtain ⟨f, record, field⟩ := ofJson?_written r.toJson fieldNames rfl rfl (by simp [fieldNames])
  have algorithm := nullable_ofOption (o := r.checkAlgorithm)
    (fun a _ => CheckDigit.Algorithm.ofJson?_toJson a) (by simp [CheckDigit.Algorithm.toJson])
  have position := nullable_ofOption (o := r.checkPosition)
    (fun p _ => CheckDigit.Position.ofJson?_toJson p) (by simp [CheckDigit.Position.toJson])
  unfold ofJson?
  refine Option.bind_eq_some_iff.mpr ⟨_, record, ?_⟩
  refine Option.bind_eq_some_iff.mpr ⟨_, required_eq (field 0 _ _ rfl) (readUuid?_ofUuid _), ?_⟩
  refine Option.bind_eq_some_iff.mpr ⟨_, required_eq (field 1 _ _ rfl) (readUuid?_ofUuid _), ?_⟩
  refine Option.bind_eq_some_iff.mpr ⟨_, required_eq (field 2 _ _ rfl) (asString?_str _), ?_⟩
  refine Option.bind_eq_some_iff.mpr
    ⟨_, omissible_eq (field 3 _ _ rfl) (nullable_ofStringOption _), ?_⟩
  refine Option.bind_eq_some_iff.mpr ⟨_, required_eq (field 4 _ _ rfl) (readUInt64?_ofUInt64 _), ?_⟩
  refine Option.bind_eq_some_iff.mpr
    ⟨_, required_eq (field 5 _ _ rfl) (Charset.ofJson?_toJson _), ?_⟩
  refine Option.bind_eq_some_iff.mpr
    ⟨_, omissible_eq (field 6 _ _ rfl) (nullable_ofStringOption _), ?_⟩
  refine Option.bind_eq_some_iff.mpr ⟨_, required_eq (field 7 _ _ rfl) (asBool?_bool _), ?_⟩
  refine Option.bind_eq_some_iff.mpr ⟨_, omissible_eq (field 8 _ _ rfl) algorithm, ?_⟩
  refine Option.bind_eq_some_iff.mpr ⟨_, omissible_eq (field 9 _ _ rfl) position, ?_⟩
  refine Option.bind_eq_some_iff.mpr ⟨_, required_eq (field 10 _ _ rfl) r.layout.ofJson?_toJson, ?_⟩
  refine Option.bind_eq_some_iff.mpr
    ⟨_, omissible_eq (field 11 _ _ rfl) (nullable_ofStringOption _), ?_⟩
  refine Option.bind_eq_some_iff.mpr ⟨_, orDefault_eq (field 12 _ _ rfl) (asBool?_bool _), ?_⟩
  refine Option.bind_eq_some_iff.mpr
    ⟨_, omissible_eq (field 13 _ _ rfl) (nullable_ofStringOption _), ?_⟩
  refine Option.bind_eq_some_iff.mpr
    ⟨_, omissible_eq (field 14 _ _ rfl) (nullable_ofDocument _), ?_⟩
  refine Option.bind_eq_some_iff.mpr ⟨_, required_eq (field 15 _ _ rfl) (readInt32?_ofInt32 _), ?_⟩
  refine Option.bind_eq_some_iff.mpr
    ⟨_, omissible_eq (field 16 _ _ rfl) (nullable_ofDocument _), ?_⟩
  refine Option.bind_eq_some_iff.mpr
    ⟨_, omissible_eq (field 17 _ _ rfl) (nullable_ofDocument _), ?_⟩
  refine Option.bind_eq_some_iff.mpr ⟨_, omissible_eq (field 18 _ _ rfl) (nullable_ofInt32 _), ?_⟩
  refine Option.bind_eq_some_iff.mpr
    ⟨_, orDefault_eq (field 19 _ _ rfl) (readStrings?_ofStrings _), ?_⟩
  refine Option.bind_eq_some_iff.mpr ⟨_, required_eq (field 20 _ _ rfl) (asBool?_bool _), ?_⟩
  exact Option.bind_eq_some_iff.mpr
    ⟨_, required_eq (field 21 _ _ rfl) (readInstant?_ofInstant created), rfl⟩

/-- A project as it is read back. -/
def Project.withoutNulls (p : Project) : Project :=
  { p with metadata := Document.unlessNull p.metadata }

/-- The calendar reaches every instant of a project, and its free-form field
holds no binary64 number. -/
structure Project.Exact (p : Project) : Prop where
  createdAt : p.createdAt.Valid
  startsAt : ∀ t ∈ p.startsAt, t.Valid
  endsAt : ∀ t ∈ p.endsAt, t.Valid
  metadata : ∀ d ∈ p.metadata, d.value.Plain

theorem Project.ofJson?_toJson {p : Project} (exact : p.Exact) :
    ofJson? p.toJson = some p.withoutNulls := by
  obtain ⟨f, record, field⟩ := ofJson?_written p.toJson fieldNames rfl rfl (by simp [fieldNames])
  unfold ofJson?
  refine Option.bind_eq_some_iff.mpr ⟨_, record, ?_⟩
  refine Option.bind_eq_some_iff.mpr ⟨_, required_eq (field 0 _ _ rfl) (readUuid?_ofUuid _), ?_⟩
  refine Option.bind_eq_some_iff.mpr ⟨_, required_eq (field 1 _ _ rfl) (readUuid?_ofUuid _), ?_⟩
  refine Option.bind_eq_some_iff.mpr ⟨_, required_eq (field 2 _ _ rfl) (asString?_str _), ?_⟩
  refine Option.bind_eq_some_iff.mpr
    ⟨_, optional_eq (field 3 _ _ rfl) (nullable_ofStringOption _), ?_⟩
  refine Option.bind_eq_some_iff.mpr
    ⟨_, optional_eq (field 4 _ _ rfl) (nullable_ofInstant exact.startsAt), ?_⟩
  refine Option.bind_eq_some_iff.mpr
    ⟨_, optional_eq (field 5 _ _ rfl) (nullable_ofInstant exact.endsAt), ?_⟩
  refine Option.bind_eq_some_iff.mpr ⟨_, required_eq (field 6 _ _ rfl) (asBool?_bool _), ?_⟩
  refine Option.bind_eq_some_iff.mpr ⟨_, optional_eq (field 7 _ _ rfl) (nullable_ofDocument _), ?_⟩
  exact Option.bind_eq_some_iff.mpr
    ⟨_, required_eq (field 8 _ _ rfl) (readInstant?_ofInstant exact.createdAt), rfl⟩

/-- As for a project, of a rule. -/
structure Rule.Exact (r : Rule) : Prop where
  createdAt : r.createdAt.Valid
  customCheck : ∀ d ∈ r.customCheck, d.value.Plain
  productInfo : ∀ d ∈ r.productInfo, d.value.Plain
  campaignInfo : ∀ d ∈ r.campaignInfo, d.value.Plain

namespace RuleBook

/-- A rule book as it is read back. -/
def withoutNulls (b : RuleBook) : RuleBook :=
  ⟨b.project.withoutNulls, b.rules.map Rule.withoutNulls⟩

/-- As for a project, of a project and its rules. -/
structure Exact (b : RuleBook) : Prop where
  project : b.project.Exact
  rules : ∀ r ∈ b.rules, r.Exact

theorem ofJson?_toJson {b : RuleBook} (exact : b.Exact) :
    ofJson? b.toJson = some b.withoutNulls := by
  obtain ⟨f, record, field⟩ := ofJson?_written b.toJson ["project", "rules"] rfl rfl (by simp)
  have rules := readList?_map fun r held => Rule.ofJson?_toJson (exact.rules r held).createdAt
  unfold ofJson?
  refine Option.bind_eq_some_iff.mpr ⟨_, record, ?_⟩
  refine Option.bind_eq_some_iff.mpr
    ⟨_, required_eq (field 0 _ _ rfl) (Project.ofJson?_toJson exact.project), ?_⟩
  exact Option.bind_eq_some_iff.mpr ⟨_, required_eq (field 1 _ _ rfl) rules, rfl⟩

end RuleBook

theorem plainMembers_memberIfSome {α : Type} {name : String} {write : α → Json} {a : Option α}
    (plain : ∀ a, (write a).Plain) : PlainMembers (memberIfSome name write a) := by
  cases a with
  | none => trivial
  | some a => exact ⟨plain a, trivial⟩

theorem plainMembers_append {first more : List (String × Json)} (plain : PlainMembers first)
    (rest : PlainMembers more) : PlainMembers (first ++ more) := by
  rw [plainMembers_iff] at *
  exact List.forall_mem_append.mpr ⟨plain, rest⟩

theorem Segment.plain_toJson (s : Segment) : s.toJson.Plain := by
  refine ⟨trivial, plain_ofUInt64 _, plainMembers_append (plainMembers_memberIfSome plain_str) ?_⟩
  cases s.kind with
  | fixed | alpha | alphanumeric | date =>
      exact ⟨trivial, by simp [PlainMembers, LetterCase.toJson]⟩
  | numeric min max =>
      exact ⟨trivial, plainMembers_append (plainMembers_memberIfSome plain_ofInt64)
        (plainMembers_memberIfSome plain_ofInt64)⟩
  | oneOf values => exact ⟨trivial, plain_ofStrings values, trivial⟩
  | check algorithm appliesTo =>
      exact ⟨trivial, plainMembers_append (plainMembers_memberIfSome plain_str)
        ⟨plain_ofStrings appliesTo, trivial⟩⟩

theorem Layout.plain_toJson (l : Layout) : l.toJson.Plain :=
  ⟨plain_arr_map fun s _ => s.plain_toJson, trivial⟩

theorem Rule.plain_toJson {r : Rule} (exact : r.Exact) : r.toJson.Plain := by
  have algorithm : (ofOption CheckDigit.Algorithm.toJson r.checkAlgorithm).Plain :=
    plain_ofOption _ fun a _ => trivial
  have position : (ofOption CheckDigit.Position.toJson r.checkPosition).Plain :=
    plain_ofOption _ fun p _ => trivial
  have customCheck := plain_ofOption ofDocument exact.customCheck
  have productInfo := plain_ofOption ofDocument exact.productInfo
  have campaignInfo := plain_ofOption ofDocument exact.campaignInfo
  have points : (ofOption ofInt32 r.pointsValue).Plain :=
    plain_ofOption _ fun i _ => plain_ofInt32 i
  simp [toJson, Plain, PlainMembers, Charset.toJson, Layout.plain_toJson, algorithm, position,
    customCheck, productInfo, campaignInfo, points]

theorem Project.plain_toJson {p : Project} (exact : p.Exact) : p.toJson.Plain := by
  have starts : (ofOption ofInstant p.startsAt).Plain :=
    plain_ofOption _ fun t _ => plain_ofInstant t
  have ends : (ofOption ofInstant p.endsAt).Plain := plain_ofOption _ fun t _ => plain_ofInstant t
  have metadata := plain_ofOption ofDocument exact.metadata
  simp [toJson, Plain, PlainMembers, starts, ends, metadata]

theorem RuleBook.plain_toJson {b : RuleBook} (exact : b.Exact) : b.toJson.Plain :=
  ⟨Project.plain_toJson exact.project, plain_arr_map fun r held =>
    Rule.plain_toJson (exact.rules r held), trivial⟩

end Voucher
