import Voucher.Cache.Rules
import Voucher.Ledger.Store
import Voucher.Proofs.Rule.Wire
import Voucher.Rule.Sample

/-! Entries of the cache are read back. The reader does not take texts that nest too deeply, so a
book whose free-form fields do is cached in vain. -/
namespace Voucher

namespace Json

variable {α : Type} {n : Nat}

theorem depthItems_le {items : List Json} : depthItems items ≤ n ↔ ∀ j ∈ items, j.depth ≤ n := by
  induction items with
  | nil => simp [depthItems]
  | cons item rest ih => simp [depthItems, ih]

theorem depthMembers_le {members : List (String × Json)} :
    depthMembers members ≤ n ↔ ∀ m ∈ members, m.2.depth ≤ n := by
  induction members with
  | nil => simp [depthMembers]
  | cons m rest ih => simp [depthMembers, ih]

theorem depth_arr_map {write : α → Json} {as : List α} :
    (arr (as.map write)).depth ≤ n + 1 ↔ ∀ a ∈ as, (write a).depth ≤ n := by
  simp [depth, depthItems_le]

theorem depth_ofOption (write : α → Json) (o : Option α) :
    (ofOption write o).depth ≤ n ↔ ∀ a ∈ o, (write a).depth ≤ n := by
  cases o <;> simp [ofOption, depth]

theorem depth_ofOption_flat {write : α → Json} (flat : ∀ a, (write a).depth = 0) (o : Option α) :
    (ofOption write o).depth ≤ n := by
  rw [depth_ofOption]
  intro a _
  simp [flat]

theorem depth_ofStrings (ss : List String) : (ofStrings ss).depth ≤ n + 1 :=
  depth_arr_map.mpr fun _ _ => Nat.zero_le n

end Json

namespace Segment

theorem depth_toJson (s : Segment) : s.toJson.depth ≤ 2 := by
  have kind : ∀ m ∈ s.kind.members, m.2.depth ≤ 1 := by
    cases s.kind with
    | fixed | alpha | alphanumeric | date => simp [Kind.members, Json.depth, LetterCase.toJson]
    | numeric min max =>
        cases min <;> cases max <;> simp [Kind.members, Json.memberIfSome, Json.depth, Json.ofInt64]
    | oneOf values => simp [Kind.members, Json.depth, Json.depth_ofStrings]
    | check algorithm appliesTo =>
        cases algorithm <;> simp [Kind.members, Json.memberIfSome, Json.depth, Json.depth_ofStrings]
  have description : ∀ m ∈ Json.memberIfSome "description" .str s.description, m.2.depth ≤ 1 := by
    cases s.description <;> simp [Json.memberIfSome, Json.depth]
  have all : ∀ m ∈ s.members, m.2.depth ≤ 1 := by
    simpa [members, Json.depth, Json.ofUInt64, or_imp, forall_and] using And.intro description kind
  exact Nat.succ_le_succ (Json.depthMembers_le.mpr all)

end Segment

theorem Layout.depth_toJson (l : Layout) : l.toJson.depth ≤ 4 := by
  have segments : (Json.arr (l.segments.map Segment.toJson)).depth ≤ 3 :=
    Json.depth_arr_map.mpr fun s _ => s.depth_toJson
  exact Nat.succ_le_succ (Json.depthMembers_le.mpr (List.forall_mem_singleton.mpr segments))

/-- The free-form fields nest at most so deeply. -/
structure Rule.Shallow (n : Nat) (r : Rule) : Prop where
  customCheck : ∀ d ∈ r.customCheck, d.value.depth ≤ n
  productInfo : ∀ d ∈ r.productInfo, d.value.depth ≤ n
  campaignInfo : ∀ d ∈ r.campaignInfo, d.value.depth ≤ n

theorem Rule.depth_toJson {r : Rule} {n : Nat} (room : 4 ≤ n) :
    r.toJson.depth ≤ n + 1 ↔ r.Shallow n := by
  have layout : r.layout.toJson.depth ≤ n := Nat.le_trans r.layout.depth_toJson room
  have countries : (Json.ofStrings r.allowedCountries).depth ≤ n :=
    Nat.le_trans (Json.depth_ofStrings _) (Nat.le_trans (by decide : 0 + 1 ≤ 4) room)
  have algorithm : (Json.ofOption CheckDigit.Algorithm.toJson r.checkAlgorithm).depth ≤ n :=
    Json.depth_ofOption_flat (fun _ => rfl) _
  have position : (Json.ofOption CheckDigit.Position.toJson r.checkPosition).depth ≤ n :=
    Json.depth_ofOption_flat (fun _ => rfl) _
  have points : (Json.ofOption Json.ofInt32 r.pointsValue).depth ≤ n :=
    Json.depth_ofOption_flat (fun _ => rfl) _
  have text (s : Option String) : (Json.ofStringOption s).depth ≤ n :=
    Json.depth_ofOption_flat (fun _ => rfl) s
  have documents (d : Option Document) :
      (Json.ofOption .ofDocument d).depth ≤ n ↔ ∀ a ∈ d, a.value.depth ≤ n :=
    Json.depth_ofOption .ofDocument d
  have fields : r.toJson.depth ≤ n + 1 ↔ (Json.ofOption .ofDocument r.customCheck).depth ≤ n ∧
      (Json.ofOption .ofDocument r.productInfo).depth ≤ n ∧
      (Json.ofOption .ofDocument r.campaignInfo).depth ≤ n := by
    refine Nat.succ_le_succ_iff.trans (Json.depthMembers_le.trans ?_)
    simp [Json.depth, Json.ofUuid, Json.ofUInt64, Json.ofInt32, Json.ofInstant, Charset.toJson,
      layout, countries, algorithm, position, points, text]
  rw [fields, documents, documents, documents]
  constructor
  · rintro ⟨check, product, campaign⟩
    exact ⟨check, product, campaign⟩
  · rintro ⟨check, product, campaign⟩
    exact ⟨check, product, campaign⟩

theorem Project.depth_toJson {p : Project} {n : Nat} :
    p.toJson.depth ≤ n + 1 ↔ ∀ d ∈ p.metadata, d.value.depth ≤ n := by
  have time (t : Option Instant) : (Json.ofOption Json.ofInstant t).depth ≤ n :=
    Json.depth_ofOption_flat (fun _ => rfl) t
  have description : (Json.ofStringOption p.description).depth ≤ n :=
    Json.depth_ofOption_flat (fun _ => rfl) _
  have metadata : (Json.ofOption .ofDocument p.metadata).depth ≤ n ↔
      ∀ d ∈ p.metadata, d.value.depth ≤ n :=
    Json.depth_ofOption .ofDocument p.metadata
  simpa [toJson, Json.depth, Json.depthMembers, Json.ofUuid, Json.ofInstant, time, description]
    using metadata

namespace RuleBook

/-- The free-form fields nest so deeply at most that the whole book can be read as a text. -/
structure Shallow (b : RuleBook) : Prop where
  metadata : ∀ d ∈ b.project.metadata, d.value.depth ≤ 125
  rules : ∀ r ∈ b.rules, r.Shallow 124

theorem depth_toJson {b : RuleBook} : b.toJson.depth ≤ Json.maxDepth ↔ b.Shallow := by
  have project : b.project.toJson.depth ≤ 126 ↔ _ := Project.depth_toJson
  have rules : (Json.arr (b.rules.map Rule.toJson)).depth ≤ 126 ↔
      ∀ r ∈ b.rules, r.toJson.depth ≤ 125 :=
    Json.depth_arr_map
  have rule (r : Rule) : r.toJson.depth ≤ 125 ↔ r.Shallow 124 := Rule.depth_toJson (by decide)
  have fields : b.toJson.depth ≤ Json.maxDepth ↔
      b.project.toJson.depth ≤ 126 ∧ (Json.arr (b.rules.map Rule.toJson)).depth ≤ 126 := by
    refine Nat.succ_le_succ_iff.trans (Json.depthMembers_le.trans ?_)
    rw [List.forall_mem_cons, List.forall_mem_singleton]
  simp only [fields, project, rules, rule]
  constructor
  · rintro ⟨metadata, rules⟩
    exact ⟨metadata, rules⟩
  · rintro ⟨metadata, rules⟩
    exact ⟨metadata, rules⟩

end RuleBook

/-- As of a book, of every book that a store has. -/
def Ledger.Store.Exact (s : Store) : Prop :=
  ∀ projectId book, s.ruleBook? projectId = some book → book.Exact

namespace Cache.Rules

theorem decode?_encode {b : RuleBook} (exact : b.Exact) :
    decode? (encode b) = if b.toJson.depth ≤ Json.maxDepth then some b.withoutNulls else none := by
  rw [decode?, encode, Json.read?_text (RuleBook.plain_toJson exact)]
  by_cases shallow : b.toJson.depth ≤ Json.maxDepth
  · rw [if_pos shallow, if_pos shallow, Option.bind_some, RuleBook.ofJson?_toJson exact]
  · rw [if_neg shallow, if_neg shallow, Option.bind_none]

/-- What a book's own entry is read as, if it is read at all. -/
theorem eq_of_decode?_encode {b c : RuleBook} (exact : b.Exact)
    (read : decode? (encode b) = some c) :
    c = b.withoutNulls := by
  rw [decode?_encode exact] at read
  split at read
  · exact (Option.some.inj read).symm
  · contradiction

/-- The JSON of a book is read back; so is its text, unless a free-form field nests too deeply. -/
theorem entry_read_back {b : RuleBook} (exact : b.Exact) :
    RuleBook.ofJson? b.toJson = some b.withoutNulls ∧
      (b.Shallow → decode? (encode b) = some b.withoutNulls) ∧
      (¬ b.Shallow → decode? (encode b) = none) := by
  rw [decode?_encode exact, ← RuleBook.depth_toJson]
  refine ⟨RuleBook.ofJson?_toJson exact, fun shallow => ?_, fun deep => ?_⟩
  · rw [if_pos shallow]
  · rw [if_neg deep]

theorem epoch_valid : Instant.epoch.Valid := ⟨by decide, .inl (by decide)⟩

/-- A store with one project and nothing else. -/
def storeOf (project : Project) : Ledger.Store := { Ledger.Store.empty with projects := [project] }

theorem ruleBook?_storeOf (project : Project) (projectId : Uuid) :
    (storeOf project).ruleBook? projectId =
      if project.id = projectId then some ⟨project, []⟩ else none := by
  by_cases own : project.id = projectId <;>
    simp [storeOf, Ledger.Store.ruleBook?, Ledger.Store.project?, Ledger.Store.empty, own]

theorem ruleBook?_storeOf_self (project : Project) :
    (storeOf project).ruleBook? project.id = some ⟨project, []⟩ := by
  rw [ruleBook?_storeOf, if_pos rfl]

theorem storeOf_exact {project : Project} (exact : project.Exact) : (storeOf project).Exact := by
  intro projectId book held
  rw [ruleBook?_storeOf] at held
  split at held
  · obtain rfl := Option.some.inj held
    exact ⟨exact, List.forall_mem_nil _⟩
  · contradiction

theorem sample_exact : Project.sample.Exact := ⟨epoch_valid, nofun, nofun, nofun⟩

/-- A project whose free-form field holds an explicit null, with one rule. -/
def nullBook : RuleBook :=
  ⟨{ Project.sample with metadata := some (.ofJson .null) }, [.prefixedSample]⟩

theorem entry_read_back_null :
    nullBook.Exact ∧ nullBook.Shallow ∧ decode? (encode nullBook) =
      some ⟨.sample, [.prefixedSample]⟩ := by
  have exact : nullBook.Exact := by
    refine ⟨⟨epoch_valid, nofun, nofun, ?_⟩,
      List.forall_mem_singleton.mpr ⟨epoch_valid, nofun, ?_, nofun⟩⟩
    · simp [nullBook, Document.ofJson, Json.canonical, Json.Plain]
    · simp [Rule.prefixedSample, Rule.sample, Document.ofJson, Json.canonical,
        Json.canonicalMembers, Json.putMember, Json.Plain, Json.PlainMembers]
  have shallow : nullBook.Shallow := by
    refine ⟨?_, List.forall_mem_singleton.mpr ⟨nofun, ?_, nofun⟩⟩
    · simp [nullBook, Document.ofJson, Json.canonical, Json.depth]
    · simp [Rule.prefixedSample, Rule.sample, Document.ofJson, Json.canonical,
        Json.canonicalMembers, Json.putMember, Json.depth, Json.depthMembers]
  exact ⟨exact, shallow, (entry_read_back exact).2.1 shallow⟩

/-- A list in a list, and so on. -/
def nested : Nat → Json
  | 0 => .arr []
  | n + 1 => .arr [nested n]

theorem nested_canonical (n : Nat) : (nested n).Canonical := by
  induction n with
  | zero => trivial
  | succ n ih => exact ⟨ih, trivial⟩

theorem nested_plain (n : Nat) : (nested n).Plain := by
  induction n with
  | zero => trivial
  | succ n ih => exact ⟨ih, trivial⟩

theorem depth_nested (n : Nat) : (nested n).depth = n + 1 := by
  induction n with
  | zero => rfl
  | succ n ih => simp [nested, Json.depth, Json.depthItems, ih]

/-- A project whose free-form field nests at some depth. -/
def deepBook (n : Nat) : RuleBook :=
  ⟨{ Project.sample with metadata := some ⟨nested n, nested_canonical n⟩ }, []⟩

theorem deepBook_exact (n : Nat) : (deepBook n).Exact := by
  refine ⟨⟨epoch_valid, nofun, nofun, fun d held => ?_⟩, List.forall_mem_nil _⟩
  obtain rfl := Option.some.inj held
  exact nested_plain n

theorem deepBook_deep {n : Nat} (beyond : 125 ≤ n) :
    ¬ (deepBook n).toJson.depth ≤ Json.maxDepth := by
  intro few
  have shallow := (RuleBook.depth_toJson.mp few).metadata _ rfl
  rw [depth_nested] at shallow
  omega

theorem deepBook_unread {n : Nat} (beyond : 125 ≤ n) : decode? (encode (deepBook n)) = none := by
  rw [decode?_encode (deepBook_exact n), if_neg (deepBook_deep beyond)]

/-- A book whose free-form field nests one level too deeply is not read back. -/
theorem deep_entry_unread :
    ¬ ∀ b : RuleBook, b.Exact → decode? (encode b) = some b.withoutNulls := by
  intro read
  have found := read (deepBook 125) (deepBook_exact 125)
  rw [deepBook_unread (Nat.le_refl 125)] at found
  contradiction

end Cache.Rules

end Voucher
