import Mathlib.Data.List.Nodup
import Mathlib.Tactic.MkIffOfInductiveProp
import Voucher.Ledger.Store
import Voucher.Proofs.Instant
import Voucher.Proofs.Uuid

/-! What a listing shows of a ledger: the entries that still have a rule and a project and are
within the bounds, each once, the latest first. -/
namespace Voucher.Ledger

/-- Instants in their order, and identifiers within one instant. -/
def stampLe (a b : Instant × Uuid) : Bool := a.1.lt b.1 || (a.1 == b.1 && a.2.le b.2)

section Stamps

variable {a b c : Instant × Uuid}

/-- The order of stamps as an order of numbers. -/
theorem stampLe_iff : stampLe a b = true ↔ a.1.seconds < b.1.seconds ∨ a.1.seconds = b.1.seconds ∧
    (a.1.nanos < b.1.nanos ∨ a.1.nanos = b.1.nanos ∧ a.2.toNat ≤ b.2.toNat) := by
  have same : a.1 = b.1 ↔ a.1.seconds = b.1.seconds ∧ a.1.nanos = b.1.nanos := by
    cases a.1
    cases b.1
    simp
  simp only [stampLe, Bool.or_eq_true, Bool.and_eq_true, Instant.lt_iff, beq_iff_eq, same, Uuid.le,
    decide_eq_true_eq]
  omega

theorem stampLe_trans (first : stampLe a b = true) (second : stampLe b c = true) :
    stampLe a c = true := by
  rw [stampLe_iff] at first second ⊢
  omega

theorem stampLe_total (a b : Instant × Uuid) : (stampLe a b || stampLe b a) = true := by
  rw [Bool.or_eq_true, stampLe_iff, stampLe_iff]
  omega

theorem lt_of_stampLe (ordered : stampLe a b = true) (apart : a.2 ≠ b.2) :
    a.1.lt b.1 ∨ a.1 = b.1 ∧ a.2.toNat < b.2.toNat := by
  have numbers : a.2.toNat ≠ b.2.toNat := fun same => apart (Uuid.toNat_inj.mp same)
  simp only [stampLe, Bool.or_eq_true, Bool.and_eq_true, beq_iff_eq, Uuid.le,
    decide_eq_true_eq] at ordered
  obtain earlier | ⟨same, smaller⟩ := ordered
  · exact .inl earlier
  · exact .inr ⟨same, by omega⟩

/-- Stamps with identifiers of their own are not of one rank. -/
theorem id_eq_of_stampLe (first : stampLe a b = true) (second : stampLe b a = true) :
    a.2 = b.2 := by
  rw [stampLe_iff] at first second
  exact Uuid.toNat_inj.mp (by omega)

end Stamps

/-- Redeemed later, or at the same instant and under the larger identifier. -/
def Detail.Newer (a b : Detail) : Prop :=
  b.entry.redeemedAt.lt a.entry.redeemedAt ∨
    a.entry.redeemedAt = b.entry.redeemedAt ∧ b.entry.id.toNat < a.entry.id.toNat

/-- What a filter is to show; both bounds belong to the stretch. -/
@[mk_iff]
structure Filter.Shows (f : Filter) (d : Detail) : Prop where
  project : ∀ id, f.projectId = some id → d.projectId = id
  since : ∀ t, f.since = some t → t.le d.entry.redeemedAt
  upTo : ∀ t, f.upTo = some t → d.entry.redeemedAt.le t

/-- The rule and the project of an entry are there, and these are their names. -/
def Store.Names (s : Store) (e : Entry) (d : Detail) : Prop :=
  ∃ r p, s.rule? e.ruleId = some r ∧ s.project? r.projectId = some p ∧ d = ⟨e, r.name, p.id, p.name⟩

variable {s : Store} {f : Filter} {e : Entry} {a b d : Detail}

theorem Filter.admits_iff : f.admits d = true ↔ f.Shows d := by
  rw [Filter.shows_iff, Filter.admits]
  cases f.projectId <;> cases f.since <;> cases f.upTo <;> simp [and_assoc]

namespace Store

theorem detail?_eq_some : s.detail? e = some d ↔ s.Names e d := by
  unfold detail? Names
  simp only [Option.bind_eq_bind, Option.bind_eq_some_iff, Option.pure_def, Option.some.injEq]
  constructor
  · rintro ⟨r, rule, p, project, rfl⟩
    exact ⟨r, p, rule, project, rfl⟩
  · rintro ⟨r, p, rule, project, rfl⟩
    exact ⟨r, rule, p, project, rfl⟩

theorem Names.entry_eq (names : s.Names e d) : d.entry = e := by
  obtain ⟨r, p, -, -, rfl⟩ := names
  rfl

theorem detailLe_eq (a b : Detail) :
    detailLe a b = stampLe (b.entry.redeemedAt, b.entry.id) (a.entry.redeemedAt, a.entry.id) := by
  rw [detailLe, stampLe, BEq.comm]

theorem detailLe_trans (a b c : Detail) (first : detailLe a b = true)
    (second : detailLe b c = true) :
    detailLe a c = true := by
  rw [detailLe_eq] at first second ⊢
  exact stampLe_trans second first

theorem detailLe_total (a b : Detail) : (detailLe a b || detailLe b a) = true := by
  rw [detailLe_eq, detailLe_eq]
  exact stampLe_total _ _

/-- Of two entries with identifiers of their own, the one that is not later is earlier. -/
theorem newer_of_detailLe (ordered : detailLe a b = true) (apart : a.entry.id ≠ b.entry.id) :
    a.Newer b := by
  rw [detailLe_eq] at ordered
  obtain later | ⟨same, larger⟩ := lt_of_stampLe ordered apart.symm
  · exact .inl later
  · exact .inr ⟨same.symm, larger⟩

theorem details_ids (ids : (s.entries.map (·.id)).Nodup) : (s.details.map (·.entry.id)).Nodup := by
  refine List.pairwise_map.mpr (List.Pairwise.filterMap s.detail? ?_ (List.pairwise_map.mp ids))
  intro e x apart d named y other
  rwa [(detail?_eq_some.mp named).entry_eq, (detail?_eq_some.mp other).entry_eq]

/-- No two entries of a listing share a place. -/
theorem matching_newer (ids : (s.entries.map (·.id)).Nodup) (f : Filter) :
    (s.matching f).Pairwise Detail.Newer := by
  have ordered := List.pairwise_mergeSort detailLe_trans detailLe_total (s.details.filter f.admits)
  have apart : (s.matching f).Pairwise fun a b => a.entry.id ≠ b.entry.id := by
    have shown : ((s.details.filter f.admits).map (·.entry.id)).Nodup :=
      (details_ids ids).sublist (List.filter_sublist.map _)
    exact List.pairwise_map.mp (((List.mergeSort_perm _ _).map _).nodup_iff.mpr shown)
  exact (ordered.and apart).imp fun ⟨le, ne⟩ => newer_of_detailLe le ne

theorem mem_matching : d ∈ s.matching f ↔ ∃ e ∈ s.entries, s.Names e d ∧ f.Shows d := by
  simp only [matching, List.mem_mergeSort, List.mem_filter, details, List.mem_filterMap,
    detail?_eq_some, Filter.admits_iff]
  constructor
  · rintro ⟨⟨e, member, names⟩, shows⟩
    exact ⟨e, member, names, shows⟩
  · rintro ⟨e, member, names, shows⟩
    exact ⟨⟨e, member, names⟩, shows⟩

theorem length_matching_le (s : Store) (f : Filter) : (s.matching f).length ≤ s.entries.length := by
  rw [matching, List.length_mergeSort]
  exact Nat.le_trans (List.length_filter_le _ _) (List.length_filterMap_le _ _)

end Store

end Voucher.Ledger
