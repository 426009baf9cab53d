import Mathlib.Data.Prod.Lex
import Mathlib.Data.String.Basic
import Voucher.Proofs.Ledger.Catalog
import Voucher.Proofs.Ledger.Tally
import Voucher.Rule.Sample

/-! What the statistics of a project say of its entries, whatever the order in which
they are gone through. -/
namespace Voucher.Ledger

/-- More redemptions, or as many and an earlier name, or both alike and a smaller identifier. -/
def RuleCount.Before (a b : RuleCount) : Prop :=
  b.count < a.count ∨ a.count = b.count ∧
    (a.ruleName < b.ruleName ∨ a.ruleName = b.ruleName ∧ a.ruleId.toNat < b.ruleId.toNat)

/-- The later day. -/
def DayCount.Later (a b : DayCount) : Prop := b.day < a.day

namespace Store

variable {s t : Store} {projectId : Uuid} {since : Instant} {e : Entry} {d : Detail} {r : Rule}

section Orders

variable {a b c : RuleCount}

/-- Where a rule stands among others. -/
def rank (c : RuleCount) : Int ×ₗ String ×ₗ Nat :=
  toLex (-c.count, toLex (c.ruleName, c.ruleId.toNat))

theorem ruleCountLe_iff : ruleCountLe a b = true ↔ rank a ≤ rank b := by
  simp only [ruleCountLe, rank, Uuid.le, Prod.Lex.toLex_le_toLex, Bool.or_eq_true, Bool.and_eq_true,
    decide_eq_true_eq, beq_iff_eq, Int.neg_lt_neg_iff, Int.neg_inj]

theorem before_iff : a.Before b ↔ rank a < rank b := by
  simp only [RuleCount.Before, rank, Prod.Lex.toLex_lt_toLex, Int.neg_lt_neg_iff, Int.neg_inj]

theorem ruleCountLe_trans (a b c : RuleCount) (first : ruleCountLe a b = true)
    (second : ruleCountLe b c = true) :
    ruleCountLe a c = true := by
  rw [ruleCountLe_iff] at first second ⊢
  exact first.trans second

theorem ruleCountLe_total (a b : RuleCount) : (ruleCountLe a b || ruleCountLe b a) = true := by
  rw [Bool.or_eq_true, ruleCountLe_iff, ruleCountLe_iff]
  exact le_total _ _

theorem id_eq_of_rank (same : rank a = rank b) : a.ruleId = b.ruleId := by
  simp only [rank, toLex_inj, Prod.mk.injEq] at same
  exact Uuid.toNat_inj.mp same.2.2

theorem before_of_ruleCountLe (le : ruleCountLe a b = true) (apart : a.ruleId ≠ b.ruleId) :
    a.Before b := by
  rw [ruleCountLe_iff] at le
  rw [before_iff]
  exact lt_of_le_of_ne le fun same => apart (id_eq_of_rank same)

theorem before_asymm (a b : RuleCount) (first : a.Before b) : ¬ b.Before a := by
  rw [before_iff] at first ⊢
  exact first.asymm

def dayLe (a b : DayCount) : Bool := b.day ≤ a.day

theorem dayLe_trans (a b c : DayCount) (first : dayLe a b = true) (second : dayLe b c = true) :
    dayLe a c = true := by
  simp only [dayLe, decide_eq_true_eq] at *
  omega

theorem dayLe_total (a b : DayCount) : (dayLe a b || dayLe b a) = true := by
  simp only [dayLe, Bool.or_eq_true, decide_eq_true_eq]
  omega

theorem later_of_dayLe {a b : DayCount} (le : dayLe a b = true) (apart : a.day ≠ b.day) :
    a.Later b := by
  simp only [dayLe, DayCount.Later, decide_eq_true_eq] at *
  omega

end Orders

/-- The project is there, and the entry belongs to a rule of it. -/
def countsFor (s : Store) (projectId : Uuid) (e : Entry) : Bool :=
  (s.project? projectId).isSome && s.rules.any fun r => r.id == e.ruleId && r.projectId == projectId

/-- The entries that are counted for a project. -/
def entriesOf (s : Store) (projectId : Uuid) : List Entry :=
  s.entries.filter (s.countsFor projectId)

/-- What a listing of a project shows. -/
def ofProject (s : Store) (projectId : Uuid) : List Detail :=
  s.details.filter (·.projectId == projectId)

theorem countsFor_iff : s.countsFor projectId e = true ↔
    (s.project? projectId).isSome ∧ ∃ r ∈ s.rules, r.id = e.ruleId ∧ r.projectId = projectId := by
  simp [countsFor]

theorem project?_id {p : Project} (found : s.project? projectId = some p) : p.id = projectId := by
  simpa using List.find?_some found

theorem rule?_eq_some (distinct : (s.rules.map (·.id)).Nodup) {id : Uuid} :
    s.rule? id = some r ↔ r ∈ s.rules ∧ r.id = id := Keyed.find?_eq_some_iff distinct

/-- An entry is shown for a project just when it is counted for it. -/
theorem detail?_filter (distinct : (s.rules.map (·.id)).Nodup) (projectId : Uuid) (e : Entry) :
    ((s.detail? e).filter (·.projectId == projectId)).map (·.entry) =
      if s.countsFor projectId e then some e else none := by
  by_cases counts : s.countsFor projectId e = true
  · obtain ⟨there, r, member, own, rfl⟩ := countsFor_iff.mp counts
    obtain ⟨p, found⟩ := Option.isSome_iff_exists.mp there
    have named : s.detail? e = some ⟨e, r.name, p.id, p.name⟩ :=
      detail?_eq_some.mpr ⟨r, p, (rule?_eq_some distinct).mpr ⟨member, own⟩, found, rfl⟩
    simp [named, counts, project?_id found]
  · rw [if_neg counts, Option.map_eq_none_iff, Option.filter_eq_none_iff]
    intro d named shown
    obtain ⟨r, p, rule, project, rfl⟩ := detail?_eq_some.mp named
    obtain ⟨member, own⟩ := (rule?_eq_some distinct).mp rule
    obtain rfl : p.id = projectId := by simpa using shown
    rw [project?_id project] at counts
    exact counts (countsFor_iff.mpr ⟨by rw [project]; rfl, r, member, own, rfl⟩)

theorem map_ofProject (distinct : (s.rules.map (·.id)).Nodup) (projectId : Uuid) :
    (s.ofProject projectId).map (·.entry) = s.entriesOf projectId := by
  rw [ofProject, details, List.filter_filterMap, List.map_filterMap, entriesOf,
    ← List.filterMap_eq_filter]
  refine List.filterMap_congr fun e _ => ?_
  rw [detail?_filter distinct, Option.guard]

/-- An entry is shown with the name of its rule. -/
theorem rule_of_ofProject (distinct : (s.rules.map (·.id)).Nodup)
    (shown : d ∈ s.ofProject projectId) :
    (s.project? projectId).isSome ∧
      ∃ r ∈ s.rules, r.projectId = projectId ∧ r.id = d.entry.ruleId ∧ r.name = d.ruleName := by
  obtain ⟨member, own⟩ := List.mem_filter.mp shown
  obtain ⟨e, -, named⟩ := List.mem_filterMap.mp member
  obtain ⟨r, p, rule, project, rfl⟩ := detail?_eq_some.mp named
  obtain ⟨there, same⟩ := (rule?_eq_some distinct).mp rule
  obtain rfl : p.id = projectId := by simpa using own
  have id := project?_id project
  exact ⟨by rw [id, project]; rfl, r, there, id.symm, same, rfl⟩

def ruleCounts (s : Store) (projectId : Uuid) : List RuleCount :=
  (tally ((s.ofProject projectId).map fun d => (d.entry.ruleId, d.ruleName))).map fun t =>
    ⟨t.1.1, t.1.2, t.2⟩

def dayCounts (s : Store) (projectId : Uuid) (since : Instant) : List DayCount :=
  (tally (((s.ofProject projectId).filter fun d => since.le d.entry.redeemedAt).map
    (·.entry.redeemedAt.dayNumber))).map fun t => ⟨t.1, t.2⟩

theorem count_rule (distinct : (s.rules.map (·.id)).Nodup) (there : (s.project? projectId).isSome)
    (member : r ∈ s.rules) (own : r.projectId = projectId) :
    ((s.ofProject projectId).map fun d => (d.entry.ruleId, d.ruleName)).countP
        (fun x => x = (r.id, r.name)) =
      s.entries.countP (·.ruleId == r.id) := by
  calc
    _ = (s.ofProject projectId).countP (·.entry.ruleId == r.id) := by
      rw [List.countP_map]
      refine List.countP_congr fun d shown => ?_
      obtain ⟨-, q, listed, -, same, name⟩ := rule_of_ofProject distinct shown
      have named : d.entry.ruleId = r.id → d.ruleName = r.name := by
        intro mine
        rw [← name, List.inj_on_of_nodup_map distinct listed member (same.trans mine)]
      simpa using named
    _ = (s.entriesOf projectId).countP (·.ruleId == r.id) := by
      rw [← map_ofProject distinct, List.countP_map]
      rfl
    _ = s.entries.countP (·.ruleId == r.id) := by
      rw [entriesOf, List.countP_filter]
      refine List.countP_congr fun e _ => ?_
      have counts : e.ruleId = r.id → s.countsFor projectId e = true := fun mine =>
        countsFor_iff.mpr ⟨there, r, member, mine.symm, own⟩
      simpa using counts

theorem mem_ruleCounts (distinct : (s.rules.map (·.id)).Nodup) {c : RuleCount} :
    c ∈ s.ruleCounts projectId ↔
      (s.project? projectId).isSome ∧ ∃ r ∈ s.rules, r.projectId = projectId ∧
        c = ⟨r.id, r.name, s.entries.countP (·.ruleId == r.id)⟩ ∧ 0 < c.count := by
  constructor
  · intro member
    obtain ⟨⟨⟨id, name⟩, n⟩, counted, rfl⟩ := List.mem_map.mp member
    obtain ⟨rfl, positive⟩ := mem_tally.mp counted
    obtain ⟨d, shown, same⟩ := List.mem_map.mp (countP_pos_iff_mem.mp positive)
    obtain ⟨project, r, listed, own, rfl, rfl⟩ : (s.project? projectId).isSome ∧
        ∃ r ∈ s.rules, r.projectId = projectId ∧ r.id = id ∧ r.name = name := by
      cases same
      exact rule_of_ofProject distinct shown
    rw [count_rule distinct project listed own] at positive ⊢
    exact ⟨project, r, listed, own, rfl, Int.natCast_pos.mpr positive⟩
  · rintro ⟨project, r, listed, own, rfl, positive⟩
    have count := count_rule distinct project listed own
    exact List.mem_map.mpr ⟨((r.id, r.name), _),
      mem_tally.mpr ⟨count, Int.natCast_pos.mp positive⟩, rfl⟩

theorem mem_dayCounts (distinct : (s.rules.map (·.id)).Nodup) {c : DayCount} :
    c ∈ s.dayCounts projectId since ↔
      ∃ day, c = ⟨day, (s.entriesOf projectId).countP fun e =>
          e.redeemedAt.dayNumber = day && since.le e.redeemedAt⟩ ∧
        0 < c.count := by
  have count (day : Int) :
      (((s.ofProject projectId).filter fun d => since.le d.entry.redeemedAt).map
      (·.entry.redeemedAt.dayNumber)).countP (fun x => x = day) =
        (s.entriesOf projectId).countP fun e =>
          e.redeemedAt.dayNumber = day && since.le e.redeemedAt := by
    rw [← map_ofProject distinct, List.countP_map, List.countP_map, List.countP_filter]
    rfl
  constructor
  · intro member
    obtain ⟨⟨day, n⟩, counted, rfl⟩ := List.mem_map.mp member
    obtain ⟨rfl, positive⟩ := mem_tally.mp counted
    rw [count] at positive ⊢
    exact ⟨day, rfl, Int.natCast_pos.mpr positive⟩
  · rintro ⟨day, rfl, positive⟩
    exact List.mem_map.mpr ⟨(day, _), mem_tally.mpr ⟨count day, Int.natCast_pos.mp positive⟩, rfl⟩

/-- The statistics of a project in terms of its entries. -/
structure Tells (s : Store) (projectId : Uuid) (since : Instant) (x : Statistics) : Prop where
  project : x.projectId = projectId
  total : x.total = (s.entriesOf projectId).length
  users : x.users = ((s.entriesOf projectId).filterMap (·.userId)).toFinset.card
  /-- A rule that has entries is there with the number of them. -/
  byRule : ∀ c, c ∈ x.byRule ↔ (s.project? projectId).isSome ∧ ∃ r ∈ s.rules,
    r.projectId = projectId ∧
    c = ⟨r.id, r.name, s.entries.countP (·.ruleId == r.id)⟩ ∧ 0 < c.count
  ruleOnce : (x.byRule.map (·.ruleId)).Nodup
  ruleOrder : x.byRule.Pairwise RuleCount.Before
  /-- So is a day, of which only what is not too early counts. -/
  byDay : ∀ c, c ∈ x.byDay ↔ ∃ day, c = ⟨day, (s.entriesOf projectId).countP fun e =>
    e.redeemedAt.dayNumber = day && since.le e.redeemedAt⟩ ∧ 0 < c.count
  dayOrder : x.byDay.Pairwise DayCount.Later

theorem statistics_eq (s : Store) (projectId : Uuid) (since : Instant) :
    s.statistics projectId since =
    { projectId := projectId
      total := (s.ofProject projectId).length
      users := (tally ((s.ofProject projectId).filterMap (·.entry.userId))).length
      byRule := (s.ruleCounts projectId).mergeSort ruleCountLe
      byDay := (s.dayCounts projectId since).mergeSort dayLe } := rfl

theorem nodup_ruleCounts (distinct : (s.rules.map (·.id)).Nodup) (projectId : Uuid) :
    ((s.ruleCounts projectId).map (·.ruleId)).Nodup := by
  have pairs := nodup_tally ((s.ofProject projectId).map fun d => (d.entry.ruleId, d.ruleName))
  have counts : (s.ruleCounts projectId).Nodup := by
    refine pairs.of_map.map ?_
    rintro ⟨⟨_, _⟩, _⟩ ⟨⟨_, _⟩, _⟩ same
    simpa [and_assoc, Int.natCast_inj] using same
  refine List.Nodup.map_on ?_ counts
  intro a left b right same
  obtain ⟨-, q, listed, -, rfl, -⟩ := (mem_ruleCounts distinct).mp left
  obtain ⟨-, r, member, -, rfl, -⟩ := (mem_ruleCounts distinct).mp right
  rw [List.inj_on_of_nodup_map distinct listed member same]

theorem tells_statistics (distinct : (s.rules.map (·.id)).Nodup) (projectId : Uuid)
    (since : Instant) :
    s.Tells projectId since (s.statistics projectId since) := by
  rw [statistics_eq]
  have once : (((s.ruleCounts projectId).mergeSort ruleCountLe).map (·.ruleId)).Nodup :=
    ((List.mergeSort_perm _ _).map _).nodup_iff.mpr (nodup_ruleCounts distinct projectId)
  constructor
  case project => rfl
  case total => rw [← map_ofProject distinct, List.length_map]
  case users =>
    rw [length_tally, ← map_ofProject distinct, List.filterMap_map]
    rfl
  case byRule =>
    intro c
    rw [List.mem_mergeSort, mem_ruleCounts distinct]
  case ruleOnce => exact once
  case ruleOrder =>
    have sorted := List.pairwise_mergeSort ruleCountLe_trans ruleCountLe_total
      (s.ruleCounts projectId)
    exact (sorted.and (List.pairwise_map.mp once)).imp fun ⟨le, apart⟩ =>
      before_of_ruleCountLe le apart
  case byDay =>
    intro c
    rw [List.mem_mergeSort, mem_dayCounts distinct]
  case dayOrder =>
    have days : ((s.dayCounts projectId since).map (·.day)).Nodup := by
      rw [dayCounts, List.map_map]
      exact nodup_tally _
    have apart := List.pairwise_map.mp (((List.mergeSort_perm _ dayLe).map _).nodup_iff.mpr days)
    have sorted := List.pairwise_mergeSort dayLe_trans dayLe_total (s.dayCounts projectId since)
    exact (sorted.and apart).imp fun ⟨le, ne⟩ => later_of_dayLe le ne

theorem Tells.eq {x y : Statistics} (first : s.Tells projectId since x)
    (second : s.Tells projectId since y) :
    x = y := by
  have byRule : x.byRule = y.byRule :=
    Keyed.eq_of_ordered before_asymm first.ruleOrder second.ruleOrder
    fun c => (first.byRule c).trans (second.byRule c).symm
  have byDay : x.byDay = y.byDay :=
    Keyed.eq_of_ordered (fun _ _ => Int.lt_asymm) first.dayOrder second.dayOrder
    fun c => (first.byDay c).trans (second.byDay c).symm
  have project := first.project.trans second.project.symm
  have total := first.total.trans second.total.symm
  have users := first.users.trans second.users.symm
  cases x
  cases y
  simp only [Statistics.mk.injEq]
  exact ⟨project, total, users, byRule, byDay⟩

/-- Nothing that is told depends on the order of entries and rules. -/
theorem Tells.reorder {x : Statistics} (tells : s.Tells projectId since x)
    (entries : t.entries.Perm s.entries) (rules : ∀ r, r ∈ t.rules ↔ r ∈ s.rules)
    (project : t.project? projectId = s.project? projectId) :
    t.Tells projectId since x := by
  have counts : t.countsFor projectId = s.countsFor projectId := by
    funext e
    rw [Bool.eq_iff_iff, countsFor_iff, countsFor_iff, project]
    simp only [rules]
  have own : (t.entriesOf projectId).Perm (s.entriesOf projectId) := by
    rw [entriesOf, entriesOf, counts]
    exact entries.filter _
  constructor
  case project => exact tells.project
  case total => rw [tells.total, own.length_eq]
  case users => rw [tells.users, List.toFinset_eq_of_perm _ _ (own.filterMap _)]
  case byRule =>
    intro c
    simp only [tells.byRule, project, rules, entries.countP_eq]
  case ruleOnce => exact tells.ruleOnce
  case ruleOrder => exact tells.ruleOrder
  case byDay =>
    intro c
    simp only [tells.byDay, own.countP_eq]
  case dayOrder => exact tells.dayOrder

theorem sum_ruleCounts (s : Store) (projectId : Uuid) :
    ((s.ruleCounts projectId).map (·.count)).sum = (s.ofProject projectId).length := by
  rw [ruleCounts, List.map_map]
  exact (sum_tally _).trans (by rw [List.length_map])

theorem sum_dayCounts (s : Store) (projectId : Uuid) (since : Instant) :
    ((s.dayCounts projectId since).map (·.count)).sum =
      ((s.ofProject projectId).filter fun d => since.le d.entry.redeemedAt).length := by
  rw [dayCounts, List.map_map]
  exact (sum_tally _).trans (by rw [List.length_map])

/-- A listing of a project from an instant on, or of all of it. -/
theorem list_total (s : Store) (projectId : Uuid) (since : Option Instant) (page limit : Int64) :
    (s.list ⟨some projectId, since, none, page, limit⟩).2 =
      ((s.ofProject projectId).filter fun d => since.all (·.le d.entry.redeemedAt)).length := by
  have shown : Filter.admits ⟨some projectId, since, none, page, limit⟩ =
      fun d => since.all (·.le d.entry.redeemedAt) && d.projectId == projectId := by
    funext d
    cases since <;> simp [Filter.admits, Bool.and_comm]
  simp only [list, matching, List.length_mergeSort, ofProject, List.filter_filter, shown]

theorem statistics_missing (missing : s.project? projectId = none) (since : Instant) :
    s.statistics projectId since = .empty projectId := by
  have nothing : s.ofProject projectId = [] := by
    rw [ofProject, List.filter_eq_nil_iff]
    intro d shown
    obtain ⟨e, -, named⟩ := List.mem_filterMap.mp shown
    obtain ⟨r, p, -, project, rfl⟩ := detail?_eq_some.mp named
    rw [beq_iff_eq]
    rintro rfl
    rw [project?_id project, project] at missing
    contradiction
  simp [statistics_eq, ruleCounts, dayCounts, nothing, tally, Statistics.empty]

/-- The statistics of a project are those of its entries and agree with its listings, in whatever
order entries, rules and counts are gone through. -/
theorem statistics_settled (distinct : (s.rules.map (·.id)).Nodup) (projectId : Uuid)
    (since : Instant) :
    (∀ x, s.Tells projectId since x ↔ x = s.statistics projectId since) ∧
    (∀ page limit, (s.statistics projectId since).total =
      (s.list ⟨some projectId, none, none, page, limit⟩).2) ∧
    ((s.statistics projectId since).byRule.map (·.count)).sum =
      (s.statistics projectId since).total ∧
    (∀ page limit, ((s.statistics projectId since).byDay.map (·.count)).sum =
      (s.list ⟨some projectId, some since, none, page, limit⟩).2) ∧
    (∀ counts : List RuleCount, counts.Perm (s.statistics projectId since).byRule →
      counts.mergeSort ruleCountLe = (s.statistics projectId since).byRule) ∧
    (∀ t : Store, (t.rules.map (·.id)).Nodup → t.entries.Perm s.entries →
      (∀ r, r ∈ t.rules ↔ r ∈ s.rules) →
      t.project? projectId = s.project? projectId → t.statistics projectId since =
        s.statistics projectId since) ∧
    (s.project? projectId = none → s.statistics projectId since = .empty projectId) := by
  have tells := tells_statistics distinct projectId since
  refine ⟨?_, ?_, ?_, ?_, ?_, ?_, ?_⟩
  · intro x
    constructor
    · intro told
      exact told.eq tells
    · rintro rfl
      exact tells
  · intro page limit
    simp [statistics_eq, list_total]
  · rw [statistics_eq, ((List.mergeSort_perm _ _).map _).sum_eq, sum_ruleCounts]
  · intro page limit
    rw [statistics_eq, ((List.mergeSort_perm _ _).map _).sum_eq, sum_dayCounts, list_total]
    rfl
  · intro counts perm
    rw [statistics_eq] at perm ⊢
    refine Keyed.mergeSort_eq_of_perm ruleCountLe_trans ruleCountLe_total ?_
      (perm.trans (List.mergeSort_perm _ _))
    intro a left b right first second
    rw [ruleCountLe_iff] at first second
    have listed {c} (there : c ∈ counts) : c ∈ s.ruleCounts projectId :=
      List.mem_mergeSort.mp (perm.mem_iff.mp there)
    exact List.inj_on_of_nodup_map (nodup_ruleCounts distinct projectId) (listed left)
      (listed right) (id_eq_of_rank (le_antisymm first second))
  · intro t others entries rules project
    exact (tells_statistics others projectId since).eq (tells.reorder entries rules project)
  · intro missing
    exact statistics_missing missing since

/-- Two codes of one rule and one of another, redeemed on two days by one consumer. -/
def kiosk (order : List Entry → List Entry) : Store :=
  { Store.empty with
    projects := [.sample]
    rules := [{ Rule.sample with id := .ofNat 1, name := "B" },
      { Rule.sample with id := .ofNat 2, name := "A" }]
    entries := order
      [{ (default : Entry) with
          id := .ofNat 1, ruleId := .ofNat 1, userId := some "u", redeemedAt := ⟨5, 0⟩ },
        { (default : Entry) with
          id := .ofNat 2, ruleId := .ofNat 2, redeemedAt := ⟨86400, 0⟩ },
        { (default : Entry) with
          id := .ofNat 3, ruleId := .ofNat 2, userId := some "u", redeemedAt := ⟨86405, 0⟩ }] }

theorem statistics_settled_kiosk :
    (kiosk List.reverse).statistics .nil ⟨86400, 0⟩ = (kiosk id).statistics .nil ⟨86400, 0⟩ ∧
      (kiosk id).Tells .nil ⟨86400, 0⟩ ⟨.nil, 3, 1, [⟨.ofNat 2, "A", 2⟩, ⟨.ofNat 1, "B", 1⟩],
        [⟨1, 2⟩]⟩ := by
  obtain ⟨tells, -, -, -, -, reorder, -⟩ :=
    statistics_settled (s := kiosk id) (by decide) .nil ⟨86400, 0⟩
  refine ⟨reorder (kiosk List.reverse) (by decide) (List.reverse_perm _) (fun r => Iff.rfl) rfl,
    (tells _).mpr ?_⟩
  rw [statistics_eq, List.mergeSort_of_pairwise (by decide), List.mergeSort_of_pairwise (by decide)]
  decide

end Store

end Voucher.Ledger
