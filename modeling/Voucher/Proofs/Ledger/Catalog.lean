import Voucher.Proofs.Keyed
import Voucher.Proofs.Ledger.Listing

/-! The rules of a store under insertions and changes, and the order in which the rules of a project
are tried. The order depends on what rules there are, not on how they came to be there. -/
namespace Voucher

/-- Created before, or at the same instant and under the smaller identifier. -/
def Rule.Earlier (a b : Rule) : Prop :=
  a.createdAt.lt b.createdAt ∨ a.createdAt = b.createdAt ∧ a.id.toNat < b.id.toNat

namespace Ledger

/-- What is done to the rules of a store. -/
inductive Revision where
  | insert (r : Rule)
  | update (id : Uuid) (change : Rule → Rule)

namespace Revision

def apply : Revision → Store → Store
  | insert r, s => s.insertRule r
  | update id change, s => (s.updateRule id change).2

/-- A change leaves the identifier of the rule as it is. -/
def KeepsId : Revision → Prop
  | insert _ => True
  | update _ change => ∀ r, (change r).id = r.id

/-- A new version of a rule is put in. -/
def Inserts (id : Uuid) : Revision → Prop
  | insert r => r.id = id
  | update .. => False

/-- What becomes of a rule for which no new version is put in. -/
def amend : Revision → Rule → Rule
  | insert _, r => r
  | update id change, r => if r.id = id then change r else r

def amendAll (revisions : List Revision) (r : Rule) : Rule :=
  revisions.foldl (fun r x => x.amend r) r

end Revision

namespace Store

def revised (s : Store) (revisions : List Revision) : Store :=
  revisions.foldl (fun s x => x.apply s) s

variable {s t : Store} {x : Revision} {revisions : List Revision} {id : Uuid} {r : Rule}
  {change : Rule → Rule}

theorem map_updateFirst (keeps : ∀ r, (change r).id = r.id) (id : Uuid) (rules : List Rule) :
    (updateFirst id change rules).map (·.id) = rules.map (·.id) := by
  induction rules with
  | nil => rfl
  | cons r rest ih =>
      rw [updateFirst]
      split
      · rw [List.map_cons, keeps, List.map_cons]
      · rw [List.map_cons, ih, List.map_cons]

theorem amend_apart (apart : r.id ≠ id) : (Revision.update id change).amend r = r := if_neg apart

/-- Changing the first rule with an identifier changes what is found under it, and nothing else. -/
theorem find?_updateFirst (keeps : ∀ r, (change r).id = r.id) (id other : Uuid)
    (rules : List Rule) :
    (updateFirst id change rules).find? (·.id == other) =
      (rules.find? (·.id == other)).map (Revision.update id change).amend := by
  induction rules with
  | nil => rfl
  | cons r rest ih =>
      rw [updateFirst]
      by_cases named : r.id = id
      · rw [if_pos named]
        by_cases found : r.id = other
        · simp [keeps, found, Revision.amend, ← named]
        · have apart : ∀ q ∈ rest.find? (·.id == other),
              (Revision.update id change).amend q = q := by
            intro q later
            have own : q.id = other := by simpa using List.find?_some later
            exact amend_apart (by rw [own, ← named]; exact Ne.symm found)
          rw [List.find?_cons_of_neg
            (by simpa [keeps] using found), List.find?_cons_of_neg (by simpa using found)]
          cases later : rest.find? (·.id == other) with
          | none => rfl
          | some q => rw [Option.map_some, apart q later]
      · rw [if_neg named]
        by_cases found : r.id = other
        · have apart : other ≠ id := found ▸ named
          simp [found, Revision.amend, apart]
        · rw [List.find?_cons_of_neg
            (by simpa using found), List.find?_cons_of_neg (by simpa using found), ih]

/-- A revision leaves no two rules under one identifier. -/
theorem nodup_apply (keeps : x.KeepsId) (distinct : (s.rules.map (·.id)).Nodup) :
    ((x.apply s).rules.map (·.id)).Nodup := by
  cases x with
  | insert r =>
      have others : ((s.rules.filter (·.id != r.id)).map (·.id)).Nodup :=
        distinct.sublist (List.filter_sublist.map _)
      simp only [Revision.apply, insertRule, List.map_append, List.map_singleton]
      rw [List.nodup_append]
      refine ⟨others, List.nodup_singleton _, ?_⟩
      rintro _ member _ own rfl
      obtain ⟨q, kept, same⟩ := List.mem_map.mp member
      rw [List.mem_singleton] at own
      exact absurd (same.trans own) (by simpa using (List.mem_filter.mp kept).2)
  | update id change =>
      simp only [Revision.apply, updateRule, map_updateFirst keeps]
      exact distinct

theorem rule?_apply_insert (s : Store) (r : Rule) :
    ((Revision.insert r).apply s).rule? r.id = some r := by
  have gone : (s.rules.filter (·.id != r.id)).find? (·.id == r.id) = none := by
    rw [List.find?_eq_none]
    intro q kept
    have other := (List.mem_filter.mp kept).2
    simpa using other
  simp only [Revision.apply, insertRule, rule?, List.find?_append, gone]
  simp

/-- Without a new version a rule is what the revision makes of it. -/
theorem rule?_apply (keeps : x.KeepsId) (others : ¬ x.Inserts id) :
    (x.apply s).rule? id = (s.rule? id).map x.amend := by
  cases x with
  | insert r =>
      have apart : r.id ≠ id := others
      have kept : (s.rules.filter (·.id != r.id)).find? (·.id == id) =
          s.rules.find? (·.id == id) := by
        rw [List.find?_filter]
        congr 1
        funext q
        by_cases own : q.id = id
        · simp [own, apart.symm]
        · simp [own]
      have absent : ([r].find? (·.id == id)) = none := by simpa using apart
      simp only [Revision.apply, insertRule, rule?, List.find?_append, kept, absent, Option.or_none]
      exact Option.map_id'.symm
  | update other change => exact find?_updateFirst keeps other id s.rules

theorem nodup_revised (keep : ∀ x ∈ revisions, x.KeepsId) (distinct : (s.rules.map (·.id)).Nodup) :
    ((s.revised revisions).rules.map (·.id)).Nodup := by
  induction revisions generalizing s with
  | nil => exact distinct
  | cons x rest ih =>
      obtain ⟨first, more⟩ := List.forall_mem_cons.mp keep
      exact ih more (nodup_apply first distinct)

/-- A rule of which no new version is put in is the old one with all changes. -/
theorem rule?_revised (keep : ∀ x ∈ revisions, x.KeepsId)
    (others : ∀ x ∈ revisions, ¬ x.Inserts id) :
    (s.revised revisions).rule? id = (s.rule? id).map (Revision.amendAll revisions) := by
  induction revisions generalizing s with
  | nil => exact Option.map_id'.symm
  | cons x rest ih =>
      obtain ⟨first, more⟩ := List.forall_mem_cons.mp keep
      obtain ⟨other, later⟩ := List.forall_mem_cons.mp others
      have step := rule?_apply first other (s := s)
      rw [revised, List.foldl_cons]
      exact (ih more later).trans (by rw [step, Option.map_map]; rfl)

/-- Otherwise it is the last version that was put in, with all later changes. -/
theorem rule?_revised_insert {before after : List Revision} (keep : ∀ x ∈ after, x.KeepsId)
    (last : ∀ x ∈ after, ¬ x.Inserts r.id) :
    (s.revised (before ++ .insert r :: after)).rule? r.id = some (Revision.amendAll after r) := by
  have split : s.revised (before ++ .insert r :: after) =
      ((Revision.insert r).apply (s.revised before)).revised after := by
    simp only [revised, List.foldl_append, List.foldl_cons]
  rw [split, rule?_revised keep last, rule?_apply_insert]
  rfl

theorem ruleLe_eq (a b : Rule) : ruleLe a b = stampLe (a.createdAt, a.id) (b.createdAt, b.id) := rfl

theorem ruleLe_trans (a b c : Rule) (first : ruleLe a b = true) (second : ruleLe b c = true) :
    ruleLe a c = true := by
  rw [ruleLe_eq] at *
  exact stampLe_trans first second

theorem ruleLe_total (a b : Rule) : (ruleLe a b || ruleLe b a) = true := by
  rw [ruleLe_eq, ruleLe_eq]
  exact stampLe_total _ _

theorem earlier_of_ruleLe {a b : Rule} (le : ruleLe a b = true) (apart : a.id ≠ b.id) :
    a.Earlier b := by
  rw [ruleLe_eq] at le
  exact lt_of_stampLe le apart

theorem id_eq_of_ruleLe {a b : Rule} (first : ruleLe a b = true) (second : ruleLe b a = true) :
    a.id = b.id := by
  rw [ruleLe_eq] at first second
  exact id_eq_of_stampLe first second

/-- The rules of a project that are active. -/
def active (s : Store) (projectId : Uuid) : List Rule :=
  s.rules.filter fun r => r.projectId == projectId && r.isActive

theorem mem_active {projectId : Uuid} :
    r ∈ s.active projectId ↔ r ∈ s.rules ∧ r.projectId = projectId ∧ r.isActive := by
  simp [active]

theorem nodup_active (distinct : (s.rules.map (·.id)).Nodup) (projectId : Uuid) :
    ((s.active projectId).map (·.id)).Nodup := distinct.sublist (List.filter_sublist.map _)

/-- These are the active rules of a project, each once, in the order of their creation. -/
structure Tries (s : Store) (projectId : Uuid) (rules : List Rule) : Prop where
  mem_iff : ∀ r, r ∈ rules ↔ r ∈ s.rules ∧ r.projectId = projectId ∧ r.isActive
  once : rules.Nodup
  ordered : rules.Pairwise Rule.Earlier

theorem tries_sorted (distinct : (s.rules.map (·.id)).Nodup) (projectId : Uuid) :
    s.Tries projectId ((s.active projectId).mergeSort ruleLe) := by
  have ids : (((s.active projectId).mergeSort ruleLe).map (·.id)).Nodup :=
    (((List.mergeSort_perm _ _).map _).nodup_iff).mpr (nodup_active distinct projectId)
  constructor
  case mem_iff =>
    intro r
    rw [List.mem_mergeSort, mem_active]
  case once => exact ids.of_map
  case ordered =>
    have sorted := List.pairwise_mergeSort ruleLe_trans ruleLe_total (s.active projectId)
    exact (sorted.and (List.pairwise_map.mp ids)).imp fun ⟨le, apart⟩ => earlier_of_ruleLe le apart

/-- The order in which the rules of a project are tried only depends on what rules there are. -/
theorem ruleBook?_congr (distinct : (s.rules.map (·.id)).Nodup)
    (others : (t.rules.map (·.id)).Nodup)
    (rules : ∀ r, r ∈ t.rules ↔ r ∈ s.rules) {projectId : Uuid}
    (project : t.project? projectId = s.project? projectId) :
    t.ruleBook? projectId = s.ruleBook? projectId := by
  have perm : (t.active projectId).Perm (s.active projectId) := by
    refine (List.perm_ext_iff_of_nodup (nodup_active others projectId).of_map
      (nodup_active distinct projectId).of_map).mpr ?_
    intro r
    rw [mem_active, mem_active, rules]
  have sorted : (t.active projectId).mergeSort ruleLe = (s.active projectId).mergeSort ruleLe := by
    refine Keyed.mergeSort_eq_of_perm ruleLe_trans ruleLe_total ?_ perm
    intro a left b right first second
    exact List.inj_on_of_nodup_map (nodup_active others projectId) left right
      (id_eq_of_ruleLe first second)
  unfold active at sorted
  rw [ruleBook?, ruleBook?, project, sorted]

end Store

end Ledger

end Voucher
