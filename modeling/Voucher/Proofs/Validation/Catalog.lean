import Voucher.Proofs.Ledger.Catalog
import Voucher.Proofs.Validation.Questions

/-! Validations do not see how the rules came into the store: two stores with the
same rules decide alike. -/
namespace Voucher

open Ledger

namespace Service.Deployment

variable {d : Deployment} {t : Store} {projectId : Uuid} {α : Type} {m : Action α}

/-- A deployment with the projects and rules of another store. -/
def restocked (d : Deployment) (t : Store) : Deployment :=
  { d with store := { d.store with projects := t.projects, rules := t.rules } }

/-- Of projects and rules a validation sees one book only. -/
theorem serve_restocked (book : t.ruleBook? projectId = d.store.ruleBook? projectId) {q : Call}
    (asked : Validation.Asked projectId q) :
    serve q (d.restocked t) = ((serve q d).1, (serve q d).2.restocked t) := by
  have impossible (r : Call) (loading : ¬ Cache.Rules.Loading projectId r)
      (concluding : r.isConcluding = false) :
      ¬ Validation.Asked projectId r := by simp [Validation.Asked, loading, concluding]
  cases q with
  | now | freshId | fetchEntry | count => rfl
  | findDetail | listDetails | statistics | deleteCached | deleteCachedMatching =>
      exact absurd asked (impossible _ not_false rfl)
  | fetchRuleBook other =>
      obtain rfl : other = projectId := asked.resolve_right Bool.false_ne_true
      have same : (d.restocked t).store.ruleBook? other = d.store.ruleBook? other := book
      simp only [serve, Store.fetchRuleBook, same]
      rfl
  | readCache | writeCache | acquire | release =>
      have backing : (d.restocked t).backing = d.backing := rfl
      cases held : d.backing <;>
        simp only [serve, readCache, writeCache, acquire, release, takeIdentifier, readClock,
          backing, held] <;>
        rfl
  | insertEntry draft =>
      have index : (d.restocked t).store.index = d.store.index := rfl
      simp only [serve, insertEntry, Store.insertEntry, takeIdentifier, readClock, index]
      cases d.store.index.lookup (draft.ruleId, draft.codeHash) <;> rfl
  | incrementEntry id limit =>
      have entry : (d.restocked t).store.entry? id = d.store.entry? id := rfl
      simp only [serve, incrementEntry, Store.incrementEntry, entry]
      cases d.store.entry? id with
      | none => rfl
      | some e =>
          by_cases reached : limit ≤ e.count
          · simp only [reached, if_true]
          · simp only [reached, if_false]
            rfl

theorem strike_restocked (book : t.ruleBook? projectId = d.store.ruleBook? projectId) {q : Call}
    (asked : Validation.Asked projectId q) (outage : Outage) :
    strike q outage (d.restocked t) =
      ((strike q outage d).1, (strike q outage d).2.restocked t) := by
  have served := serve_restocked book asked
  cases q with
  | insertEntry draft =>
      cases outage with
      | fails | refuses => rfl
      | overtakes => exact congrArg (Prod.mk _) (congrArg Prod.snd served)
  | _ => cases outage <;> first | rfl | exact served

theorem answer_restocked (book : t.ruleBook? projectId = d.store.ruleBook? projectId) {q : Call}
    (asked : Validation.Asked projectId q) :
    answer q (d.restocked t) = ((answer q d).1, (answer q d).2.restocked t) := by
  have struck : (d.restocked t).outages = d.outages := rfl
  unfold answer
  rw [struck]
  cases q.target?.bind fun x => d.outages.lookup x with
  | none => exact serve_restocked book asked
  | some outage => exact strike_restocked book asked outage

/-- An answer leaves projects and rules as they are, so a whole run goes alike. -/
theorem perform_restocked (asks : m.Asks (Validation.Asked projectId))
    (book : t.ruleBook? projectId = d.store.ruleBook? projectId) :
    (d.restocked t).perform m = ((d.perform m).1, (d.perform m).2.restocked t) := by
  unfold perform
  induction m generalizing d with
  | done a => rfl
  | ask q k ih =>
      obtain ⟨asked, after⟩ := asks
      have still : t.ruleBook? projectId = (answer q d).2.store.ruleBook? projectId :=
        book.trans ((answer_sameCatalog q d).ruleBook? projectId).symm
      rw [Script.run, Script.run, answer_restocked book asked]
      exact ih _ (after _) still

end Service.Deployment

namespace Validation

open Service

/-- Whatever has been done to the rules of a store, no two share an identifier, and under each there
is the version put in last with the changes made since. They are tried in an order that they alone
settle, so a store that has come to the same rules on another way decides alike. -/
theorem rules_settle_order (start : Store) (revisions : List Revision)
    (distinct : (start.rules.map (·.id)).Nodup) (keep : ∀ x ∈ revisions, x.KeepsId) :
    ((start.revised revisions).rules.map (·.id)).Nodup ∧
    (∀ before r after, revisions = before ++ .insert r :: after → (∀ x ∈ after, ¬ x.Inserts r.id) →
      (start.revised revisions).rule? r.id = some (Revision.amendAll after r)) ∧
    (∀ id, (∀ x ∈ revisions, ¬ x.Inserts id) →
      (start.revised revisions).rule? id = (start.rule? id).map (Revision.amendAll revisions)) ∧
    (∀ projectId project, (start.revised revisions).project? projectId = some project →
      ∃ rules, ((start.revised revisions).fetchRuleBook projectId).1 = some ⟨project, rules⟩ ∧
        (start.revised revisions).Tries projectId rules) ∧
    ∀ t : Store, (t.rules.map (·.id)).Nodup →
      (∀ r, r ∈ t.rules ↔ r ∈ (start.revised revisions).rules) →
      ∀ projectId, t.project? projectId = (start.revised revisions).project? projectId →
        (t.fetchRuleBook projectId).1 = ((start.revised revisions).fetchRuleBook projectId).1 ∧
        ∀ (d : Deployment) policy request, d.store = start.revised revisions →
        request.projectId = projectId →
          (d.restocked t).perform (run policy request) =
            ((d.perform (run policy request)).1,
              (d.perform (run policy request)).2.restocked t) := by
  have ids := Store.nodup_revised keep distinct
  refine ⟨ids, ?_, ?_, ?_, ?_⟩
  · rintro before r after rfl last
    exact Store.rule?_revised_insert (fun x member => keep x (by simp [member])) last
  · intro id others
    exact Store.rule?_revised keep others
  · intro projectId project there
    refine ⟨_, ?_, Store.tries_sorted ids projectId⟩
    rw [Store.fetchRuleBook, Store.ruleBook?, there]
    rfl
  · intro t others rules projectId project
    have book := Store.ruleBook?_congr ids others rules project
    refine ⟨book, ?_⟩
    rintro d policy request stored rfl
    exact Deployment.perform_restocked (run_asks policy request) (stored ▸ book)

/-- Putting in rules one after the other, and withdrawing the second one afterwards. -/
def restocking (rules : List Rule) : List Revision :=
  rules.map .insert ++ [.update (.ofNat 2) fun r => { r with isActive := false }]

/-- A service whose rules came into its store in this way. -/
def restockedCatalog (rules : List Rule) : Deployment :=
  { catalog [] with store := (Store.empty.insertProject .sample).revised (restocking rules) }

/-- Three rules decide alike whether they were put in forwards or backwards, and the one withdrawn
is not active. -/
theorem rules_settle_order_shelf :
    ((restockedCatalog shelf.reverse).perform (run default (trial "79927398712"))).1 =
      ((restockedCatalog shelf).perform (run default (trial "79927398712"))).1 ∧
    ((restockedCatalog shelf).store.rule? (.ofNat 2)).map (·.isActive) = some false := by
  have keep : ∀ x ∈ restocking shelf, x.KeepsId := by
    intro x member
    obtain there | withdrawn := List.mem_append.mp member
    · obtain ⟨r, -, rfl⟩ := List.mem_map.mp there
      trivial
    · obtain rfl := List.mem_singleton.mp withdrawn
      exact fun _ => rfl
  obtain ⟨-, last, -, -, alike⟩ :=
    rules_settle_order (Store.empty.insertProject .sample) (restocking shelf) (by decide) keep
  constructor
  · obtain ⟨-, decides⟩ := alike (restockedCatalog shelf.reverse).store (by decide)
      (fun r => (List.mem_reverse : r ∈ (restockedCatalog shelf).store.rules.reverse ↔ _)) .nil rfl
    have decided :=
      congrArg Prod.fst (decides (restockedCatalog shelf) default (trial "79927398712") rfl rfl)
    exact decided
  · have apart : Uuid.ofNat 3 ≠ .ofNat 2 := by decide
    have kept := last [_] { plainRule with id := .ofNat 2 } [.insert _, .update _ _] rfl
      (List.forall_mem_cons.mpr ⟨apart, List.forall_mem_singleton.mpr not_false⟩)
    exact congrArg (Option.map (·.isActive)) kept

end Validation

end Voucher
