import Voucher.Ledger.Store
import Voucher.Proofs.Keyed

/-! The index of a store lists its entries, each under its own rule and hash, and neither
identifiers nor keys are shared. Every operation keeps this, so looking up a key finds the one entry
that has it. -/
namespace Voucher

theorem Rule.toInt_redemptionLimit (rule : Rule) :
    rule.redemptionLimit.toInt = max 1 rule.maxRedemptions.toInt := by
  have one : (1 : Int32).toInt = 1 := rfl
  unfold Rule.redemptionLimit
  split <;> rename_i small <;> rw [Int32.lt_iff_toInt_lt, one] at small <;> omega

end Voucher

namespace Voucher.Ledger

/-- What an entry is found by: its rule and the hash of its code. -/
abbrev Key := Uuid × String

def Entry.key (e : Entry) : Key := (e.ruleId, e.codeHash)

def Draft.key (d : Draft) : Key := (d.ruleId, d.codeHash)

@[simp] theorem Draft.entry_key (d : Draft) (id : Uuid) (now : Instant) :
    (d.entry id now).key = d.key := rfl

@[simp] theorem Draft.entry_id (d : Draft) (id : Uuid) (now : Instant) :
    (d.entry id now).id = id := rfl

namespace Store

@[simp] theorem increment_id (e : Entry) : (increment e).id = e.id := rfl

@[simp] theorem increment_redeemedAt (e : Entry) : (increment e).redeemedAt = e.redeemedAt := rfl

/-- Below a limit a count has room for one more: nothing wraps. -/
theorem increment_count {e : Entry} {limit : Int32} (below : ¬ limit ≤ e.count) :
    (increment e).count.toInt = e.count.toInt + 1 := by
  have room := Int32.toInt_lt limit
  have low := Int32.le_toInt e.count
  rw [Int32.le_iff_toInt_le] at below
  have one : (1 : Int32).toInt = 1 := rfl
  rw [increment, Int32.toInt_add, one]
  exact Int.bmod_eq_of_le_mul_two (by omega) (by omega)

theorem le_increment_count {e : Entry} {limit : Int32} (below : ¬ limit ≤ e.count) :
    e.count ≤ (increment e).count := by
  rw [Int32.le_iff_toInt_le, increment_count below]
  omega

theorem increment_count_le {e : Entry} {limit : Int32} (below : ¬ limit ≤ e.count) :
    (increment e).count ≤ limit := by
  have more := increment_count below
  rw [Int32.le_iff_toInt_le] at below ⊢
  omega

/-- Counts one more on the entry with an identifier. -/
def raise (id : Uuid) (e : Entry) : Entry := if e.id = id then increment e else e

@[simp] theorem raise_id (id : Uuid) (e : Entry) : (raise id e).id = e.id := by
  unfold raise
  split <;> rfl

@[simp] theorem raise_key (id : Uuid) (e : Entry) : (raise id e).key = e.key := by
  unfold raise
  split <;> rfl

theorem fetchEntry_of_same {s t : Store} (entries : t.entries = s.entries)
    (index : t.index = s.index)
    (ruleId : Uuid) (hash : String) : t.fetchEntry ruleId hash = s.fetchEntry ruleId hash := by
  unfold fetchEntry entry?
  rw [entries, index]

structure Consistent (s : Store) : Prop where
  index_eq : s.index = s.entries.map fun e => (e.key, e.id)
  ids : (s.entries.map (·.id)).Nodup
  keys : (s.entries.map Entry.key).Nodup
  positive : ∀ e ∈ s.entries, 1 ≤ e.count

/-- The stores that operations make of the empty one. An entry is made under an identifier that no
other entry has; projects and rules come and change at will. -/
inductive Built : Store → Prop where
  | empty : Built empty
  | insertProject (p : Project) : Built s → Built (s.insertProject p)
  | insertRule (r : Rule) : Built s → Built (s.insertRule r)
  | updateRule (id : Uuid) (change : Rule → Rule) : Built s → Built (s.updateRule id change).2
  | fetchRuleBook (projectId : Uuid) : Built s → Built (s.fetchRuleBook projectId).2
  | insertEntry {id : Uuid} (d : Draft) (now : Instant) : Built s → s.entry? id = none →
      Built (s.insertEntry d id now).2
  | incrementEntry (id : Uuid) (limit : Int32) : Built s → Built (s.incrementEntry id limit).2

theorem consistent_empty : empty.Consistent := by
  constructor <;> simp [empty]

namespace Consistent

variable {s t : Store} {id ruleId : Uuid} {hash : String} {e : Entry}

/-- Projects, rules and the count of loads do not matter. -/
theorem of_same (h : s.Consistent) (entries : t.entries = s.entries) (index : t.index = s.index) :
    t.Consistent := by
  obtain ⟨index_eq, ids, keys, positive⟩ := h
  exact ⟨by rw [index, entries, index_eq], entries ▸ ids, entries ▸ keys, entries ▸ positive⟩

theorem id_unique (h : s.Consistent) (ha : a ∈ s.entries) (hb : b ∈ s.entries)
    (same : a.id = b.id) :
    a = b :=
  List.inj_on_of_nodup_map h.ids ha hb same

theorem entry?_eq_some (h : s.Consistent) : s.entry? id = some e ↔ e ∈ s.entries ∧ e.id = id :=
  Keyed.find?_eq_some_iff h.ids

theorem fetchEntry_eq_find? (h : s.Consistent) :
    s.fetchEntry ruleId hash = s.entries.find? fun e => e.key == (ruleId, hash) := by
  rw [fetchEntry, h.index_eq, Keyed.lookup_map]
  cases found : s.entries.find? fun e => e.key == (ruleId, hash) with
  | none => rfl
  | some e => exact h.entry?_eq_some.mpr ⟨List.mem_of_find?_eq_some found, rfl⟩

theorem fetchEntry_eq_some (h : s.Consistent) :
    s.fetchEntry ruleId hash = some e ↔ e ∈ s.entries ∧ e.key = (ruleId, hash) := by
  rw [h.fetchEntry_eq_find?]
  exact Keyed.find?_eq_some_iff h.keys

theorem fetchEntry_eq_none (h : s.Consistent) :
    s.fetchEntry ruleId hash = none ↔ ∀ e ∈ s.entries, e.key ≠ (ruleId, hash) := by
  rw [h.fetchEntry_eq_find?]
  exact Keyed.find?_eq_none_iff

/-- The index has a key exactly if an entry has it. -/
theorem lookup_index (h : s.Consistent) :
    s.index.lookup (ruleId, hash) = (s.fetchEntry ruleId hash).map (·.id) := by
  rw [h.fetchEntry_eq_find?, h.index_eq, Keyed.lookup_map]

/-- A second entry of a key is refused. -/
theorem insertEntry_taken (h : s.Consistent) {d : Draft}
    (taken : s.fetchEntry d.ruleId d.codeHash = some e) (id : Uuid) (now : Instant) :
    s.insertEntry d id now = (none, s) := by
  have listed : s.index.lookup (d.ruleId, d.codeHash) = some e.id := by
    rw [h.lookup_index, taken]
    rfl
  simp only [insertEntry, listed]

theorem insertEntry_made (h : s.Consistent) {d : Draft}
    (free : s.fetchEntry d.ruleId d.codeHash = none) (id : Uuid) (now : Instant) :
    (s.insertEntry d id now).1 = some (d.entry id now) := by
  have unlisted : s.index.lookup (d.ruleId, d.codeHash) = none := by
    rw [h.lookup_index, free]
    rfl
  simp only [Store.insertEntry, unlisted]

/-- The first entry of a key is put behind the others. -/
theorem insertEntry_free (h : s.Consistent) {d : Draft}
    (free : s.fetchEntry d.ruleId d.codeHash = none) (fresh : s.entry? id = none) (now : Instant) :
    s.insertEntry d id now = (some (d.entry id now),
      { s with entries := s.entries ++ [d.entry id now], index := s.index ++ [(d.key, id)] }) := by
  have unlisted : s.index.lookup (d.ruleId, d.codeHash) = none := by
    rw [h.lookup_index, free]
    rfl
  have others : s.entries.filter (·.id != id) = s.entries := by
    rw [List.filter_eq_self]
    intro e member
    simpa using Keyed.find?_eq_none_iff.mp fresh e member
  simp only [insertEntry, unlisted, others]
  rfl

theorem insertEntry (h : s.Consistent) (d : Draft) (now : Instant) (fresh : s.entry? id = none) :
    (s.insertEntry d id now).2.Consistent := by
  cases found : s.fetchEntry d.ruleId d.codeHash with
  | some e =>
      rw [h.insertEntry_taken found]
      exact h
  | none =>
      rw [h.insertEntry_free found fresh]
      have newId : ∀ e ∈ s.entries, e.id ≠ id := Keyed.find?_eq_none_iff.mp fresh
      have newKey := h.fetchEntry_eq_none.mp found
      refine ⟨by simp [h.index_eq], ?_, ?_, ?_⟩
      · rw [List.map_append, List.nodup_append]
        refine ⟨h.ids, by simp, ?_⟩
        simpa using newId
      · rw [List.map_append, List.nodup_append]
        refine ⟨h.keys, by simp, ?_⟩
        simpa using! newKey
      · intro e member
        obtain member | rfl := by simpa using member
        · exact h.positive e member
        · exact Int32.le_refl 1

/-- An entry that is not there, or has reached the limit, is left alone. -/
theorem incrementEntry_refused (h : s.Consistent) {limit : Int32}
    (full : ∀ e ∈ s.entries, e.id = id → limit ≤ e.count) :
    s.incrementEntry id limit = (none, s) := by
  unfold Store.incrementEntry
  split
  · rfl
  · rename_i e found
    obtain ⟨member, named⟩ := h.entry?_eq_some.mp found
    rw [if_pos (full e member named)]

/-- An entry below the limit counts one more, and no other entry changes. -/
theorem incrementEntry_below (h : s.Consistent) {limit : Int32} (member : e ∈ s.entries)
    (below : ¬ limit ≤ e.count) :
    s.incrementEntry e.id limit =
      (some (increment e), { s with entries := s.entries.map (raise e.id) }) := by
  have found : s.entry? e.id = some e := h.entry?_eq_some.mpr ⟨member, rfl⟩
  simp only [Store.incrementEntry, found, if_neg below]
  rfl

theorem raised (h : s.Consistent) {limit : Int32} (member : e ∈ s.entries)
    (below : ¬ limit ≤ e.count) :
    ({ s with entries := s.entries.map (raise e.id) } : Store).Consistent := by
  refine ⟨?_, ?_, ?_, ?_⟩
  · simp [h.index_eq, Function.comp_def]
  · simpa [Function.comp_def] using h.ids
  · simpa [Function.comp_def] using h.keys
  · intro x raised
    obtain ⟨y, old, rfl⟩ := List.mem_map.mp raised
    by_cases same : y.id = e.id
    · obtain rfl := h.id_unique old member same
      rw [raise, if_pos rfl]
      exact Int32.le_trans (h.positive y old) (le_increment_count below)
    · rw [raise, if_neg same]
      exact h.positive y old

/-- A new entry is found under its own key and leaves the others where they are. -/
theorem fetchEntry_inserted (h : s.Consistent) {d : Draft}
    (free : s.fetchEntry d.ruleId d.codeHash = none) (fresh : s.entry? id = none) (now : Instant) :
    (s.insertEntry d id now).2.fetchEntry ruleId hash =
      if d.key = (ruleId, hash) then some (d.entry id now) else s.fetchEntry ruleId hash := by
  rw [(h.insertEntry d now fresh).fetchEntry_eq_find?, h.insertEntry_free free fresh,
    List.find?_append, ← h.fetchEntry_eq_find?]
  by_cases same : d.key = (ruleId, hash)
  · obtain ⟨rfl, rfl⟩ : d.ruleId = ruleId ∧ d.codeHash = hash := by simpa [Draft.key] using same
    simp [free, same]
  · simp [same]

theorem fetchEntry_raised (h : s.Consistent) {limit : Int32} (member : e ∈ s.entries)
    (below : ¬ limit ≤ e.count) :
    (s.incrementEntry e.id limit).2.fetchEntry ruleId hash =
      (s.fetchEntry ruleId hash).map (raise e.id) := by
  have after := h.raised member below
  rw [h.incrementEntry_below member below, after.fetchEntry_eq_find?, h.fetchEntry_eq_find?]
  exact Keyed.find?_map (raise_key e.id) s.entries (ruleId, hash)

theorem incrementEntry (h : s.Consistent) (id : Uuid) (limit : Int32) :
    (s.incrementEntry id limit).2.Consistent := by
  by_cases below : ∃ e ∈ s.entries, e.id = id ∧ ¬ limit ≤ e.count
  · obtain ⟨e, member, rfl, below⟩ := below
    rw [h.incrementEntry_below member below]
    exact h.raised member below
  · rw [h.incrementEntry_refused (by simpa using below)]
    exact h

end Consistent

theorem Built.consistent {s : Store} (built : s.Built) : s.Consistent := by
  induction built with
  | empty => exact consistent_empty
  | insertProject | insertRule | updateRule | fetchRuleBook => rename_i ih; exact ih.of_same rfl rfl
  | insertEntry d now _ fresh ih => exact ih.insertEntry d now fresh
  | incrementEntry id limit _ ih => exact ih.incrementEntry id limit

end Store

end Voucher.Ledger
