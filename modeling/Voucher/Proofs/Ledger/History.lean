import Voucher.Proofs.Ledger.Store

/-! The history of a ledger. Whatever is posted to it, refused or not, the index leads to every
entry by the entry's own key and to nothing else; an entry that was made stays, as it was made but
for a count that only rises. -/
namespace Voucher.Ledger

/-- What is asked of a ledger that may change it. The identifier and the time of an entry are drawn
when it is made. -/
inductive Posting where
  | insert (d : Draft) (id : Uuid) (now : Instant)
  | increment (id : Uuid) (limit : Int32)

namespace Posting

def apply : Posting → Store → Option Entry × Store
  | insert d id now, s => s.insertEntry d id now
  | increment id limit, s => s.incrementEntry id limit

/-- If an entry is made, no other has its identifier. -/
def Fresh (s : Store) : Posting → Prop
  | insert d id _ => s.fetchEntry d.ruleId d.codeHash = none → s.entry? id = none
  | increment .. => True

end Posting

namespace Store

/-- The store after postings one after the other. -/
def posted (s : Store) (postings : List Posting) : Store :=
  postings.foldl (fun s p => (p.apply s).2) s

/-- Every identifier is fresh when it is drawn. -/
def AllFresh : Store → List Posting → Prop
  | _, [] => True
  | s, p :: rest => p.Fresh s ∧ AllFresh (p.apply s).2 rest

/-- All that a posting can do, and the answer to it. -/
inductive Posted (s : Store) : Posting → Option Entry → Store → Prop where
  | refused (p : Posting) : Posted s p none s
  | made {id : Uuid} (d : Draft) (now : Instant) (unused : s.fetchEntry d.ruleId d.codeHash = none)
      (fresh : s.entry? id = none) : Posted s (.insert d id now) (some (d.entry id now))
        { s with entries := s.entries ++ [d.entry id now], index := s.index ++ [(d.key, id)] }
  | raised {e : Entry} {limit : Int32} (member : e ∈ s.entries) (below : ¬ limit ≤ e.count) :
      Posted s (.increment e.id limit) (some (increment e))
        { s with entries := s.entries.map (raise e.id) }

variable {s t u : Store} {p : Posting} {postings earlier later : List Posting} {e : Entry}

theorem posted_append (s : Store) (earlier later : List Posting) :
    s.posted (earlier ++ later) = (s.posted earlier).posted later := List.foldl_append

theorem allFresh_append :
    s.AllFresh (earlier ++ later) ↔ s.AllFresh earlier ∧ (s.posted earlier).AllFresh later := by
  induction earlier generalizing s with
  | nil => simp [AllFresh, posted]
  | cons p rest ih => exact (and_congr_right fun _ => ih).trans and_assoc.symm

theorem Consistent.posted (consistent : s.Consistent) (fresh : p.Fresh s) :
    Posted s p (p.apply s).1 (p.apply s).2 := by
  cases p with
  | insert d id now =>
      rw [Posting.apply]
      cases found : s.fetchEntry d.ruleId d.codeHash with
      | some e =>
          rw [consistent.insertEntry_taken found]
          exact .refused _
      | none =>
          rw [consistent.insertEntry_free found (fresh found)]
          exact .made d now found (fresh found)
  | increment id limit =>
      rw [Posting.apply]
      by_cases below : ∃ e ∈ s.entries, e.id = id ∧ ¬ limit ≤ e.count
      · obtain ⟨e, member, rfl, below⟩ := below
        rw [consistent.incrementEntry_below member below]
        exact .raised member below
      · rw [consistent.incrementEntry_refused (by simpa using below)]
        exact .refused _

theorem Consistent.apply (consistent : s.Consistent) (fresh : p.Fresh s) :
    (p.apply s).2.Consistent := by
  cases p with
  | insert d id now =>
      cases found : s.fetchEntry d.ruleId d.codeHash with
      | some e =>
          rw [Posting.apply, consistent.insertEntry_taken found]
          exact consistent
      | none => exact consistent.insertEntry d now (fresh found)
  | increment id limit => exact consistent.incrementEntry id limit

/-- Between two moments no entry has gone, and nothing of those that there were has changed but the
counts, which have not fallen. -/
def Grows (s t : Store) : Prop :=
  ∀ id e, s.entry? id = some e → ∃ count, t.entry? id = some { e with count } ∧ e.count ≤ count

theorem Grows.refl (s : Store) : s.Grows s := fun _ e found => ⟨e.count, found, Int32.le_refl _⟩

theorem Grows.trans (first : s.Grows t) (second : t.Grows u) : s.Grows u := by
  intro id e found
  obtain ⟨count, kept, risen⟩ := first id e found
  obtain ⟨more, still, rises⟩ := second id _ kept
  exact ⟨more, still, Int32.le_trans risen rises⟩

theorem raise_eq (id : Uuid) (e : Entry) : raise id e = { e with count := (raise id e).count } := by
  unfold raise
  split <;> rfl

theorem entry?_raised (s : Store) (raised id : Uuid) :
    entry? { s with entries := s.entries.map (raise raised) } id =
      (s.entry? id).map (raise raised) :=
  Keyed.find?_map (raise_id raised) s.entries id

theorem Posted.grows (consistent : s.Consistent) (posted : Posted s p answer t) : s.Grows t := by
  cases posted with
  | refused => exact .refl s
  | made d now unused fresh =>
      intro id e found
      refine ⟨e.count, ?_, Int32.le_refl _⟩
      unfold entry? at found ⊢
      rw [List.find?_append, found]
      rfl
  | @raised x limit member below =>
      intro id e found
      refine ⟨(raise x.id e).count, ?_, ?_⟩
      · rw [entry?_raised, found, Option.map_some, ← raise_eq]
      · by_cases same : e.id = x.id
        · obtain rfl := consistent.id_unique (consistent.entry?_eq_some.mp found).1 member same
          rw [raise, if_pos rfl]
          exact le_increment_count below
        · rw [raise, if_neg same]
          exact Int32.le_refl _

theorem Consistent.posted_all (consistent : s.Consistent) (fresh : s.AllFresh postings) :
    (s.posted postings).Consistent := by
  induction postings generalizing s with
  | nil => exact consistent
  | cons p rest ih => exact ih (consistent.apply fresh.1) fresh.2

theorem Consistent.grows (consistent : s.Consistent) (fresh : s.AllFresh postings) :
    s.Grows (s.posted postings) := by
  induction postings generalizing s with
  | nil => exact .refl s
  | cons p rest ih =>
      exact ((consistent.posted fresh.1).grows consistent).trans
        (ih (consistent.apply fresh.1) fresh.2)

/-- One of the postings has made the entry, when there was none of its key; but for the count it is
as it was made. -/
def Made (postings : List Posting) (e : Entry) : Prop :=
  ∃ before d now after, postings = before ++ .insert d e.id now :: after ∧
    (Store.empty.posted before).fetchEntry d.ruleId d.codeHash = none ∧
    e = { d.entry e.id now with count := e.count }

theorem Made.concat (made : Made postings e) (p : Posting) : Made (postings ++ [p]) e := by
  obtain ⟨before, d, now, after, rfl, unused, same⟩ := made
  exact ⟨before, d, now, after ++ [p], by rw [List.append_assoc, List.cons_append], unused, same⟩

theorem Made.raise (made : Made postings e) (id : Uuid) : Made postings (raise id e) := by
  obtain ⟨before, d, now, after, placed, unused, same⟩ := made
  refine ⟨before, d, now, after, by rw [placed, raise_id], unused, ?_⟩
  calc Store.raise id e
    _ = { e with count := (Store.raise id e).count } := raise_eq id e
    _ = { d.entry e.id now with count := (Store.raise id e).count } :=
        congrArg (fun x : Entry => { x with count := (Store.raise id e).count }) same
    _ = { d.entry (Store.raise id e).id now with count := (Store.raise id e).count } := by
      rw [raise_id]

theorem made_of_mem (fresh : empty.AllFresh postings)
    (member : e ∈ (empty.posted postings).entries) :
    Made postings e := by
  induction postings using List.reverseRecOn generalizing e with
  | nil => cases member
  | append_singleton earlier p ih =>
      -- An entry is there from before, raised at most, unless the last posting has just made it.
      obtain ⟨old, new, -⟩ := allFresh_append.mp fresh
      have step := (consistent_empty.posted_all old).posted new
      rw [posted_append, posted, List.foldl_cons, List.foldl_nil] at member
      generalize before : empty.posted earlier = s at step member ih
      generalize (p.apply s).1 = answer, (p.apply s).2 = t at step member
      cases step with
      | refused => exact (ih old member).concat _
      | made d now unused _ =>
          obtain member | rfl := List.mem_append.mp member |>.imp_right List.mem_singleton.mp
          · exact (ih old member).concat _
          · exact ⟨earlier, d, now, [], rfl, before ▸ unused, rfl⟩
      | raised _ _ =>
          obtain ⟨y, there, rfl⟩ := List.mem_map.mp member
          exact ((ih old there).raise _).concat _

/-- Entries and index mirror each other. -/
structure Mirrored (s : Store) : Prop where
  found : ∀ e ∈ s.entries, s.entry? e.id = some e
  /-- A key leads to an entry that carries just that key. -/
  leads : ∀ key id, s.index.lookup key = some id → ∃ e ∈ s.entries, e.id = id ∧ e.key = key
  reached : ∀ e ∈ s.entries, ∃! key, s.index.lookup key = some e.id
  once : (s.index.map (·.1)).Nodup
  positive : ∀ e ∈ s.entries, 1 ≤ e.count
  /-- What is found under a key is the one entry that has it. -/
  fetched : ∀ ruleId hash e, s.fetchEntry ruleId hash = some e ↔
    e ∈ s.entries ∧ e.key = (ruleId, hash)

theorem Consistent.leads (consistent : s.Consistent) {key : Key} {id : Uuid}
    (listed : s.index.lookup key = some id) : ∃ e ∈ s.entries, e.id = id ∧ e.key = key := by
  rw [consistent.lookup_index, Option.map_eq_some_iff] at listed
  obtain ⟨e, fetched, named⟩ := listed
  obtain ⟨member, keyed⟩ := consistent.fetchEntry_eq_some.mp fetched
  exact ⟨e, member, named, keyed⟩

theorem Consistent.lookup_key (consistent : s.Consistent) (member : e ∈ s.entries) :
    s.index.lookup e.key = some e.id := by
  have fetched : s.fetchEntry e.ruleId e.codeHash = some e :=
    consistent.fetchEntry_eq_some.mpr ⟨member, rfl⟩
  exact consistent.lookup_index.trans (by rw [fetched, Option.map_some])

theorem Consistent.mirrored (consistent : s.Consistent) : s.Mirrored where
  found _ member := consistent.entry?_eq_some.mpr ⟨member, rfl⟩
  leads _ _ := consistent.leads
  reached e member := by
    refine ⟨e.key, consistent.lookup_key member, fun key listed => ?_⟩
    obtain ⟨x, other, same, rfl⟩ := consistent.leads listed
    rw [consistent.id_unique other member same]
  once := by
    rw [consistent.index_eq, List.map_map]
    exact consistent.keys
  positive := consistent.positive
  fetched _ _ _ := consistent.fetchEntry_eq_some

/-- One more redemption of an entry is counted up to a limit, and nowhere else. -/
structure RaisesUpTo (s : Store) (id : Uuid) (limit : Int32) : Prop where
  capped : ∀ e, (s.incrementEntry id limit).1 = some e →
    e.count ≤ limit ∧ entry? (s.incrementEntry id limit).2 id = some e
  refused : (s.incrementEntry id limit).1 = none → (s.incrementEntry id limit).2 = s
  others : ∀ other, other ≠ id → entry? (s.incrementEntry id limit).2 other = s.entry? other

theorem entry?_raised_other (s : Store) {raised id : Uuid} (other : id ≠ raised) :
    entry? { s with entries := s.entries.map (raise raised) } id = s.entry? id := by
  rw [entry?_raised]
  cases found : s.entry? id with
  | none => rfl
  | some e =>
      have named : e.id = id := by simpa using List.find?_some found
      rw [Option.map_some, raise, if_neg (named ▸ other)]

theorem Consistent.raisesUpTo (consistent : s.Consistent) (id : Uuid) (limit : Int32) :
    s.RaisesUpTo id limit := by
  have step : Posted s (.increment id limit) (s.incrementEntry id limit).1
      (s.incrementEntry id limit).2 :=
    consistent.posted trivial
  generalize answered : (s.incrementEntry id limit).1 = answer,
    changed : (s.incrementEntry id limit).2 = t at step
  cases step with
  | refused => exact ⟨by simp [answered], fun _ => changed, fun _ _ => by rw [changed]⟩
  | @raised x _ member below =>
      refine ⟨fun e made => ?_, by simp [answered], fun other apart => ?_⟩
      · obtain rfl : increment x = e := by simpa [answered] using made
        refine ⟨increment_count_le below, ?_⟩
        rw [changed, entry?_raised, consistent.entry?_eq_some.mpr ⟨member, rfl⟩, Option.map_some,
          raise, if_pos rfl]
      · rw [changed, entry?_raised_other s apart]

/-- Between any two moments entries only come and counts only rise, and whatever is asked of an
entry it stays the one that was made for its key. -/
theorem history_only_grows (postings : List Posting) (fresh : empty.AllFresh postings) :
    (empty.posted postings).Mirrored ∧
      (∀ earlier later, postings = earlier ++ later →
        (empty.posted earlier).Grows (empty.posted postings)) ∧
      (∀ e ∈ (empty.posted postings).entries, Made postings e) ∧
      ∀ id limit, (empty.posted postings).RaisesUpTo id limit := by
  have consistent := consistent_empty.posted_all fresh
  refine ⟨consistent.mirrored, ?_, fun e => made_of_mem fresh, consistent.raisesUpTo⟩
  rintro earlier later rfl
  obtain ⟨old, new⟩ := allFresh_append.mp fresh
  rw [posted_append]
  exact (consistent_empty.posted_all old).grows new

/-- A second user comes too late for a code that may be redeemed twice; a third redemption is
refused, and so is one of an entry that is not there. -/
def latecomer : List Posting :=
  [.insert ⟨.nil, "c0de", none, some "first", none, none, none⟩ (.ofNat 1) .epoch,
    .insert ⟨.nil, "c0de", none, some "second", none, none, none⟩ (.ofNat 2) .epoch,
    .increment (.ofNat 1) 2, .increment (.ofNat 1) 2, .increment (.ofNat 3) 5]

theorem history_only_grows_latecomer :
    empty.AllFresh latecomer ∧
      (empty.posted latecomer).entries =
        [⟨.ofNat 1, .nil, "c0de", none, some "first", none, none, none, 2, .epoch⟩] ∧
      (∀ e ∈ (empty.posted latecomer).entries, Made latecomer e) ∧
      (empty.posted (latecomer.take 1)).Grows (empty.posted latecomer) :=
  have fresh : empty.AllFresh latecomer := ⟨fun _ => rfl, nofun, trivial, trivial, trivial, trivial⟩
  have ⟨_, grows, made, _⟩ := history_only_grows latecomer fresh
  ⟨fresh, rfl, made, grows _ (latecomer.drop 1) rfl⟩

end Store

end Voucher.Ledger
