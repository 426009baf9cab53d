import Mathlib.Logic.Relation
import Voucher.Ledger.Redeem
import Voucher.Proofs.Ledger.Store
import Voucher.Proofs.Service.Deployment
import Voucher.Rule.Sample

/-! Redemptions of one code side by side, their storage operations in any order and the lock held by
whoever asks for it. What keeps the limit is a discipline of the single redemption and what storage
itself refuses; no lock is needed for it. -/
namespace Voucher.Ledger.Interleaving

open Service

/-- A question with the answer it got. -/
abbrev Answered := (q : Call) × q.Answer

/-- A redemption under way: what it has still to do, and what it was answered, the latest first. -/
structure Caller where
  rest : Action (Result Redemption)
  past : List Answered

structure State where
  store : Store
  callers : List Caller

/-- The question goes to the entries of the ledger. -/
def isStorage : Call → Bool
  | .fetchEntry .. | .insertEntry _ | .incrementEntry .. => true
  | _ => false

theorem redeemAgain_storage (rule : Rule) (e : Entry) :
    (redeemAgain rule e).Asks (isStorage · = true) := by
  unfold redeemAgain
  split
  · trivial
  · refine Action.asks_andThen (Script.asks_call rfl) ?_
    rintro (_ | raised) <;> trivial

theorem redeemFirst_storage (d : Draft) : (redeemFirst d).Asks (isStorage · = true) := by
  refine Action.asks_andThen (Script.asks_call rfl) ?_
  rintro (_ | made)
  · exact Action.asks_andThen (Script.asks_call rfl) fun _ => trivial
  · trivial

/-- Under the lock nothing but storage is asked. -/
theorem redeemLocked_storage (rule : Rule) (d : Draft) :
    (redeemLocked rule d).Asks (isStorage · = true) := by
  refine Action.asks_andThen (Script.asks_call rfl) ?_
  rintro (_ | e)
  · exact redeemFirst_storage d
  · exact redeemAgain_storage rule e

/-- One answer. Storage carries out an operation as a whole and names new entries afresh. Everything
else answers as it pleases and leaves the entries alone: a lock may be granted to all at once. -/
inductive Answers : Store → (q : Call) → q.Answer → Store → Prop where
  | fetch (ruleId : Uuid) (hash : String) :
      Answers s (.fetchEntry ruleId hash) (.ok (s.fetchEntry ruleId hash)) s
  | insert (d : Draft) (id : Uuid) (now : Instant) (fresh : s.entry? id = none) :
      Answers s (.insertEntry d) (.ok (s.insertEntry d id now).1) (s.insertEntry d id now).2
  | increment (id : Uuid) (limit : Int32) :
      Answers s (.incrementEntry id limit) (.ok (s.incrementEntry id limit).1)
        (s.incrementEntry id limit).2
  | outside (a : q.Answer) (elsewhere : isStorage q = false) (entries : t.entries = s.entries)
      (index : t.index = s.index) : Answers s q a t

/-- Any one of the redemptions asks its next question and gets an answer. -/
inductive Step : State → State → Prop where
  | answer (before after : List Caller) (past : List Answered) : Answers s q a t →
      Step ⟨s, before ++ ⟨.ask q k, past⟩ :: after⟩ ⟨t, before ++ ⟨k a, ⟨q, a⟩ :: past⟩ :: after⟩

/-- Redemptions of one code under one rule, one for each context, all at their start. -/
def start (policy : Policy) (rule : Rule) (normalized : String) (s : Store)
    (contexts : List Context) :
    State :=
  ⟨s, contexts.map fun c => ⟨redeem policy rule normalized c, []⟩⟩

/-- The entry that an answer says was made or raised. -/
def written? : Answered → Option Entry
  | ⟨.insertEntry _, .ok made⟩ => made
  | ⟨.incrementEntry .., .ok raised⟩ => raised
  | _ => none

theorem written?_outside {q : Call} (a : q.Answer) (elsewhere : isStorage q = false) :
    written? ⟨q, a⟩ = none := by
  cases q with
  | insertEntry | incrementEntry => simp [isStorage] at elsewhere
  | _ => rfl

/-- The entry as a redemption wrote it, if it has done so. -/
def Caller.written? (c : Caller) : Option Entry := c.past.findSome? Interleaving.written?

/-- What the redemptions have written, one entry for each that has. -/
def State.written (s : State) : List Entry := s.callers.filterMap Caller.written?

/-- A redemption writes once at most: it makes an entry of its own key, or raises the one that it
was shown under the key, up to the limit. It ends as redeemed exactly if it has written, and with
what it wrote. -/
def Careful (key : Key) (limit : Int32) :
    (shown : Option Uuid) → (written : Option Entry) → Action (Result Redemption) → Prop
  | _, written, .done r => ∀ e, r = .ok (.redeemed e) ↔ written = some e
  | shown, written, .ask (.fetchEntry ruleId hash) k => (ruleId, hash) = key ∧
      Careful key limit shown written (k (.ok none)) ∧
      ∀ e, Careful key limit (some e.id) written (k (.ok (some e)))
  | shown, written, .ask (.insertEntry d) k => written = none ∧ d.key = key ∧
      Careful key limit shown none (k (.ok none)) ∧
      ∀ e, Careful key limit shown (some e) (k (.ok (some e)))
  | shown, written, .ask (.incrementEntry id cap) k =>
      written = none ∧ shown = some id ∧ cap = limit ∧
      Careful key limit shown none (k (.ok none)) ∧
      ∀ e, Careful key limit shown (some e) (k (.ok (some e)))
  | shown, written, .ask _ k => ∀ a, Careful key limit shown written (k a)

theorem Careful.outside (careful : Careful key limit shown written (.ask q k))
    (elsewhere : isStorage q = false) (a : q.Answer) : Careful key limit shown written (k a) := by
  cases q with
  | fetchEntry | insertEntry | incrementEntry => simp [isStorage] at elsewhere
  | _ => exact careful a

/-- Giving the lock up at the end changes nothing in what a redemption ends with. -/
theorem Careful.releasing (guard : Lock.Guard) {m : Action (Result Redemption)}
    (careful : Careful key limit shown written m) :
    Careful key limit shown written (do let r ← m; let _ ← Action.release guard; pure r) := by
  induction m generalizing shown written with
  | done r =>
      intro reply
      exact careful
  | ask q k ih =>
      cases q with
      | fetchEntry ruleId hash =>
          obtain ⟨own, absent, present⟩ := careful
          exact ⟨own, ih _ absent, fun e => ih _ (present e)⟩
      | insertEntry d =>
          obtain ⟨unwritten, own, refused, made⟩ := careful
          exact ⟨unwritten, own, ih _ refused, fun e => ih _ (made e)⟩
      | incrementEntry id cap =>
          obtain ⟨unwritten, told, capped, refused, raised⟩ := careful
          exact ⟨unwritten, told, capped, ih _ refused, fun e => ih _ (raised e)⟩
      | _ => exact fun a => ih a (careful a)

theorem redeemAgain_careful (rule : Rule) (e : Entry) :
    Careful key rule.redemptionLimit (some e.id) none (redeemAgain rule e) := by
  unfold redeemAgain
  split
  · intro x
    simp
  · refine ⟨rfl, rfl, rfl, ?_, ?_⟩
    · intro x
      simp
    · intro raised x
      simp

theorem redeemFirst_careful (d : Draft) : Careful d.key limit none none (redeemFirst d) := by
  refine ⟨rfl, rfl, ⟨rfl, ?_, ?_⟩, ?_⟩
  · intro x
    simp
  · intro other x
    simp
  · intro made x
    simp

theorem redeemLocked_careful (rule : Rule) (d : Draft) :
    Careful d.key rule.redemptionLimit none none (redeemLocked rule d) :=
  ⟨rfl, redeemFirst_careful d, fun e => redeemAgain_careful rule e⟩

theorem redeem_careful (policy : Policy) (rule : Rule) (normalized : String) (c : Context) :
    Careful (rule.id, codeHash normalized) rule.redemptionLimit none none
      (redeem policy rule normalized c) := by
  intro reply
  cases reply with
  | error e =>
      intro counted x
      simp
  | ok guard => exact (redeemLocked_careful rule (draft policy rule normalized c)).releasing guard

/-- An entry agrees with what was written under its key: every count up to its own was written once,
and nothing else. -/
structure Tally (limit : Int32) (e : Entry) (written : List Entry) : Prop where
  capped : e.count ≤ limit
  total : e.count.toInt = written.length
  counts : (written.map (·.count.toInt)).Perm
    ((List.range written.length).map fun n : Nat => (n : Int) + 1)
  same : ∀ w ∈ written, w.id = e.id ∧ w.redeemedAt = e.redeemedAt

/-- Without an entry nothing was written. -/
def Tallied (limit : Int32) : Option Entry → List Entry → Prop
  | none, written => written = []
  | some e, written => Tally limit e written

theorem Tallied.perm {shown : Option Entry} (tallied : Tallied limit shown old)
    (perm : new.Perm old) :
    Tallied limit shown new := by
  cases shown with
  | none =>
      have nothing : old = [] := tallied
      subst nothing
      exact perm.eq_nil
  | some e =>
      obtain ⟨capped, total, counts, same⟩ := tallied
      refine ⟨capped, by rw [total, perm.length_eq], ?_,
        fun w member => same w (perm.mem_iff.mp member)⟩
      rw [perm.length_eq]
      exact (perm.map _).trans counts

theorem tally_first (positive : 1 ≤ limit) (d : Draft) (id : Uuid) (now : Instant) :
    Tally limit (d.entry id now) [d.entry id now] :=
  ⟨positive, rfl, .refl _, by simp⟩

theorem Tally.raise (tally : Tally limit e written) (below : ¬ limit ≤ e.count) :
    Tally limit (Store.increment e) (Store.increment e :: written) := by
  obtain ⟨-, total, counts, same⟩ := tally
  have more := Store.increment_count below
  refine ⟨Store.increment_count_le below, ?_, ?_, ?_⟩
  · rw [more, total, List.length_cons]
    rfl
  · rw [List.map_cons, List.length_cons, List.range_succ, List.map_append, more, total]
    exact (counts.cons _).trans (List.perm_append_singleton _ _).symm
  · intro w member
    obtain rfl | old := List.mem_cons.mp member
    · exact ⟨rfl, rfl⟩
    · exact same w old

/-- A redemption was shown the entry that the key has. -/
def Shows (s : Store) (key : Key) (shown : Option Uuid) : Prop :=
  ∀ id ∈ shown, ∃ e, s.fetchEntry key.1 key.2 = some e ∧ e.id = id

section Answers

variable {s t : Store} {q : Call} {a : q.Answer} {k : q.Answer → Action (Result Redemption)}
  {key : Key}

theorem Answers.consistent (answers : Answers s q a t) (consistent : s.Consistent) :
    t.Consistent := by
  cases answers with
  | fetch => exact consistent
  | insert d id now fresh => exact consistent.insertEntry d now fresh
  | increment id limit => exact consistent.incrementEntry id limit
  | outside a elsewhere entries index => exact consistent.of_same entries index

/-- A key that has an entry keeps it. -/
theorem Answers.keeps (answers : Answers s q a t) (consistent : s.Consistent)
    (shows : Shows s key shown) :
    Shows t key shown := by
  intro id named
  obtain ⟨e, found, rfl⟩ := shows id named
  cases answers with
  | fetch => exact ⟨e, found, rfl⟩
  | insert d id now fresh =>
      cases taken : s.fetchEntry d.ruleId d.codeHash with
      | some other =>
          rw [consistent.insertEntry_taken taken]
          exact ⟨e, found, rfl⟩
      | none =>
          have other : d.key ≠ (key.1, key.2) := by
            intro same
            obtain ⟨rule, hash⟩ := Prod.mk.inj same
            rw [rule, hash, found] at taken
            contradiction
          refine ⟨e, ?_, rfl⟩
          rw [consistent.fetchEntry_inserted taken fresh, if_neg other]
          exact found
  | increment id limit =>
      by_cases below : ∃ x ∈ s.entries, x.id = id ∧ ¬ limit ≤ x.count
      · obtain ⟨x, member, rfl, below⟩ := below
        refine ⟨Store.raise x.id e, ?_, Store.raise_id _ _⟩
        rw [consistent.fetchEntry_raised member below, found]
        rfl
      · rw [consistent.incrementEntry_refused (by simpa using below)]
        exact ⟨e, found, rfl⟩
  | outside a elsewhere entries index =>
      rw [Store.fetchEntry_of_same entries index]
      exact ⟨e, found, rfl⟩

/-- A careful redemption goes on carefully, whatever it is answered. -/
theorem Answers.careful (answers : Answers s q a t) (consistent : s.Consistent)
    (careful : Careful key limit shown written (.ask q k)) (shows : Shows s key shown) :
    ∃ shown, Shows t key shown ∧
      Careful key limit shown ((Interleaving.written? ⟨q, a⟩).or written) (k a) := by
  have kept := answers.keeps consistent shows
  cases answers with
  | fetch ruleId hash =>
      obtain ⟨rfl, absent, present⟩ := careful
      cases found : s.fetchEntry ruleId hash with
      | none => exact ⟨shown, kept, absent⟩
      | some e =>
          refine ⟨some e.id, ?_, present e⟩
          rintro id ⟨⟩
          exact ⟨e, found, rfl⟩
  | insert d id now fresh =>
      obtain ⟨rfl, own, refused, made⟩ := careful
      refine ⟨shown, kept, ?_⟩
      cases answer : (s.insertEntry d id now).1 with
      | none => exact refused
      | some e => exact made e
  | increment id cap =>
      obtain ⟨rfl, told, capped, refused, raised⟩ := careful
      refine ⟨shown, kept, ?_⟩
      cases answer : (s.incrementEntry id cap).1 with
      | none => exact refused
      | some e => exact raised e
  | outside a elsewhere _ _ =>
      refine ⟨shown, kept, ?_⟩
      rw [written?_outside a elsewhere]
      exact careful.outside elsewhere a

/-- What a careful redemption writes is what the entry of the key becomes. -/
theorem Answers.tallied (answers : Answers s q a t) (consistent : s.Consistent)
    (positive : 1 ≤ limit)
    (careful : Careful key limit shown written (.ask q k)) (shows : Shows s key shown)
    (tallied : Tallied limit (s.fetchEntry key.1 key.2) all) :
    Tallied limit (t.fetchEntry key.1 key.2) ((Interleaving.written? ⟨q, a⟩).toList ++ all) := by
  cases answers with
  | fetch => exact tallied
  | insert d id now fresh =>
      obtain ⟨-, rfl, -, -⟩ := careful
      cases taken : s.fetchEntry d.ruleId d.codeHash with
      | some other =>
          rw [consistent.insertEntry_taken taken]
          exact tallied
      | none =>
          have nothing : all = [] := by
            rw [Draft.key, taken] at tallied
            exact tallied
          rw [consistent.fetchEntry_inserted taken fresh, if_pos rfl,
            consistent.insertEntry_free taken fresh, nothing]
          exact tally_first positive d id now
  | increment id cap =>
      obtain ⟨-, told, rfl, -, -⟩ := careful
      obtain ⟨e, found, rfl⟩ := shows id told
      obtain ⟨member, own⟩ := consistent.fetchEntry_eq_some.mp found
      by_cases below : cap ≤ e.count
      · have full : ∀ x ∈ s.entries, x.id = e.id → cap ≤ x.count := by
          intro x other same
          obtain rfl := consistent.id_unique other member same
          exact below
        rw [consistent.incrementEntry_refused full]
        exact tallied
      · rw [consistent.fetchEntry_raised member below,
          consistent.incrementEntry_below member below, found]
        rw [found] at tallied
        have tally : Tally cap e all := tallied
        simpa [Store.raise] using! tally.raise below
  | outside a elsewhere entries index =>
      rw [written?_outside a elsewhere, Store.fetchEntry_of_same entries index]
      exact tallied

/-- A redemption that has written writes no more. -/
theorem Careful.once (careful : Careful key limit shown written (.ask q k))
    (writes : Interleaving.written? ⟨q, a⟩ = some e) : written = none := by
  cases q with
  | insertEntry => exact careful.1
  | incrementEntry => exact careful.1
  | _ => simp [Interleaving.written?] at writes

end Answers

/-- What holds whenever the redemptions of one code under one rule are under way. -/
structure Invariant (key : Key) (limit : Int32) (s : State) : Prop where
  consistent : s.store.Consistent
  careful : ∀ c ∈ s.callers, ∃ shown, Shows s.store key shown ∧
    Careful key limit shown c.written? c.rest
  tallied : Tallied limit (s.store.fetchEntry key.1 key.2) s.written

theorem Caller.written?_answered (now next : Action (Result Redemption)) (x : Answered)
    (past : List Answered) :
    Caller.written? ⟨next, x :: past⟩ =
      (Interleaving.written? x).or (Caller.written? ⟨now, past⟩) := by
  unfold Caller.written?
  rw [List.findSome?_cons]
  cases Interleaving.written? x <;> rfl

theorem State.written_split (s : Store) (before after : List Caller) (c : Caller) :
    State.written ⟨s, before ++ c :: after⟩ =
      before.filterMap Caller.written? ++
        (c.written?.toList ++ after.filterMap Caller.written?) := by
  unfold State.written
  rw [List.filterMap_append, List.filterMap_cons]
  cases c.written? <;> rfl

/-- An answer adds to what was written what it says was written. -/
theorem State.written_answered (s t : Store) (before after : List Caller) {x : Answered}
    {now : Action (Result Redemption)} (next : Action (Result Redemption))
    (once : ∀ e, written? x = some e → Caller.written? ⟨now, past⟩ = none) :
    (State.written ⟨t, before ++ ⟨next, x :: past⟩ :: after⟩).Perm
      ((written? x).toList ++ State.written ⟨s, before ++ ⟨now, past⟩ :: after⟩) := by
  rw [State.written_split, State.written_split, Caller.written?_answered now]
  cases wrote : written? x with
  | none => exact .refl _
  | some e =>
      rw [once e wrote]
      exact List.perm_middle

theorem Invariant.step (inv : Invariant key limit s) (positive : 1 ≤ limit) (step : Step s t) :
    Invariant key limit t := by
  cases step with
  | answer before after past answers =>
      obtain ⟨consistent, careful, tallied⟩ := inv
      obtain ⟨shown, shows, discipline⟩ :=
        careful _ (List.mem_append_right before List.mem_cons_self)
      refine ⟨answers.consistent consistent, ?_, ?_⟩
      · intro c member
        obtain other | rfl : c ∈ before ++ after ∨ c = ⟨_, _ :: past⟩ := by
          simp only [List.mem_append, List.mem_cons] at member ⊢
          tauto
        · obtain ⟨shown, shows, discipline⟩ := careful c (by
            simp only [List.mem_append, List.mem_cons] at other ⊢
            tauto)
          exact ⟨shown, answers.keeps consistent shows, discipline⟩
        · have next := answers.careful consistent discipline shows
          rwa [← Caller.written?_answered] at next
      · exact (answers.tallied consistent positive discipline shows tallied).perm
          (State.written_answered _ _ before after _ fun e wrote => discipline.once wrote)

theorem start_invariant (policy : Policy) (contexts : List Context) (consistent : s.Consistent)
    (unused : s.fetchEntry rule.id (codeHash normalized) = none) :
    Invariant (rule.id, codeHash normalized) rule.redemptionLimit
      (start policy rule normalized s contexts) := by
  refine ⟨consistent, ?_, ?_⟩
  · intro c member
    obtain ⟨context, -, rfl⟩ := List.mem_map.mp member
    exact ⟨none, by simp [Shows], redeem_careful policy rule normalized context⟩
  · have nothing : (start policy rule normalized s contexts).written = [] := by
      simp [State.written, start, Caller.written?]
    rw [nothing]
    exact unused ▸ rfl

theorem Invariant.run (inv : Invariant key limit s) (positive : 1 ≤ limit)
    (steps : Relation.ReflTransGen Step s t) : Invariant key limit t := by
  induction steps with
  | refl => exact inv
  | tail _ step ih => exact ih.step positive step

/-- What a limit promises for the redemptions of one code under one rule. -/
structure Capped (rule : Rule) (normalized : String) (s : State) : Prop where
  single : (s.store.entries.filter (·.key == (rule.id, codeHash normalized))).length ≤ 1
  /-- No redemption has succeeded without an entry. -/
  needed : (∀ e ∈ s.store.entries, e.key ≠ (rule.id, codeHash normalized)) → s.written = []
  capped : ∀ e ∈ s.store.entries, e.key = (rule.id, codeHash normalized) →
    e.count.toInt ≤ max 1 rule.maxRedemptions.toInt ∧ e.count.toInt = s.written.length
  /-- The successful redemptions were told the counts from one on, each once. -/
  counts : (s.written.map (·.count.toInt)).Perm
    ((List.range s.written.length).map fun n : Nat => (n : Int) + 1)
  same : ∀ e ∈ s.store.entries, e.key = (rule.id, codeHash normalized) →
    ∀ w ∈ s.written, w.id = e.id ∧ w.redeemedAt = e.redeemedAt
  /-- A redemption ends as redeemed exactly if it has written, and with what it wrote. -/
  ended : ∀ c ∈ s.callers, ∀ r, c.rest = .done r → ∀ e, r = .ok (.redeemed e) ↔ c.written? = some e

theorem Invariant.capped (inv : Invariant (rule.id, codeHash normalized) rule.redemptionLimit s) :
    Capped rule normalized s := by
  obtain ⟨consistent, careful, tallied⟩ := inv
  have tally : ∀ e ∈ s.store.entries, e.key = (rule.id, codeHash normalized) →
      Tally rule.redemptionLimit e s.written := by
    intro e member own
    rwa [consistent.fetchEntry_eq_some.mpr ⟨member, own⟩] at tallied
  have none_written : (∀ e ∈ s.store.entries, e.key ≠ (rule.id, codeHash normalized)) →
      s.written = [] := by
    intro absent
    rwa [consistent.fetchEntry_eq_none.mpr absent] at tallied
  constructor
  case single => exact Keyed.length_filter_le_one consistent.keys _
  case needed => exact none_written
  case capped =>
      intro e member own
      obtain ⟨capped, total, -, -⟩ := tally e member own
      rw [Int32.le_iff_toInt_le, rule.toInt_redemptionLimit] at capped
      exact ⟨capped, total⟩
  case counts =>
      by_cases present : ∃ e ∈ s.store.entries, e.key = (rule.id, codeHash normalized)
      · obtain ⟨e, member, own⟩ := present
        exact (tally e member own).counts
      · rw [none_written (by simpa using present)]
        exact .refl _
  case same => exact fun e member own => (tally e member own).same
  case ended =>
      intro c member r ended
      obtain ⟨shown, -, discipline⟩ := careful c member
      rw [ended] at discipline
      exact discipline

/-- However many redemptions of one unused code run side by side, and in whatever order their
operations reach storage, the rule's limit holds at every moment. -/
theorem interleaved_redemptions_capped (policy : Policy) (contexts : List Context)
    (built : store.Built) (unused : store.fetchEntry rule.id (codeHash normalized) = none)
    (steps : Relation.ReflTransGen Step (start policy rule normalized store contexts) s) :
    Capped rule normalized s := by
  have positive : 1 ≤ rule.redemptionLimit := by
    rw [Int32.le_iff_toInt_le, rule.toInt_redemptionLimit]
    exact Int.le_max_left 1 _
  exact ((start_invariant policy contexts built.consistent unused).run positive steps).capped

/-- Both redemptions were granted the lock and found the code unused; one has made the entry. -/
theorem interleaved_redemptions_capped_stale : ∃ s,
    Relation.ReflTransGen Step (start default Rule.sample "A" Store.empty [default, default]) s ∧
      s.written.length = 1 ∧ Capped Rule.sample "A" s := by
  have begun : Relation.ReflTransGen Step
      (start default Rule.sample "A" Store.empty [default, default]) _ := .refl
  have granted :=
    begun.tail (.answer [] _ [] (.outside (q := .acquire _ _) (.ok default) rfl rfl rfl))
  have both :=
    granted.tail (.answer [_] [] [] (.outside (q := .acquire _ _) (.ok default) rfl rfl rfl))
  have read := both.tail (.answer [] _ _ (.fetch _ _))
  have stale := read.tail (.answer [_] [] _ (.fetch _ _))
  have steps := stale.tail (.answer [] _ _ (.insert _ .nil .epoch rfl))
  exact ⟨_, steps, rfl, interleaved_redemptions_capped default _ .empty rfl steps⟩

/-- A deployment without outages answers in one of these ways, as long as its identifiers are new to
the ledger. -/
theorem answers_of_deployment {d : Deployment} (calm : d.outages = [])
    (fresh : d.store.entry? (Deployment.identifier d.identifiers) = none) (q : Call) :
    Answers d.store q (d.answer q).1 (d.answer q).2.store := by
  rw [Deployment.answer_calm calm]
  by_cases storage : isStorage q
  · cases q with
    | fetchEntry ruleId hash => exact .fetch ruleId hash
    | insertEntry draft => exact .insert draft _ d.clock fresh
    | incrementEntry id limit => exact .increment id limit
    | _ => simp [isStorage] at storage
  · have elsewhere : isStorage q = false := by simpa using storage
    have reads : q.writes = false := by
      cases q with
      | insertEntry | incrementEntry => simp [isStorage] at storage
      | _ => rfl
    obtain ⟨entries, index⟩ := Deployment.serve_entries reads d
    exact .outside _ elsewhere entries index

end Voucher.Ledger.Interleaving
