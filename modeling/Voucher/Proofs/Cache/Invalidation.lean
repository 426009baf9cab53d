import Voucher.Proofs.Cache.Staleness

/-! Readers of rule books that take turns, question by question, with invalidations and changes of
storage in between. An invalidation takes effect unless a reader under way is about to cache a
superseded book. -/
namespace Voucher

namespace Cache.Rules

open Service

/-- A reader with what it has still to do. -/
structure Reader where
  projectId : Uuid
  rest : Action (Result (Option RuleBook))

/-- A deployment and its readers, in the order in which they started. -/
structure Race where
  deployment : Deployment
  readers : List Reader

inductive Turn where
  | starts (projectId : Uuid)
  /-- A reader asks its next question. -/
  | asks (i : Nat)
  | happens (event : Event)

namespace Race

def turn (life : UInt64) (r : Race) : Turn → Race
  | .starts projectId => { r with readers := r.readers ++ [⟨projectId, get life projectId⟩] }
  | .asks i =>
    match r.readers[i]? with
    | none => r
    | some reader =>
      let (rest, d) := reader.rest.step Deployment.answer r.deployment
      ⟨d, r.readers.set i { reader with rest := rest }⟩
  | .happens event => { r with deployment := event.apply life r.deployment }

def play (life : UInt64) (turns : List Turn) (r : Race) : Race := turns.foldl (·.turn life) r

variable {life : UInt64} {projectId : Uuid} {r : Race} {i : Nat} {reader : Reader} {phase : Phase}

theorem play_concat (life : UInt64) (turns : List Turn) (turn : Turn) (r : Race) :
    r.play life (turns ++ [turn]) = (r.play life turns).turn life turn := by
  simp [play]

theorem asks_last (life : UInt64) (d : Deployment) (earlier : List Reader) (projectId : Uuid)
    (rest : Action (Result (Option RuleBook))) :
    turn life ⟨d, earlier ++ [⟨projectId, rest⟩]⟩ (.asks earlier.length) =
      ⟨(rest.step Deployment.answer d).2,
        earlier ++ [⟨projectId, (rest.step Deployment.answer d).1⟩]⟩ := by
  have there : (earlier ++ [⟨projectId, rest⟩])[earlier.length]? =
      some (Reader.mk projectId rest) := by simp
  simp only [turn, there]
  simp

/-- A reader's turn, as the phase says that it has come to. -/
theorem asks_cases (inProcess : r.deployment.InProcess) (there : r.readers[i]? = some reader)
    (rest : reader.rest = phase.script life reader.projectId) :
    ∃ next e, Phase.Turned life reader.projectId r.deployment phase next e ∧
      r.turn life (.asks i) =
        ⟨e, r.readers.set i ⟨reader.projectId, next.script life reader.projectId⟩⟩ := by
  obtain ⟨next, e, turned⟩ := Phase.step_cases inProcess life reader.projectId phase
  refine ⟨next, e, turned, ?_⟩
  simp only [turn, there, rest, turned.step]

end Race

/-- What a reader may give for what storage holds: that, or what an entry of it is read as. -/
inductive Recalls : Option RuleBook → Option RuleBook → Prop where
  | stored (held : Option RuleBook) : Recalls held held
  | reread {book other : RuleBook} (read : decode? (encode book) = some other) :
      Recalls (some book) (some other)

theorem Recalls.eq_or_read {book other : RuleBook} (recalled : Recalls (some book) (some other)) :
    other = book ∨ decode? (encode book) = some other := by
  cases recalled with
  | stored => exact .inl rfl
  | reread read => exact .inr read

/-- Every reader that starts from now on gives what storage holds now or later. -/
def Effective (life : UInt64) (projectId : Uuid) (r : Race) : Prop :=
  ∀ turns i reader result, r.readers.length ≤ i → (r.play life turns).readers[i]? = some reader →
    reader.projectId = projectId → reader.rest = .done result →
    ∃ found, result = .ok found ∧ ∃ before after, turns = before ++ after ∧
      Recalls ((r.play life before).deployment.store.ruleBook? projectId) found

/-- No reader is about to cache a book that storage does not hold any more
and that could be read. -/
def Settled (life : UInt64) (projectId : Uuid) (r : Race) : Prop :=
  ∀ reader ∈ r.readers, reader.projectId = projectId →
    ∀ book other, reader.rest = (Phase.writing book).script life projectId →
    decode? (encode book) = some other →
      Recalls (r.deployment.store.ruleBook? projectId) (some other)

variable {life : UInt64} {projectId : Uuid} {r : Race} {n : Nat}
  {shown more : Option RuleBook → Prop}

/-- What a phase may hold, when some books may be shown; a reader that is not new
may have found another. -/
def Phase.Allowed (shown : Option RuleBook → Prop) (new : Prop) : Phase → Prop
  | hit book => new → shown (some book)
  | writing book => (∀ other, decode? (encode book) = some other → shown (some other)) ∧
      (new → shown (some book))
  | done result => new → ∃ found, result = .ok found ∧ shown found
  | reading | missed _ | fetching => True

theorem Phase.Allowed.mono {new : Prop} {phase : Phase} (allowed : phase.Allowed shown new)
    (wider : ∀ found, shown found → more found) : phase.Allowed more new := by
  cases phase with
  | reading | missed | fetching => trivial
  | hit book => exact fun new => wider _ (allowed new)
  | writing book =>
      exact ⟨fun other read => wider _ (allowed.1 other read), fun new => wider _ (allowed.2 new)⟩
  | done result =>
      intro new
      obtain ⟨found, ok, held⟩ := allowed new
      exact ⟨found, ok, wider found held⟩

/-- The entry of a project may be shown, and so may what its readers from some number on give. -/
structure Showing (life : UInt64) (projectId : Uuid) (n : Nat) (shown : Option RuleBook → Prop)
    (r : Race) :
    Prop where
  inProcess : r.deployment.InProcess
  entry : ∀ slot book, r.deployment.slot? (key projectId) = some slot →
    decode? slot.text = some book →
    shown (some book)
  readers : ∀ (i : Nat) (reader : Reader), r.readers[i]? = some reader →
    ∃ phase : Phase, reader.rest = phase.script life reader.projectId ∧
      (reader.projectId = projectId → phase.Allowed shown (n ≤ i))

namespace Showing

theorem mono (showing : Showing life projectId n shown r)
    (wider : ∀ found, shown found → more found) :
    Showing life projectId n more r := by
  refine ⟨showing.inProcess, fun slot book held read => wider _ (showing.entry slot book held read),
    fun i reader there => ?_⟩
  obtain ⟨phase, rest, allowed⟩ := showing.readers i reader there
  exact ⟨phase, rest, fun own => (allowed own).mono wider⟩

/-- What a reader finds in storage or in an entry may be shown, and it keeps to that. -/
theorem allowed_next (showing : Showing life projectId n shown r) {new : Prop} {phase next : Phase}
    (current : ∀ found, Recalls (r.deployment.store.ruleBook? projectId) found → shown found)
    (allowed : phase.Allowed shown new) (follows : phase.Follows projectId r.deployment next) :
    next.Allowed shown new := by
  cases follows with
  | found held fresh read => exact fun _ => showing.entry _ _ held read
  | missed | turned => trivial
  | counted book => exact fun new => ⟨some book, rfl, allowed new⟩
  | written book => exact fun new => ⟨some book, rfl, allowed.2 new⟩
  | ended result => exact allowed
  | fetched =>
      have stored := current _ (.stored _)
      cases held : r.deployment.store.ruleBook? projectId with
      | none => exact fun _ => ⟨none, rfl, held ▸ stored⟩
      | some book =>
          exact ⟨fun other read => current _ (held ▸ .reread read), fun _ => held ▸ stored⟩

/-- One turn more, if what storage holds then may be shown. -/
theorem turn (showing : Showing life projectId n shown r) (turn : Turn)
    (current : ∀ found, Recalls ((r.turn life turn).deployment.store.ruleBook? projectId) found →
      shown found) :
    Showing life projectId n shown (r.turn life turn) := by
  cases turn with
  | starts p =>
      refine ⟨showing.inProcess, showing.entry, fun i reader there => ?_⟩
      rw [Race.turn, List.getElem?_append] at there
      split at there
      · exact showing.readers i reader there
      · obtain rfl := List.mem_singleton.mp (List.mem_of_getElem? there)
        exact ⟨.reading, rfl, fun _ => trivial⟩
  | happens event =>
      refine ⟨apply_inProcess showing.inProcess life event, fun slot book held read => ?_,
        showing.readers⟩
      obtain ⟨old, -⟩ | ⟨own, stored, text, -⟩ :=
        apply_slot showing.inProcess life event projectId slot held
      · exact showing.entry slot book old read
      · exact current _ (stored ▸ .reread (text ▸ read))
  | asks i =>
      cases there : r.readers[i]? with
      | none => simpa only [Race.turn, there] using showing
      | some reader =>
          obtain ⟨phase, rest, allowed⟩ := showing.readers i reader there
          obtain ⟨next, e, turned, after⟩ := Race.asks_cases showing.inProcess there rest
          rw [after] at current ⊢
          simp only [turned.store] at current
          refine ⟨turned.inProcess, fun slot book held read => ?_, fun j other found => ?_⟩
          · obtain old | ⟨own, written, rfl, text, -⟩ := turned.slots _ slot held
            · exact showing.entry slot book old read
            · exact (allowed (key_inj own).symm).1 book (text ▸ read)
          · by_cases same : i = j
            · subst same
              have bound := (List.getElem?_eq_some_iff.mp there).1
              obtain rfl := Option.some.inj ((List.getElem?_set_self bound).symm.trans found)
              refine ⟨next, rfl, fun own => ?_⟩
              exact showing.allowed_next current (allowed own) (own ▸ turned.follows)
            · rw [List.getElem?_set_ne same] at found
              exact showing.readers j other found

/-- From the forgetting of a project on, what is shown is what storage has held since. -/
theorem play {forgotten : Race}
    (showing : Showing life projectId n (Recalls (forgotten.deployment.store.ruleBook? projectId))
      forgotten)
    (turns : List Turn) :
    Showing life projectId n (fun found => ∃ before after, turns = before ++ after ∧
      Recalls ((forgotten.play life before).deployment.store.ruleBook? projectId) found)
      (forgotten.play life turns) := by
  induction turns using List.reverseRecOn with
  | nil => exact showing.mono fun found held => ⟨[], [], rfl, held⟩
  | append_singleton turns turn ih =>
      -- What may be shown grows with what storage holds after the turn, so the invariant is widened
      -- first.
      rw [Race.play_concat]
      refine Showing.turn (ih.mono ?_) turn fun found held => ⟨turns ++ [turn], [], by simp, ?_⟩
      · rintro found ⟨before, after, split, held⟩
        exact ⟨before, after ++ [turn], by simp [split], held⟩
      · rwa [Race.play_concat]

end Showing

variable {d : Deployment}

/-- In every run the readers are in one of the phases. -/
theorem showing_any (inProcess : d.InProcess) (life : UInt64) (projectId : Uuid)
    (turns : List Turn) :
    Showing life projectId 0 (fun _ => True) (Race.play life turns ⟨d, []⟩) := by
  induction turns using List.reverseRecOn with
  | nil => exact ⟨inProcess, fun _ _ _ _ => trivial, nofun⟩
  | append_singleton turns turn ih =>
      rw [Race.play_concat]
      exact ih.turn turn fun _ _ => trivial

theorem showing_forgotten (showing : Showing life projectId 0 (fun _ => True) r) {event : Event}
    (forgets : event.Forgets projectId)
    (settled : Settled life projectId (r.turn life (.happens event))) :
    Showing life projectId r.readers.length
      (Recalls ((r.turn life (.happens event)).deployment.store.ruleBook? projectId))
      (r.turn life (.happens event)) := by
  refine ⟨apply_inProcess showing.inProcess life event, fun slot book held read => ?_,
    fun i reader there => ?_⟩
  · obtain ⟨-, kept⟩ | ⟨own, stored, text, -⟩ :=
      apply_slot showing.inProcess life event projectId slot held
    · exact absurd forgets kept
    · exact stored ▸ .reread (text ▸ read)
  · -- All readers are old here. What one of them gives does not matter, but what it is about to
    -- cache does.
    obtain ⟨phase, rest, -⟩ := showing.readers i reader there
    have old : ¬ r.readers.length ≤ i := Nat.not_le.mpr (List.getElem?_eq_some_iff.mp there).1
    refine ⟨phase, rest, fun own => ?_⟩
    cases phase with
    | reading | missed | fetching => trivial
    | hit | done => exact fun new => absurd new old
    | writing book =>
        refine ⟨fun other read => ?_, fun new => absurd new old⟩
        exact settled reader (List.mem_of_getElem? there) own book other (own ▸ rest) read

theorem Phase.eq_done {phase : Phase} {result : Result (Option RuleBook)}
    (ended : phase.script life projectId = .done result) : phase = .done result := by
  cases phase with
  | done other => exact congrArg Phase.done (Script.done.inj ended)
  | reading | hit | missed | fetching | writing => nomatch ended

theorem effective_of_showing
    (showing : Showing life projectId r.readers.length
      (Recalls (r.deployment.store.ruleBook? projectId)) r) :
    Effective life projectId r := by
  intro turns i reader result new there own ended
  obtain ⟨phase, rest, allowed⟩ := (showing.play turns).readers i reader there
  obtain rfl := Phase.eq_done (rest.symm.trans ended)
  exact allowed own new

/-- Nothing but an event changes what books there are. -/
theorem quiet_ruleBook? (showing : Showing life projectId n (fun _ => True) r) (turns : List Turn)
    (quiet : ∀ event, .happens event ∉ turns) (p : Uuid) :
    Showing life projectId n (fun _ => True) (r.play life turns) ∧
      (r.play life turns).deployment.store.ruleBook? p = r.deployment.store.ruleBook? p := by
  induction turns using List.reverseRecOn with
  | nil => exact ⟨showing, rfl⟩
  | append_singleton turns turn ih =>
      obtain ⟨showing, same⟩ := ih fun event earlier => quiet event (by simp [earlier])
      rw [Race.play_concat]
      refine ⟨showing.turn turn fun _ _ => trivial, ?_⟩
      rw [← same]
      cases turn with
      | starts => rfl
      | happens event => exact absurd (by simp) (quiet event)
      | asks i =>
          cases there : (r.play life turns).readers[i]? with
          | none => simp only [Race.turn, there]
          | some reader =>
              obtain ⟨phase, rest, -⟩ := showing.readers i reader there
              obtain ⟨next, e, turned, after⟩ := Race.asks_cases showing.inProcess there rest
              rw [after]
              exact turned.store p

variable {d : Deployment} {cache : Memory} {locks : Lock.Table} {book other : RuleBook}

/-- What has just been written is found. -/
theorem step_reading_written (lives : 0 < life) (calm : d.outages = [])
    (read : decode? (encode book) = some other) (cache : Memory) (locks : Lock.Table)
    (projectId : Uuid) :
    ∃ e, (Phase.reading.script life projectId).step Deployment.answer
        (d.caching (cache.write (key projectId) (encode book) (lifetime life) d.clock) locks) =
      ((Phase.hit other).script life projectId, e) ∧ e.outages = [] := by
  have step := Phase.step_reading
    (d := d.caching (cache.write (key projectId) (encode book) (lifetime life) d.clock) locks)
    calm rfl life projectId
  have fresh : (d.clock.addNanos Deployment.tick).lt (d.clock.addNanos (lifetime life)) := by
    have seconds : 0 < life.toNat := UInt64.lt_iff_toNat_lt.mp lives
    refine Instant.addNanos_lt_addNanos _ ?_
    simp only [Deployment.tick, lifetime]
    omega
  obtain ⟨slot, held, -, found⟩ | ⟨stale, -⟩ :=
    (cache.write (key projectId) (encode book) (lifetime life) d.clock).read_cases (key projectId)
      (d.clock.addNanos Deployment.tick)
  · obtain rfl := Option.some.inj ((Memory.slot?_write_self ..).symm.trans held)
    rw [Deployment.caching, found] at step
    simp only [Phase.ofRead, read] at step
    exact ⟨_, step, calm⟩
  · exact absurd fresh (stale _ (Memory.slot?_write_self ..))

theorem settled_of_effective (lives : 0 < life)
    (showing : Showing life projectId n (fun _ => True) r)
    (effective : Effective life projectId r) : Settled life projectId r := by
  intro reader member own book other rest read
  obtain ⟨i, there⟩ := List.mem_iff_getElem?.mp member
  obtain ⟨calm, cache, locks, process⟩ := showing.inProcess
  obtain ⟨e, found, still⟩ := step_reading_written lives calm read cache locks projectId
  -- The book is written, and a reader that starts then finds it and gives it.
  have wrote : r.turn life (.asks i) =
      ⟨r.deployment.caching
        (cache.write (key projectId) (encode book) (lifetime life) r.deployment.clock) locks,
        r.readers.set i ⟨projectId, .done (.ok (some book))⟩⟩ := by
    simp only [Race.turn, there, rest, own, Phase.step_writing calm process]
    rfl
  have played :
      (r.play life
          [.asks i, .starts projectId, .asks r.readers.length, .asks r.readers.length]).readers =
        r.readers.set i ⟨projectId, .done (.ok (some book))⟩ ++
          [⟨projectId, .done (.ok (some other))⟩] := by
    have last (d : Deployment) (rest : Action (Result (Option RuleBook))) :=
      Race.asks_last life d (r.readers.set i ⟨projectId, .done (.ok (some book))⟩) projectId rest
    simp only [List.length_set] at last
    have starts (d : Deployment) (readers : List Reader) :
        Race.turn life ⟨d, readers⟩ (.starts projectId) =
      ⟨d, readers ++ [⟨projectId, Phase.reading.script life projectId⟩]⟩ := rfl
    simp only [Race.play, List.foldl_cons, List.foldl_nil, wrote, starts, last, found,
      Phase.step_hit still]
    rfl
  obtain ⟨given, ok, before, after, split, recalled⟩ := effective _ r.readers.length
    ⟨projectId, .done (.ok (some other))⟩ _ (Nat.le_refl _) (by rw [played]; simp) rfl rfl
  obtain rfl := Except.ok.inj ok
  have quiet : ∀ event, .happens event ∉ before := by
    intro event early
    have there : Turn.happens event ∈ before ++ after := List.mem_append_left _ early
    rw [← split] at there
    simp at there
  rwa [(quiet_ruleBook? showing before quiet projectId).2] at recalled

/-- An invalidation takes effect exactly when no reader under way is about to cache a book that
storage has replaced. Nothing in the cache tells an entry that was fetched before the invalidation
from one fetched after. -/
theorem invalidation_effective_iff (lives : 0 < life) (inProcess : d.InProcess) (turns : List Turn)
    (event : Event) (forgets : event.Forgets projectId) :
    Effective life projectId (Race.play life (turns ++ [.happens event]) ⟨d, []⟩) ↔
      Settled life projectId (Race.play life (turns ++ [.happens event]) ⟨d, []⟩) := by
  have before := showing_any inProcess life projectId turns
  have after := showing_any inProcess life projectId (turns ++ [.happens event])
  refine ⟨settled_of_effective lives after, fun settled => ?_⟩
  rw [Race.play_concat] at settled ⊢
  exact effective_of_showing (showing_forgotten before forgets settled)

/-- A reader that has not asked storage yet is in nobody's way. -/
theorem invalidation_effective_iff_started :
    Effective 300 .nil
      (Race.play 300 [.happens (.store (storeOf .sample)), .starts .nil,
        .happens (.invalidate .nil)]
        ⟨.inMemory default .epoch 0, []⟩) := by
  refine (invalidation_effective_iff (by decide) ⟨rfl, .empty, .empty, rfl⟩
    [.happens (.store (storeOf .sample)), .starts .nil] (.invalidate .nil) rfl).mpr ?_
  intro reader member own book other rest
  obtain rfl := List.mem_singleton.mp member
  nomatch rest

/-- A reader that is slow to cache the book that it has from storage. -/
theorem late_reader (inProcess : d.InProcess) (uncached : d.slot? (key projectId) = none)
    (held : d.store.ruleBook? projectId = some book) (life : UInt64) :
    ∃ e, e.InProcess ∧ Race.play life [.starts projectId, .asks 0, .asks 0, .asks 0] ⟨d, []⟩ =
      ⟨e, [⟨projectId, (Phase.writing book).script life projectId⟩]⟩ := by
  have turns (d : Deployment) (rest : Action (Result (Option RuleBook))) :=
    Race.asks_last life d [] projectId rest
  simp only [List.length_nil, List.nil_append] at turns
  obtain ⟨next, a, read, inProcess, storeA, follows, -⟩ :=
    Phase.step_cases inProcess life projectId .reading
  obtain ⟨result, rfl⟩ : ∃ result, next = .missed result := by
    cases follows with
    | found there => exact absurd (uncached.symm.trans there) nofun
    | missed result => exact ⟨result, rfl⟩
  obtain ⟨next, b, counted, inProcess, storeB, follows, -⟩ :=
    Phase.step_cases inProcess life projectId (.missed result)
  cases follows
  obtain ⟨next, e, fetched, inProcess, storeE, follows, -⟩ :=
    Phase.step_cases inProcess life projectId .fetching
  cases follows
  rw [storeB, storeA, held] at fetched
  refine ⟨e, inProcess, ?_⟩
  have starts : Race.turn life ⟨d, []⟩ (.starts projectId) =
    ⟨d, [⟨projectId, Phase.reading.script life projectId⟩]⟩ := rfl
  simp only [Race.play, List.foldl_cons, List.foldl_nil, starts, turns, read, counted, fetched]
  rfl

/-- The sample project, not in force any more. -/
def retired : Project := { Project.sample with isActive := false }

/-- A reader has the sample project from storage and has not cached it yet when
the project is retired. -/
def overtaken : List Turn :=
  [.happens (.store (storeOf .sample)), .starts .nil, .asks 0, .asks 0, .asks 0,
    .happens (.store (storeOf retired))]

theorem play_overtaken : ∃ e, e.InProcess ∧ e.store = storeOf retired ∧
    Race.play 300 overtaken ⟨.inMemory default .epoch 0, []⟩ =
      ⟨e, [⟨.nil, (Phase.writing ⟨.sample, []⟩).script 300 .nil⟩]⟩ := by
  have start : (Deployment.inMemory default .epoch 0).InProcess := ⟨rfl, .empty, .empty, rfl⟩
  obtain ⟨e, inProcess, late⟩ :=
    late_reader (apply_inProcess start 300 (.store (storeOf .sample))) rfl
    (ruleBook?_storeOf_self .sample) 300
  exact ⟨{ e with store := storeOf retired }, ⟨inProcess.calm, inProcess.process⟩, rfl,
    congrArg (Race.turn 300 · (.happens (.store (storeOf retired)))) late⟩

theorem decode?_encode_sample : decode? (encode ⟨.sample, []⟩) = some ⟨.sample, []⟩ := by
  have shallow : RuleBook.Shallow ⟨.sample, []⟩ := ⟨by simp [Project.sample], List.forall_mem_nil _⟩
  rw [decode?_encode ⟨sample_exact, List.forall_mem_nil _⟩,
    if_pos (RuleBook.depth_toJson.mpr shallow)]
  rfl

/-- The sample project comes back after it was retired and its book forgotten: the reader that was
overtaken caches it again. -/
theorem superseded_book_returns : ¬ ∀ turns event projectId, Event.Forgets projectId event →
    Effective 300 projectId
      (Race.play 300 (turns ++ [.happens event]) ⟨.inMemory default .epoch 0, []⟩) := by
  intro effective
  have start : (Deployment.inMemory default .epoch 0).InProcess := ⟨rfl, .empty, .empty, rfl⟩
  have exact : retired.Exact := ⟨epoch_valid, nofun, nofun, nofun⟩
  have forgotten := effective overtaken (.invalidate .nil) .nil rfl
  have showing := showing_any start 300 .nil (overtaken ++ [.happens (.invalidate .nil)])
  obtain ⟨e, inProcess, store, played⟩ := play_overtaken
  rw [Race.play_concat, played] at forgotten showing
  have settled := settled_of_effective (by decide) showing forgotten
  -- Then storage would still hold the book that the reader is about to cache; it holds the retired
  -- project.
  have recalled := settled _ (List.mem_singleton_self _) rfl _ _ rfl decode?_encode_sample
  have now : (Race.turn 300 ⟨e, [⟨.nil, (Phase.writing ⟨.sample, []⟩).script 300 .nil⟩]⟩
      (.happens (.invalidate .nil))).deployment.store.ruleBook? .nil = some ⟨retired, []⟩ := by
    refine (apply_ruleBook? inProcess 300 (.invalidate .nil) .nil).trans ?_
    rw [store]
    exact ruleBook?_storeOf_self retired
  rw [now] at recalled
  obtain same | again := recalled.eq_or_read
  · exact absurd (congrArg (·.project.isActive) same) (by decide)
  · have same := eq_of_decode?_encode ⟨exact, List.forall_mem_nil _⟩ again
    exact absurd (congrArg (·.project.isActive) same) (by decide)

end Cache.Rules

end Voucher
