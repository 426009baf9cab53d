import Mathlib.Logic.Relation
import Voucher.Proofs.Instant
import Voucher.Proofs.KeyValue.Server
import Voucher.Proofs.Lock.Rows
import Voucher.Service.Deployment

/-! Locks that several processes take side by side, on the server or, when that fails them, in the
database. Each of the two stores keeps to one holder for a key; that one of them is asked because
the other did not answer is no reason why the other should have no holder. -/
namespace Voucher.Lock.Distributed

/-- The answer to a request that fails; a clock can always be read. -/
def Call.failure? : (q : Call) → Option q.Answer
  | claim .. | yieldKey .. | claimRow .. | yieldRow .. => some (.error ())
  | purge _ => some (.error ())
  | clock => none

namespace Failover

/-- A question with the answer it got. -/
abbrev Answered := (q : Call) × q.Answer

/-- The two stores. Each goes by its own clock, and a request that has failed for its caller may
still be on its way. -/
structure Stores where
  server : KeyValue.Server
  /-- When the lease of what is under a key ends, by the clock of the server. -/
  timers : String → Instant
  serverClock : Instant
  rows : Rows
  rowsClock : Instant
  late : List Call

namespace Stores

/-- Carries out a request. Whoever claims a row reads the end of its lease off its own clock. -/
def serve (now : Instant) : (q : Call) → Stores → q.Answer × Stores
  | .claim key owner lease, s =>
    ((s.server.claim key owner lease).1,
      { s with
        server := (s.server.claim key owner lease).2
        timers := if (s.server.claim key owner lease).1 = .ok true then
          Function.update s.timers key (s.serverClock.addNanos (lease * millisecond))
            else s.timers })
  | .yieldKey key owner, s =>
    ((s.server.yieldKey key owner).1, { s with server := (s.server.yieldKey key owner).2 })
  | .clock, s => (now, s)
  | .purge key, s =>
    ((s.rows.purge key s.rowsClock).1, { s with rows := (s.rows.purge key s.rowsClock).2 })
  | .claimRow key owner lease, s =>
    ((s.rows.claim key owner lease now).1, { s with rows := (s.rows.claim key owner lease now).2 })
  | .yieldRow key owner, s =>
    ((s.rows.yieldRow key owner).1, { s with rows := (s.rows.yieldRow key owner).2 })

/-- The end of the lease that a request asks for. -/
def leaseEnd? (s : Stores) (now : Instant) : Call → Option Instant
  | .claim _ _ lease => some (s.serverClock.addNanos (lease * millisecond))
  | .claimRow _ _ lease => some (now.addNanos (lease * millisecond))
  | .yieldKey .. | .clock | .purge _ | .yieldRow .. => none

/-- The lease of a lock in some place is over. -/
def isOver (s : Stores) (place : Place) (expiry : Instant) : Bool :=
  match place with
  | .process => true
  | .keyValue => expiry.le s.serverClock
  | .database => expiry.lt s.rowsClock

end Stores

/-- One who wants a lock: under what name, what is still to be asked for it, what was answered, the
latest first, and the end of the lease that was last asked for. -/
structure Caller where
  owner : String
  rest : Action (Option Guard)
  past : List Answered
  expiry : Instant

namespace Caller

/-- A caller at its start. If its asking breaks off, it ends without a guard. -/
def fresh (key owner : String) (lease attempts : Nat) : Caller :=
  ⟨owner, acquire true key owner lease attempts >>= fun o => pure o.guard?, [], .epoch⟩

/-- The caller gets an answer. -/
def answered (c : Caller) (q : Call) (a : q.Answer) (rest : Action (Option Guard)) : Caller :=
  { c with rest := rest, past := ⟨q, a⟩ :: c.past }

/-- The caller's request is carried out. -/
def served (c : Caller) (s : Stores) (now : Instant) (q : Call)
    (next : q.Answer → Action (Option Guard)) :
    Caller :=
  { c.answered q (s.serve now q).1 (next (s.serve now q).1) with
    expiry := (s.leaseEnd? now q).getD c.expiry }

/-- The server failed the caller: a claim was answered with an error. -/
def missed (c : Caller) : Bool := c.past.any fun
  | ⟨.claim .., .error _⟩ => true
  | _ => false

/-- The caller has a guard that it has not given up, and the lease is not over. -/
def Holds (c : Caller) (s : Stores) (g : Guard) : Prop :=
  c.rest = .done (some g) ∧ s.isOver g.place c.expiry = false

end Caller

structure State where
  stores : Stores
  callers : List Caller

/-- One thing that happens. -/
inductive Step : State → State → Prop where
  /-- A request is carried out and its answer comes back. -/
  | answers (now : Instant) (before after : List Caller) (c : Caller)
      (asks : c.rest = .ask q next) :
      Step ⟨s, before ++ c :: after⟩ ⟨(s.serve now q).2, before ++ c.served s now q next :: after⟩
  /-- A request fails; it may or may not be on its way still. -/
  | fails (before after : List Caller) (c : Caller) (asks : c.rest = .ask q next)
      (failure : q.failure? = some a) :
      Step ⟨s, before ++ c :: after⟩
        ⟨{ s with late := q :: s.late }, before ++ c.answered q a (next a) :: after⟩
  | arrives (now : Instant) (late : q ∈ s.late) : Step ⟨s, callers⟩ ⟨(s.serve now q).2, callers⟩
  /-- The server forgets a key whose lease is over. -/
  | expires (lapsed : (s.timers key).le s.serverClock) :
      Step ⟨s, callers⟩ ⟨{ s with server := s.server.remove [key] }, callers⟩
  | serverTime (later : s.serverClock.le now) :
      Step ⟨s, callers⟩ ⟨{ s with serverClock := now }, callers⟩
  | rowsTime (later : s.rowsClock.le now) : Step ⟨s, callers⟩ ⟨{ s with rowsClock := now }, callers⟩
  /-- A guard is released, or dropped where its release can still be sent. -/
  | gives (before after : List Caller) (c : Caller) (held : c.rest = .done (some g)) :
      Step ⟨s, before ++ c :: after⟩
        ⟨s, before ++ { c with rest := release g >>= fun _ => pure none } :: after⟩
  /-- A guard is dropped and nothing is sent. -/
  | drops (before after : List Caller) (c : Caller) (held : c.rest = .done (some g)) :
      Step ⟨s, before ++ c :: after⟩ ⟨s, before ++ { c with rest := pure none } :: after⟩

/-- Nobody has asked for anything yet, and no two callers go by one name. -/
structure Initial (s : State) : Prop where
  late : s.stores.late = []
  fresh : ∀ c ∈ s.callers, ∃ key lease attempts, c = .fresh key c.owner lease attempts
  owners : (s.callers.map (·.owner)).Nodup

/-- No key has two holders. -/
def Exclusive (s : State) : Prop :=
  ∀ c ∈ s.callers, ∀ d ∈ s.callers, ∀ g h, c.Holds s.stores g → d.Holds s.stores h → g.key = h.key →
    c.owner = d.owner

variable {s t : Stores} {q : Call} {key owner : String} {row : Row} {g : Guard}
  {now expiry : Instant} {c d : Caller} {before after : List Caller}
  {next : q.Answer → Action (Option Guard)}

/-- The owner for which a request gives a lock up. -/
def giver? : Call → Option String
  | .yieldKey _ owner | .yieldRow _ owner => some owner
  | .claim .. | .clock | .purge _ | .claimRow .. => none

/-- What is under a key of the server stays there until its owner gives it up. -/
theorem serve_server (standing : s.server.value? key = some owner) (foreign : giver? q ≠ some owner)
    (now : Instant) :
    (s.serve now q).2.server.value? key = some owner ∧ (s.serve now q).2.timers key =
      s.timers key := by
  cases q with
  | claim k o lease =>
      simp only [Stores.serve]
      obtain ⟨granted, free, entries⟩ | ⟨refused, entries⟩ := s.server.claim_cases k o lease
      · have ne : key ≠ k := by
          rintro rfl
          rw [standing] at free
          contradiction
        rw [KeyValue.Server.value?_of_entries entries, KeyValue.Server.value?_put_ne s.server ne,
          if_pos granted, Function.update_of_ne ne]
        exact ⟨standing, rfl⟩
      · rw [KeyValue.Server.value?_of_entries entries, if_neg refused]
        exact ⟨standing, rfl⟩
  | yieldKey k o =>
      simp only [Stores.serve]
      obtain ⟨held, entries⟩ | entries := s.server.yieldKey_cases k o
      · have ne : key ≠ k := by
          rintro rfl
          exact foreign (held.symm.trans standing)
        rw [KeyValue.Server.value?_of_entries entries, KeyValue.Server.value?_remove_ne s.server ne]
        exact ⟨standing, trivial⟩
      · rw [KeyValue.Server.value?_of_entries entries]
        exact ⟨standing, trivial⟩
  | clock | purge | claimRow | yieldRow => exact ⟨standing, rfl⟩

/-- A row stays until its owner gives it up or its lease is over. -/
theorem serve_rows (standing : s.rows.row? key = some row) (lasts : ¬ row.expiry.lt s.rowsClock)
    (foreign : giver? q ≠ some row.owner) (now : Instant) :
    (s.serve now q).2.rows.row? key = some row := by
  cases q with
  | claim | yieldKey | clock => exact standing
  | purge k =>
      simp only [Stores.serve]
      obtain ⟨x, found, lapsed, rows⟩ | rows := s.rows.purge_cases k s.rowsClock
      · have ne : key ≠ k := by
          rintro rfl
          rw [standing] at found
          cases found
          exact lasts lapsed
        rw [Rows.row?_of_rows rows, Rows.row?_remove_ne s.rows ne, standing]
      · rw [Rows.row?_of_rows rows, standing]
  | claimRow k o lease =>
      simp only [Stores.serve]
      obtain ⟨-, free, rows⟩ | ⟨-, rows⟩ := s.rows.claim_cases k o lease now
      · have ne : key ≠ k := by
          rintro rfl
          rw [standing] at free
          contradiction
        rw [Rows.row?_of_rows rows, Rows.row?_put_ne s.rows ne, standing]
      · rw [Rows.row?_of_rows rows, standing]
  | yieldRow k o =>
      simp only [Stores.serve]
      obtain ⟨x, found, rfl, rows⟩ | rows := s.rows.yieldRow_cases k o
      · have ne : key ≠ k := by
          rintro rfl
          rw [standing] at found
          cases found
          exact foreign rfl
        rw [Rows.row?_of_rows rows, Rows.row?_remove_ne s.rows ne, standing]
      · rw [Rows.row?_of_rows rows, standing]

theorem serve_rest (s : Stores) (now : Instant) (q : Call) :
    (s.serve now q).2.serverClock = s.serverClock ∧ (s.serve now q).2.rowsClock = s.rowsClock ∧
      (s.serve now q).2.late = s.late := by
  cases q <;> exact ⟨rfl, rfl, rfl⟩

/-- The lock of a guard is where it was granted, unless its lease is over. -/
def Stores.Keeps (s : Stores) (g : Guard) (expiry : Instant) : Prop :=
  s.isOver g.place expiry ∨ match g.place with
    | .process => False
    | .keyValue => s.server.value? g.key = some g.owner ∧ s.timers g.key = expiry
    | .database => s.rows.row? g.key = some ⟨g.owner, expiry⟩

theorem Stores.Keeps.serve (keeps : s.Keeps g expiry) (foreign : giver? q ≠ some g.owner)
    (now : Instant) :
    (s.serve now q).2.Keeps g expiry := by
  obtain ⟨serverClock, rowsClock, -⟩ := serve_rest s now q
  unfold Keeps isOver at keeps ⊢
  rw [serverClock, rowsClock]
  cases place : g.place with
  | process => exact .inl rfl
  | keyValue =>
      simp only [place] at keeps ⊢
      obtain lapsed | ⟨standing, ends⟩ := keeps
      · exact .inl lapsed
      · obtain ⟨stands, timer⟩ := serve_server standing foreign now
        exact .inr ⟨stands, timer.trans ends⟩
  | database =>
      simp only [place] at keeps ⊢
      by_cases lapsed : expiry.lt s.rowsClock
      · exact .inl lapsed
      · exact .inr (serve_rows (keeps.resolve_left lapsed) lapsed foreign now)

theorem Stores.Keeps.expires (keeps : s.Keeps g expiry) (lapsed : (s.timers key).le s.serverClock) :
    ({ s with server := s.server.remove [key] } : Stores).Keeps g expiry := by
  unfold Keeps isOver at keeps ⊢
  cases place : g.place with
  | process => exact .inl rfl
  | keyValue =>
      simp only [place] at keeps ⊢
      obtain ended | ⟨standing, ends⟩ := keeps
      · exact .inl ended
      · by_cases same : g.key = key
        · subst same
          exact .inl (ends ▸ lapsed)
        · exact .inr ⟨(KeyValue.Server.value?_remove_ne s.server same).trans standing, ends⟩
  | database =>
      simp only [place] at keeps ⊢
      exact keeps

theorem Stores.Keeps.serverTime (keeps : s.Keeps g expiry) (later : s.serverClock.le now) :
    ({ s with serverClock := now } : Stores).Keeps g expiry := by
  refine keeps.imp_left fun lapsed => ?_
  unfold isOver at lapsed ⊢
  cases place : g.place with
  | process => rfl
  | keyValue =>
      rw [place] at lapsed
      exact Instant.le_trans lapsed later
  | database =>
      rw [place] at lapsed
      exact lapsed

theorem Stores.Keeps.rowsTime (keeps : s.Keeps g expiry) (later : s.rowsClock.le now) :
    ({ s with rowsClock := now } : Stores).Keeps g expiry := by
  refine keeps.imp_left fun lapsed => ?_
  unfold isOver at lapsed ⊢
  cases place : g.place with
  | process => rfl
  | keyValue =>
      rw [place] at lapsed
      exact lapsed
  | database =>
      rw [place] at lapsed
      exact Instant.lt_of_lt_of_le lapsed later

/-- A script on its way to a lock of a key. It ends with a guard only where it is granted one, and
asks for a row only once the server has failed it. -/
def Asking (key owner : String) : (missed : Bool) → Action (Option Guard) → Prop
  | _, .done g => g = none
  | missed, .ask (.claim k o _) next => k = key ∧ o = owner ∧
      next (.ok true) = .done (some ⟨key, owner, .keyValue⟩) ∧
      Asking key owner missed (next (.ok false)) ∧ Asking key owner true (next (.error ()))
  | missed, .ask .clock next => ∀ a, Asking key owner missed (next a)
  | missed, .ask (.purge _) next => ∀ a, Asking key owner missed (next a)
  | missed, .ask (.claimRow k o _) next => missed = true ∧ k = key ∧ o = owner ∧
      next (.ok true) = .done (some ⟨key, owner, .database⟩) ∧
      Asking key owner missed (next (.ok false)) ∧ Asking key owner missed (next (.error ()))
  | _, .ask (.yieldKey ..) _ => False
  | _, .ask (.yieldRow ..) _ => False

theorem acquire_asking (key owner : String) (lease attempts : Nat) (missed : Bool) :
    Asking key owner missed
      (acquire true key owner lease attempts >>= fun o => pure o.guard?) := by
  induction attempts generalizing missed with
  | zero => rfl
  | succ attempts ih =>
      refine ⟨rfl, rfl, rfl, ih missed, ?_⟩
      by_cases long : longestRowLease < lease
      · rw [if_pos rfl, attemptRow, if_pos long]
        exact ih true
      · rw [if_pos rfl, attemptRow, if_neg long]
        intro now
        show Asking key owner true
          (((if leaseEnds now lease then takeRow key owner lease else pure .broken) >>= _) >>= _)
        by_cases ends : leaseEnds now lease
        · rw [if_pos ends]
          rintro (e | u)
          · exact ih true
          · exact ⟨rfl, rfl, rfl, rfl, ih true, ih true⟩
        · rw [if_neg ends]
          rfl

/-- Whoever is not granted a lock of the server goes on, and knows if the server has failed. -/
theorem Asking.claim_denied {reply : Reply Bool} {next : Reply Bool → Action (Option Guard)}
    (asking : Asking key c.owner c.missed (.ask (.claim k o lease) next))
    (denied : reply ≠ .ok true) :
    Asking key c.owner (c.answered (.claim k o lease) reply (next reply)).missed (next reply) := by
  obtain ⟨-, -, -, refused, failed⟩ := asking
  obtain e | b := reply
  · exact failed
  · obtain rfl : b = false := by simpa using denied
    exact refused

theorem Asking.claimRow_denied {reply : Reply Bool} {next : Reply Bool → Action (Option Guard)}
    (asking : Asking key c.owner c.missed (.ask (.claimRow k o lease) next))
    (denied : reply ≠ .ok true) :
    Asking key c.owner (c.answered (.claimRow k o lease) reply (next reply)).missed
      (next reply) := by
  obtain ⟨-, -, -, -, refused, failed⟩ := asking
  obtain e | b := reply
  · exact failed
  · obtain rfl : b = false := by simpa using denied
    exact refused

/-- A script that gives a lock up and ends without one. -/
def Leaving (owner : String) : Action (Option Guard) → Prop
  | .done g => g = none
  | .ask q next => giver? q = some owner ∧ ∀ a, Leaving owner (next a)

theorem release_leaving (g : Guard) : Leaving g.owner (release g >>= fun _ => pure none) := by
  unfold release
  cases g.place with
  | process => rfl
  | keyValue | database => exact ⟨rfl, fun _ => rfl⟩

/-- No request on its way gives a lock up for an owner. -/
def Stores.Unsent (s : Stores) (owner : String) : Prop := ∀ q ∈ s.late, giver? q ≠ some owner

/-- A caller asks for a lock, has one that is still in its place, or has given it up. -/
inductive Sound (s : Stores) (c : Caller) : Prop where
  | asking (key : String) (asking : Asking key c.owner c.missed c.rest) (unsent : s.Unsent c.owner)
  | holding (g : Guard) (held : c.rest = .done (some g)) (own : g.owner = c.owner)
      (keeps : s.Keeps g c.expiry) (missed : g.place = .database → c.missed)
      (unsent : s.Unsent c.owner)
  | leaving (leaving : Leaving c.owner c.rest)

theorem Sound.giver (sound : Sound s c) (asks : c.rest = .ask q next) :
    giver? q = none ∨ giver? q = some c.owner ∧ Leaving c.owner c.rest := by
  cases sound with
  | asking key asking unsent =>
      rw [asks] at asking
      cases q with
      | claim | clock | purge | claimRow => exact .inl rfl
      | yieldKey | yieldRow => exact asking.elim
  | holding g held =>
      rw [asks] at held
      contradiction
  | leaving leaving =>
      refine .inr ⟨?_, leaving⟩
      rw [asks] at leaving
      exact leaving.1

theorem Sound.of_held (sound : Sound s c) (held : c.rest = .done (some g)) :
    g.owner = c.owner ∧ s.Keeps g c.expiry ∧ (g.place = .database → c.missed) := by
  cases sound with
  | asking key asking unsent =>
      rw [held] at asking
      contradiction
  | holding x same own keeps missed =>
      rw [held] at same
      cases same
      exact ⟨own, keeps, missed⟩
  | leaving leaving =>
      rw [held] at leaving
      contradiction

/-- What happens elsewhere leaves a caller sound. -/
theorem Sound.mono (sound : Sound s c)
    (keeps : s.Unsent c.owner → ∀ g, g.owner = c.owner → s.Keeps g c.expiry → t.Keeps g c.expiry)
    (unsent : s.Unsent c.owner → t.Unsent c.owner) : Sound t c := by
  cases sound with
  | asking key asking quiet => exact .asking key asking (unsent quiet)
  | holding g held own kept missed quiet =>
      exact .holding g held own (keeps quiet g own kept) missed (unsent quiet)
  | leaving leaving => exact .leaving leaving

theorem Sound.serve (sound : Sound s c) (foreign : s.Unsent c.owner → giver? q ≠ some c.owner)
    (now : Instant) : Sound (s.serve now q).2 c := by
  refine sound.mono (fun unsent g own keeps => keeps.serve (own ▸ foreign unsent) now) ?_
  intro unsent x member
  rw [(serve_rest s now q).2.2] at member
  exact unsent x member

theorem Sound.served (sound : Sound s c) (asks : c.rest = .ask q next) (now : Instant) :
    Sound (s.serve now q).2 (c.served s now q next) := by
  have quiet : s.Unsent c.owner → (s.serve now q).2.Unsent c.owner := by
    intro unsent x member
    rw [(serve_rest s now q).2.2] at member
    exact unsent x member
  cases sound with
  | holding g held =>
      rw [asks] at held
      contradiction
  | leaving leaving =>
      rw [asks] at leaving
      exact .leaving (leaving.2 _)
  | asking key asking unsent =>
      rw [asks] at asking
      cases q with
      | yieldKey | yieldRow => exact asking.elim
      | clock | purge => exact .asking key (asking _) (quiet unsent)
      | claim k o lease =>
          obtain ⟨rfl, rfl, granted, -⟩ := id asking
          obtain ⟨yes, -, entries⟩ | ⟨no, -⟩ := s.server.claim_cases k c.owner lease
          · refine .holding ⟨k, c.owner, .keyValue⟩ ?_ rfl (.inr ⟨?_, ?_⟩) nofun (quiet unsent)
            · simp only [Caller.served, Caller.answered, Stores.serve, yes, granted]
            · exact (KeyValue.Server.value?_of_entries entries k).trans
                (KeyValue.Server.value?_put_self s.server k c.owner)
            · simp only [Stores.serve, if_pos yes, Function.update_self]
              rfl
          · exact .asking k (asking.claim_denied no) (quiet unsent)
      | claimRow k o lease =>
          obtain ⟨missed, rfl, rfl, granted, -⟩ := id asking
          obtain ⟨yes, -, rows⟩ | ⟨no, -⟩ := s.rows.claim_cases k c.owner lease now
          · refine .holding ⟨k, c.owner, .database⟩ ?_ rfl (.inr ?_) (fun _ => missed)
              (quiet unsent)
            · simp only [Caller.served, Caller.answered, Stores.serve, yes, granted]
            · exact (Rows.row?_of_rows rows k).trans (Rows.row?_put_self s.rows k _)
          · exact .asking k (asking.claimRow_denied no) (quiet unsent)

/-- A caller whose request fails goes on as one that was failed. -/
theorem Sound.failed (sound : Sound s c) (asks : c.rest = .ask q next)
    (failure : q.failure? = some a) :
    Sound { s with late := q :: s.late } (c.answered q a (next a)) := by
  cases sound with
  | holding g held =>
      rw [asks] at held
      contradiction
  | leaving leaving =>
      rw [asks] at leaving
      exact .leaving (leaving.2 _)
  | asking key asking unsent =>
      rw [asks] at asking
      have quiet : giver? q = none → ∀ x ∈ q :: s.late, giver? x ≠ some c.owner := by
        intro silent x member
        obtain rfl | member := List.mem_cons.mp member
        · simp [silent]
        · exact unsent x member
      cases q with
      | yieldKey | yieldRow => exact asking.elim
      | clock => contradiction
      | purge k => exact .asking key (asking _) (quiet rfl)
      | claim k o lease =>
          cases failure
          exact .asking key (asking.claim_denied nofun) (quiet rfl)
      | claimRow k o lease =>
          cases failure
          exact .asking key (asking.claimRow_denied nofun) (quiet rfl)

/-- What holds in every run: all callers are sound, and no two go by one name. -/
structure Invariant (s : State) : Prop where
  sound : ∀ c ∈ s.callers, Sound s.stores c
  owners : (s.callers.map (·.owner)).Nodup

/-- One caller moves on, and what it does is no harm to the others. -/
theorem Invariant.replace (inv : Invariant ⟨s, before ++ c :: after⟩) (own : d.owner = c.owner)
    (moved : Sound t d) (others : ∀ x, Sound s x → x.owner ≠ c.owner → Sound t x) :
    Invariant ⟨t, before ++ d :: after⟩ := by
  obtain ⟨sound, owners⟩ := inv
  simp only [List.map_append, List.map_cons] at owners
  constructor
  case owners => simpa only [List.map_append, List.map_cons, own] using owners
  case sound =>
      intro x member
      obtain other | rfl : x ∈ before ++ after ∨ x = d := by
        simp only [List.mem_append, List.mem_cons] at member ⊢
        tauto
      · have placed : x ∈ before ++ c :: after := by
          simp only [List.mem_append, List.mem_cons] at other ⊢
          tauto
        refine others x (sound x placed) ?_
        intro same
        have twice := (List.nodup_cons.mp (List.nodup_middle.mp owners)).1
        rw [← List.map_append, ← same] at twice
        exact twice (List.mem_map_of_mem other)
      · exact moved

/-- Something happens at the stores alone. -/
theorem Invariant.elsewhere (inv : Invariant ⟨s, callers⟩) (others : ∀ x, Sound s x → Sound t x) :
    Invariant ⟨t, callers⟩ := ⟨fun c member => others c (inv.sound c member), inv.owners⟩

theorem Invariant.step {x y : State} (inv : Invariant x) (step : Step x y) : Invariant y := by
  cases step with
  | answers now before after c asks =>
      have sound := inv.sound c (List.mem_append_right before List.mem_cons_self)
      refine inv.replace rfl (sound.served asks now) fun d other apart =>
        other.serve (fun _ => ?_) now
      obtain silent | ⟨giver, -⟩ := sound.giver asks
      · simp [silent]
      · rw [giver]
        exact fun same => apart (Option.some.inj same).symm
  | fails before after c asks failure =>
      have sound := inv.sound c (List.mem_append_right before List.mem_cons_self)
      refine inv.replace rfl (sound.failed asks failure) fun d other apart =>
        other.mono (fun _ _ _ keeps => keeps) fun unsent q member => ?_
      obtain rfl | member := List.mem_cons.mp member
      · obtain silent | ⟨giver, -⟩ := sound.giver asks
        · simp [silent]
        · rw [giver]
          exact fun same => apart (Option.some.inj same).symm
      · exact unsent q member
  | arrives now late =>
      exact inv.elsewhere fun d sound => sound.serve (fun unsent => unsent _ late) now
  | expires lapsed =>
      exact inv.elsewhere fun d sound => sound.mono (fun _ _ _ keeps => keeps.expires lapsed) id
  | serverTime later =>
      exact inv.elsewhere fun d sound => sound.mono (fun _ _ _ keeps => keeps.serverTime later) id
  | rowsTime later =>
      exact inv.elsewhere fun d sound => sound.mono (fun _ _ _ keeps => keeps.rowsTime later) id
  | gives before after c held =>
      have sound := inv.sound c (List.mem_append_right before List.mem_cons_self)
      obtain ⟨own, -⟩ := sound.of_held held
      exact inv.replace rfl (.leaving (own ▸ release_leaving _)) fun d other _ => other
  | drops before after c held => exact inv.replace rfl (.leaving rfl) fun d other _ => other

theorem Initial.invariant {x : State} (initial : Initial x) : Invariant x := by
  refine ⟨fun c member => ?_, initial.owners⟩
  obtain ⟨key, lease, attempts, begun⟩ := initial.fresh c member
  refine .asking key ?_ ?_
  · rw [begun]
    exact acquire_asking key c.owner lease attempts _
  · intro q sent
    rw [initial.late] at sent
    contradiction

theorem Invariant.run {x y : State} (inv : Invariant x) (steps : Relation.ReflTransGen Step x y) :
    Invariant y := by
  induction steps with
  | refl => exact inv
  | tail _ step ih => exact ih.step step

/-- Of two that hold a key, one has it on the server and the other, whom the server
failed, in the database. -/
def Split (g : Guard) (d : Caller) (h : Guard) : Prop :=
  g.place = .keyValue ∧ h.place = .database ∧ d.missed

theorem Sound.split (soundC : Sound s c) (soundD : Sound s d) (holdsC : c.Holds s g)
    (holdsD : d.Holds s h)
    (same : g.key = h.key) (apart : c.owner ≠ d.owner) : Split g d h ∨ Split h c g := by
  obtain ⟨ownC, keepsC, missedC⟩ := soundC.of_held holdsC.1
  obtain ⟨ownD, keepsD, missedD⟩ := soundD.of_held holdsD.1
  have standsC := keepsC.resolve_left (by simp [holdsC.2])
  have standsD := keepsD.resolve_left (by simp [holdsD.2])
  cases placeC : g.place with
  | process => simp [placeC] at standsC
  | keyValue =>
      simp only [placeC] at standsC
      cases placeD : h.place with
      | process => simp [placeD] at standsD
      | keyValue =>
          simp only [placeD] at standsD
          rw [← same, standsC.1, ownC, ownD] at standsD
          exact absurd (Option.some.inj standsD.1) apart
      | database => exact .inl ⟨placeC, placeD, missedD placeD⟩
  | database =>
      simp only [placeC] at standsC
      cases placeD : h.place with
      | process => simp [placeD] at standsD
      | keyValue => exact .inr ⟨placeD, placeC, missedC placeC⟩
      | database =>
          simp only [placeD] at standsD
          rw [← same, standsC, ownC, ownD] at standsD
          exact absurd (congrArg Row.owner (Option.some.inj standsD)) apart

/-- Whichever requests fail, and in whatever order all others are carried out, two callers hold one
key only if one holds it on the server and the other in the database, after the server has failed
it. As long as the server fails no claim, no key has two holders. -/
theorem exclusive_unless_split {x y : State} (initial : Initial x)
    (steps : Relation.ReflTransGen Step x y) :
    (∀ c ∈ y.callers, ∀ d ∈ y.callers, ∀ g h, c.Holds y.stores g → d.Holds y.stores h →
      g.key = h.key →
      c.owner ≠ d.owner → Split g d h ∨ Split h c g) ∧
    ((∀ c ∈ y.callers, c.missed = false) → Exclusive y) := by
  obtain ⟨sound, -⟩ := initial.invariant.run steps
  constructor
  · intro c memberC d memberD g h holdsC holdsD same apart
    exact (sound c memberC).split (sound d memberD) holdsC holdsD same apart
  · intro reached c memberC d memberD g h holdsC holdsD same
    by_contra apart
    obtain ⟨-, -, missed⟩ | ⟨-, -, missed⟩ :=
      (sound c memberC).split (sound d memberD) holdsC holdsD same apart
    · simp [reached d memberD] at missed
    · simp [reached c memberC] at missed

/-- Two callers that want one key, and nothing in the stores. -/
def duel : State :=
  ⟨⟨.empty, fun _ => .epoch, .epoch, .empty, .epoch, []⟩,
    [.fresh "k" "a" 5000 1, .fresh "k" "b" 5000 1]⟩

theorem duel_initial : Initial duel where
  late := rfl
  fresh := by
    intro c member
    simp only [duel, List.mem_cons, List.not_mem_nil, or_false] at member
    obtain rfl | rfl := member <;> exact ⟨"k", 5000, 1, rfl⟩
  owners := by decide

/-- The first caller has the lock from the server. The second does not reach the server, and the
database knows of no lock. -/
theorem duel_split : ∃ y, Relation.ReflTransGen Step duel y ∧ ∃ c d, y.callers = [c, d] ∧
    c.Holds y.stores ⟨"k", "a", .keyValue⟩ ∧ d.Holds y.stores ⟨"k", "b", .database⟩ ∧
    c.owner = "a" ∧ d.owner = "b" := by
  have begun : Relation.ReflTransGen Step duel duel := .refl
  have first := begun.tail (.answers .epoch [] [_] _ rfl)
  have missed := first.tail (.fails [_] [] _ rfl rfl)
  have read := missed.tail (.answers .epoch [_] [] _ rfl)
  have purged := read.tail (.answers .epoch [_] [] _ rfl)
  have second := purged.tail (.answers .epoch [_] [] _ rfl)
  exact ⟨_, second, _, _, rfl, ⟨rfl, rfl⟩, ⟨rfl, rfl⟩, rfl, rfl⟩

/-- A key may have one holder on the server and another in the database. -/
theorem duel_not_exclusive :
    Initial duel ∧ ∃ y, Relation.ReflTransGen Step duel y ∧ ¬ Exclusive y := by
  obtain ⟨y, steps, c, d, callers, holdsC, holdsD, a, b⟩ := duel_split
  refine ⟨duel_initial, y, steps, fun exclusive => ?_⟩
  have same := exclusive c (by simp [callers]) d (by simp [callers]) _ _ holdsC holdsD rfl
  rw [a, b] at same
  exact absurd same (by decide)

/-- Where a key has two holders, the server has failed the one in the database. -/
theorem exclusive_unless_split_duel :
    ∃ y, Relation.ReflTransGen Step duel y ∧ ∃ c d, y.callers = [c, d] ∧
    Split ⟨"k", "a", .keyValue⟩ d ⟨"k", "b", .database⟩ := by
  obtain ⟨y, steps, c, d, callers, holdsC, holdsD, a, b⟩ := duel_split
  refine ⟨y, steps, c, d, callers, ?_⟩
  obtain split | ⟨reversed, -⟩ :=
    (exclusive_unless_split duel_initial steps).1 c (by simp [callers]) d
    (by simp [callers]) _ _ holdsC holdsD rfl (by simp [a, b])
  · exact split
  · contradiction

/-- The backends of a deployment carry requests out in this way, where the database goes by the
clock of the caller. -/
theorem answer_eq_serve (s : Stores) (q : Call) :
    Service.Deployment.Backends.answer q ⟨s.server, some s.rows, s.rowsClock⟩ =
      ((s.serve s.rowsClock q).1, ⟨(s.serve s.rowsClock q).2.server,
        some (s.serve s.rowsClock q).2.rows, s.rowsClock⟩) := by
  cases q <;> rfl

end Failover

end Voucher.Lock.Distributed
