import Voucher.Proofs.Lock.Exclusion

/-! One who wants a lock of the process while others take locks and give them up. Its tries
that fail leave no trace, what it does at its key is not seen at any other, and once it has
given its key up nothing of it is left, whether or not its lease has run out and somebody else
has taken the key over. -/
namespace Voucher.Lock.Table

/-- Who does it. -/
def Event.owner : Event → String
  | attempt _ owner .. | giveUp _ owner => owner

section Event

variable {t u : Table} {e : Event} {events : List Event} {key owner : String} {h : Holding}

/-- What an event makes of a key depends on nothing else of the table. -/
theorem Event.holding?_congr (e : Event) (same : t.holding? key = u.holding? key) :
    (e.apply t).holding? key = (e.apply u).holding? key := by
  by_cases own : key = e.key
  · cases e with
    | attempt k owner lease now =>
        obtain rfl : key = k := own
        have alike : t.isFree key now = u.isFree key now := by unfold isFree; rw [same]
        by_cases free : u.isFree key now
        · simp only [Event.apply, tryLock_free (alike.trans free), tryLock_free free,
            holding?_put_self]
        · rw [Event.apply, Event.apply, tryLock_busy (alike ▸ free), tryLock_busy free, same]
    | giveUp k owner =>
        obtain rfl : key = k := own
        by_cases foreign : ∀ h, u.holding? key = some h → h.owner ≠ owner
        · rw [Event.apply, Event.apply, release_other (same ▸ foreign), release_other foreign, same]
        · push Not at foreign
          obtain ⟨h, held, own⟩ := foreign
          simp only [Event.apply, release_held (same.trans held) own, release_held held own,
            holding?_without_self]
  · rw [e.holding?_apply_ne t own, e.holding?_apply_ne u own, same]

/-- Events at other keys may be left out. -/
theorem holding?_replay_filter (p : Event → Bool) (apart : ∀ e ∈ events, p e = false → key ≠ e.key)
    (same : t.holding? key = u.holding? key) :
    (replay events t).holding? key = (replay (events.filter p) u).holding? key := by
  induction events generalizing t u with
  | nil => exact same
  | cons e rest ih =>
      have later : ∀ x ∈ rest, p x = false → key ≠ x.key :=
        fun x member => apart x (List.mem_cons_of_mem e member)
      by_cases kept : p e
      · rw [List.filter_cons_of_pos kept, replay_cons, replay_cons]
        exact ih later (e.holding?_congr same)
      · rw [List.filter_cons_of_neg kept, replay_cons]
        refine ih later ?_
        rw [e.holding?_apply_ne t (apart e List.mem_cons_self (by simpa using kept)), same]

/-- Nobody gets a lock by what somebody else does. -/
theorem Event.holding?_owner (held : (e.apply t).holding? key = some h) :
    h.owner = e.owner ∨ t.holding? key = some h := by
  by_cases own : key = e.key
  · cases e with
    | attempt k owner lease now =>
        obtain rfl : key = k := own
        by_cases free : t.isFree key now
        · rw [Event.apply, tryLock_free free, holding?_put_self] at held
          cases held
          exact .inl rfl
        · rw [Event.apply, tryLock_busy free] at held
          exact .inr held
    | giveUp k owner =>
        obtain rfl : key = k := own
        by_cases foreign : ∀ h, t.holding? key = some h → h.owner ≠ owner
        · rw [Event.apply, release_other foreign] at held
          exact .inr held
        · push Not at foreign
          obtain ⟨x, found, own⟩ := foreign
          simp [Event.apply, release_held found own] at held
  · rw [e.holding?_apply_ne t own] at held
    exact .inr held

/-- Who holds no lock gets none by what others do. -/
theorem unknown_replay (unknown : ∀ h, t.holding? key = some h → h.owner ≠ owner)
    (foreign : ∀ e ∈ events, e.owner ≠ owner) (held : (replay events t).holding? key = some h) :
    h.owner ≠ owner := by
  induction events generalizing t with
  | nil => exact unknown h held
  | cons e rest ih =>
      refine ih ?_ (fun x member => foreign x (List.mem_cons_of_mem e member)) held
      intro x found
      obtain own | old := Event.holding?_owner found
      · rw [own]
        exact foreign e List.mem_cons_self
      · exact unknown x old

/-- Whoever gives up a lock takes none away from anybody else, and has none of the key left. -/
theorem holding?_giveUp (key owner other : String) (t : Table) :
    ((Event.giveUp key owner).apply t).holding? other =
      (t.holding? other).filter fun h => other ≠ key ∨ h.owner ≠ owner := by
  by_cases own : other = key
  · subst own
    by_cases foreign : ∀ h, t.holding? other = some h → h.owner ≠ owner
    · rw [Event.apply, release_other foreign]
      cases held : t.holding? other with
      | none => rfl
      | some h => simp [Option.filter, foreign h held]
    · push Not at foreign
      obtain ⟨h, held, own⟩ := foreign
      simp [Event.apply, release_held held own, Option.filter, held, own]
  · rw [Event.holding?_apply_ne _ t own]
    cases t.holding? other <;> simp [Option.filter, own]

end Event

/-- One who wants a lock under a name that nobody else goes by, and what the others do, as a state
of theirs has it. -/
structure Contest (σ : Type) where
  owner : String
  /-- The table before anything has happened. -/
  held : Table
  /-- What the others do before the next step of the one. -/
  others : σ → List Event × σ
  /-- The clock as the one reads it. -/
  clock : σ → Instant
  foreign : ∀ s, ∀ e ∈ (others s).1, e.owner ≠ owner
  unknown : ∀ key h, held.holding? key = some h → h.owner ≠ owner

/-- A state of the others, and what has happened at the table so far, the first event first. -/
structure Moment (σ : Type) where
  outside : σ
  log : List Event

def Moment.note {σ : Type} (m : Moment σ) (e : Event) : Moment σ := { m with log := m.log ++ [e] }

namespace Contest

variable {σ : Type} (c : Contest σ)

def after (log : List Event) : Table := replay log c.held

/-- What the others have done. -/
def theirs (log : List Event) : List Event := log.filter (·.owner ≠ c.owner)

/-- The others have their turn. -/
def wait (m : Moment σ) : Moment σ := ⟨(c.others m.outside).2, m.log ++ (c.others m.outside).1⟩

/-- Tries up to a number of times; the others have their turn before each try. -/
def tries (key : String) (lease : Nat) : Nat → Moment σ → Bool × Moment σ
  | 0, m => (false, m)
  | n + 1, m =>
    let m := c.wait m
    let now := c.clock m.outside
    let tried := m.note (.attempt key c.owner lease now)
    if ((c.after m.log).tryLock key c.owner lease now).1 then (true, tried)
    else tries key lease n tried

/-- Events in which the one has tried a number of times for a key, each time for nothing, and has
done nothing else. -/
inductive Missed (key : String) (lease : Nat) : Nat → List Event → Prop where
  | start : Missed key lease 0 []
  | other (missed : Missed key lease n log) (foreign : e.owner ≠ c.owner) :
      Missed key lease n (log ++ [e])
  | tried (missed : Missed key lease n log) (now : Instant)
      (busy : ¬ (c.after log).isFree key now) :
      Missed key lease (n + 1) (log ++ [.attempt key c.owner lease now])

variable {c} {m : Moment σ} {key other : String} {lease n : Nat} {log events : List Event}
  {e : Event}

@[simp] theorem after_append (log events : List Event) :
    c.after (log ++ events) = replay events (c.after log) := replay_append log events c.held

@[simp] theorem theirs_append (log events : List Event) :
    c.theirs (log ++ events) = c.theirs log ++ c.theirs events := List.filter_append log events

theorem theirs_foreign (foreign : e.owner ≠ c.owner) : c.theirs [e] = [e] := by
  simpa [theirs] using foreign

theorem theirs_own (own : e.owner = c.owner) : c.theirs [e] = [] := by
  simpa [theirs] using own

theorem Missed.append (missed : c.Missed key lease n log)
    (foreign : ∀ e ∈ events, e.owner ≠ c.owner) :
    c.Missed key lease n (log ++ events) := by
  induction events using List.reverseRecOn with
  | nil => simpa using missed
  | append_singleton events e ih =>
      rw [← List.append_assoc]
      exact (ih fun x member => foreign x (List.mem_append_left _ member)).other
        (foreign e (by simp))

theorem Missed.wait (missed : c.Missed key lease n m.log) : c.Missed key lease n (c.wait m).log :=
  missed.append (c.foreign m.outside)

/-- Tries for nothing are as if they had not been made. -/
theorem Missed.after_eq (missed : c.Missed key lease n log) :
    c.after log = c.after (c.theirs log) := by
  induction missed with
  | start => rfl
  | other missed foreign ih =>
      rw [after_append, ih, theirs_append, theirs_foreign foreign, after_append]
  | tried missed now busy ih =>
      rw [after_append, theirs_append, theirs_own rfl, List.append_nil, ← ih]
      simp only [replay_cons, replay_nil, Event.apply, tryLock_busy busy]

theorem Missed.key_eq (missed : c.Missed key lease n log) :
    ∀ e ∈ log, e.owner = c.owner → e.key = key := by
  induction missed with
  | start => nofun
  | other missed foreign ih =>
      intro x member own
      obtain old | rfl : x ∈ _ ∨ x = _ := by simpa using member
      · exact ih x old own
      · exact absurd own foreign
  | tried missed now busy ih =>
      intro x member own
      obtain old | rfl : x ∈ _ ∨ x = _ := by simpa using member
      · exact ih x old own
      · rfl

/-- All tries are for nothing, or all but the last. -/
theorem tries_cases (missed : c.Missed key lease tried m.log) (n : Nat) :
    (∃ s log, c.tries key lease n m = (false, ⟨s, log⟩) ∧ c.Missed key lease (tried + n) log) ∨
      ∃ s before more now, c.tries key lease n m =
        (true, ⟨s, before ++ [.attempt key c.owner lease now]⟩) ∧
        more < n ∧ c.Missed key lease (tried + more) before ∧ (c.after before).isFree key now := by
  -- The tries made so far are counted along, as each is made on the log that those before it have
  -- left.
  induction n generalizing m tried with
  | zero => exact .inl ⟨m.outside, m.log, rfl, missed⟩
  | succ n ih =>
      have waited := missed.wait
      rw [tries]
      by_cases free : (c.after (c.wait m).log).isFree key (c.clock (c.wait m).outside)
      · rw [if_pos (tryLock_granted_iff.mpr free)]
        exact .inr ⟨_, _, 0, _, rfl, Nat.succ_pos n, waited, free⟩
      · have once := waited.tried _ free
        rw [if_neg (tryLock_granted_iff.not.mpr free)]
        obtain ⟨s, log, ended, all⟩ | ⟨s, before, more, now, ended, fewer, most, free⟩ :=
          ih (m := (c.wait m).note (.attempt key c.owner lease (c.clock (c.wait m).outside))) once
        · exact .inl ⟨s, log, ended, by rwa [Nat.add_comm n, ← Nat.add_assoc]⟩
        · exact .inr ⟨s, before, more + 1, now, ended, Nat.succ_lt_succ fewer,
            by rwa [Nat.add_comm more, ← Nat.add_assoc], free⟩

/-- Where nobody else does anything and a pause goes by between two tries, a lock is asked for as it
always is. -/
theorem tries_alone (quiet : ∀ s, (c.others s).1 = []) (pause : Nat)
    (paced : ∀ s, c.clock (c.others (c.others s).2).2 = (c.clock (c.others s).2).addNanos pause)
    (key : String) (lease attempts : Nat) (m : Moment σ) :
    let asked := (c.after m.log).acquire key c.owner lease pause attempts
      (c.clock (c.others m.outside).2)
    (c.tries key lease attempts m).1 = asked.1 ∧ c.after (c.tries key lease attempts m).2.log =
      asked.2.1 := by
  induction attempts generalizing m with
  | zero => exact ⟨rfl, rfl⟩
  | succ n ih =>
      have still : (c.wait m).log = m.log := by simp [wait, quiet]
      have instant : c.clock (c.wait m).outside = c.clock (c.others m.outside).2 := rfl
      intro asked
      simp only [tries, still, instant]
      by_cases free : (c.after m.log).isFree key (c.clock (c.others m.outside).2)
      · simp only [asked, if_pos (tryLock_granted_iff.mpr free), acquire_free free]
        simp [Moment.note, still, Event.apply, tryLock_free free]
      · -- A try that fails changes nothing, on either side: what is left to do is to ask once less.
        obtain ⟨sameResult, sameTable⟩ := acquire_busy free c.owner lease pause n
        obtain ⟨result, table⟩ :=
          ih ((c.wait m).note (.attempt key c.owner lease (c.clock (c.others m.outside).2)))
        have unchanged :
            c.after (m.log ++ [.attempt key c.owner lease (c.clock (c.others m.outside).2)]) =
              c.after m.log := by
          simp [Event.apply, tryLock_busy free]
        simp only [asked, if_neg (tryLock_granted_iff.not.mpr free), sameResult, sameTable]
        simp only [Moment.note, wait, quiet, List.append_nil, unchanged, paced] at result table ⊢
        exact ⟨result, table⟩

/-- What the one does at one key is not seen at another. -/
theorem holding?_theirs (own : ∀ e ∈ log, e.owner = c.owner → e.key = key) (ne : other ≠ key) :
    (c.after log).holding? other = (c.after (c.theirs log)).holding? other := by
  refine holding?_replay_filter _ ?_ rfl
  intro e member mine
  rw [own e member (by simpa using mine)]
  exact ne

/-- Nothing is left of one who has been at one key only and has given it up. What somebody else
holds by then stays, at this key too. -/
theorem given_up (own : ∀ e ∈ log, e.owner = c.owner → e.key = key) :
    let table := c.after (log ++ [.giveUp key c.owner])
    (∀ k h, table.holding? k = some h → h.owner ≠ c.owner) ∧
      (∀ k h, (c.after log).holding? k = some h → h.owner ≠ c.owner → table.holding? k = some h) ∧
      ∀ k, k ≠ key → table.holding? k = (c.after (c.theirs log)).holding? k := by
  simp only [after_append, replay_cons, replay_nil, holding?_giveUp]
  refine ⟨?_, ?_, ?_⟩
  · intro k h held
    obtain ⟨old, kept⟩ := Option.filter_eq_some_iff.mp held
    obtain elsewhere | foreign : k ≠ key ∨ h.owner ≠ c.owner := by simpa using kept
    · -- At another key all is the others' doing, and they lock nothing in the name of the one.
      rw [holding?_theirs own elsewhere] at old
      refine unknown_replay (c.unknown k) ?_ old
      intro e member
      simpa using (List.mem_filter.mp member).2
    · exact foreign
  · intro k h held foreign
    simp [held, Option.filter, foreign]
  · intro k elsewhere
    rw [← holding?_theirs own elsewhere]
    cases (c.after log).holding? k <;> simp [Option.filter, elsewhere]

end Contest

end Voucher.Lock.Table
