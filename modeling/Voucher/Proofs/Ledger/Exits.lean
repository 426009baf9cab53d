import Voucher.Proofs.Ledger.Interleaving
import Voucher.Proofs.Lock.Contest

/-! The ways in which a redemption can end where locks are kept in the process. Storage may
answer anything and fail at any call, and others take locks and give them up all the while; a
redemption writes once at most, ends with an error only where storage has failed, and leaves no
lock of its own behind. -/
namespace Voucher.Ledger

open Service Lock.Table
open Interleaving (Answered isStorage redeemLocked_storage written?)

/-- The failure that storage answers with. -/
def failure? : Answered → Option ServiceError
  | ⟨.fetchEntry .., .error e⟩ => some e
  | ⟨.insertEntry _, .error e⟩ => some e
  | ⟨.incrementEntry .., .error e⟩ => some e
  | _ => none

/-- What storage is asked and answers under the lock, and how that ends. -/
inductive Exit (limit : Int32) (d : Draft) : List Answered → Result Redemption → Prop where
  | unread (e : ServiceError) :
      Exit limit d [⟨.fetchEntry d.ruleId d.codeHash, .error e⟩] (.error e)
  | full (shown : Entry) (full : limit ≤ shown.count) :
      Exit limit d [⟨.fetchEntry d.ruleId d.codeHash, .ok (some shown)⟩]
        (.ok (.exhausted (some shown.redeemedAt)))
  | unraised (shown : Entry) (below : ¬ limit ≤ shown.count) (e : ServiceError) :
      Exit limit d [⟨.fetchEntry d.ruleId d.codeHash, .ok (some shown)⟩,
        ⟨.incrementEntry shown.id limit, .error e⟩] (.error e)
  | refused (shown : Entry) (below : ¬ limit ≤ shown.count) :
      Exit limit d [⟨.fetchEntry d.ruleId d.codeHash, .ok (some shown)⟩,
        ⟨.incrementEntry shown.id limit, .ok none⟩] (.ok (.exhausted (some shown.redeemedAt)))
  | raised (shown : Entry) (below : ¬ limit ≤ shown.count) (raised : Entry) :
      Exit limit d [⟨.fetchEntry d.ruleId d.codeHash, .ok (some shown)⟩,
        ⟨.incrementEntry shown.id limit, .ok (some raised)⟩] (.ok (.redeemed raised))
  | unmade (e : ServiceError) :
      Exit limit d [⟨.fetchEntry d.ruleId d.codeHash, .ok none⟩, ⟨.insertEntry d, .error e⟩]
        (.error e)
  | made (made : Entry) :
      Exit limit d [⟨.fetchEntry d.ruleId d.codeHash, .ok none⟩, ⟨.insertEntry d, .ok (some made)⟩]
        (.ok (.redeemed made))
  | unreread (e : ServiceError) :
      Exit limit d [⟨.fetchEntry d.ruleId d.codeHash, .ok none⟩, ⟨.insertEntry d, .ok none⟩,
        ⟨.fetchEntry d.ruleId d.codeHash, .error e⟩] (.error e)
  | overtaken (shown : Option Entry) :
      Exit limit d [⟨.fetchEntry d.ruleId d.codeHash, .ok none⟩, ⟨.insertEntry d, .ok none⟩,
        ⟨.fetchEntry d.ruleId d.codeHash, .ok shown⟩] (.ok (.exhausted (shown.map (·.redeemedAt))))

section Exit

variable {σ : Type} {answer : (q : Call) → σ → q.Answer × σ} {limit : Int32} {d : Draft}
  {rule : Rule} {asked : List Answered} {result : Result Redemption} {e : ServiceError} {s t : σ}

theorem redeemAgain_ends (rule : Rule) (d : Draft) (shown : Entry) :
    (redeemAgain rule shown).Ends fun told => Exit rule.redemptionLimit d
      (⟨.fetchEntry d.ruleId d.codeHash, .ok (some shown)⟩ :: told) := by
  unfold redeemAgain
  split
  · rename_i full
    exact Exit.full shown full
  · rename_i below
    rintro (e | none | raised)
    · exact .unraised shown below e
    · exact .refused shown below
    · exact .raised shown below raised

theorem redeemLocked_ends (rule : Rule) (d : Draft) :
    (redeemLocked rule d).Ends (Exit rule.redemptionLimit d) := by
  rintro (e | none | shown)
  · exact .unread e
  · rintro (e | none | made)
    · exact .unmade e
    · rintro (e | shown)
      · exact .unreread e
      · exact .overtaken shown
    · exact .made made
  · exact redeemAgain_ends rule d shown

theorem redeemLocked_exit (answer : (q : Call) → σ → q.Answer × σ) (rule : Rule) (d : Draft)
    (s : σ) :
    Exit rule.redemptionLimit d ((redeemLocked rule d).transcript answer s)
      ((redeemLocked rule d).run answer s).1 :=
  (redeemLocked_ends rule d).run answer s

/-- What every way out has in common. -/
structure Orderly (asked : List Answered) (result : Result Redemption) : Prop where
  /-- Storage is asked to write once at most. -/
  once : (asked.filter (·.1.writes)).length ≤ 1
  /-- An error is one that storage has answered with, and storage answers with no other. -/
  failed : ∀ e, result = .error e ↔ ∃ x ∈ asked, failure? x = some e
  /-- What is redeemed is the entry that storage has written. -/
  redeemed : ∀ e, result = .ok (.redeemed e) ↔ ∃ x ∈ asked, written? x = some e
  unlocked : result ≠ .ok .locked

theorem Exit.orderly (exit : Exit limit d asked result) : Orderly asked result := by
  cases exit <;> constructor <;> simp [failure?, written?, Call.writes, eq_comm]

/-- A redemption that does not get the lock asks storage nothing. -/
theorem redeem_denied (policy : Policy) (normalized : String) (c : Context)
    (denied : answer (.acquire (lockKey rule normalized) policy.lease) s = (.error e, t)) :
    (redeem policy rule normalized c).run answer s =
        (.ok .locked, (answer (.count .lockFailure) t).2) ∧
      ((redeem policy rule normalized c).transcript answer s).filter (isStorage ·.1) = [] := by
  simp only [redeem, Action.acquire, Script.call, Script.ask_bind, Script.done_bind, Script.run,
    Script.transcript, denied]
  exact ⟨rfl, rfl⟩

/-- A redemption that gets the lock does under it what there is to do, and then gives it up. -/
theorem redeem_granted (policy : Policy) (normalized : String) (c : Context) {held : Lock.Guard}
    (granted : answer (.acquire (lockKey rule normalized) policy.lease) s = (.ok held, t)) :
    let locked := redeemLocked rule (draft policy rule normalized c)
    (redeem policy rule normalized c).run answer s =
        ((locked.run answer t).1, (answer (.release held) (locked.run answer t).2).2) ∧
      ((redeem policy rule normalized c).transcript answer s).filter (isStorage ·.1) =
        locked.transcript answer t := by
  intro locked
  have storage : ∀ x ∈ locked.transcript answer t, isStorage x.1 = true := by
    intro x member
    refine (redeemLocked_storage rule (draft policy rule normalized c)).asked answer t x.1 ?_
    rw [← Script.map_transcript]
    exact List.mem_map_of_mem member
  simp only [redeem, Action.acquire, Action.release, Script.call, Script.ask_bind, Script.done_bind,
    Script.run, Script.transcript, granted, Script.run_bind, Script.transcript_bind]
  refine ⟨rfl, ?_⟩
  rw [List.filter_cons_of_neg (by simp [isStorage]), List.filter_append,
    List.filter_eq_self.mpr storage]
  exact List.append_nil _

end Exit

section Perform

variable {d : Deployment} {cache : Cache.Memory} {locks : Lock.Table}

/-- Storage, struck by an outage or not, has no part in cache and locks. -/
theorem answer_backing {q : Call} (storage : isStorage q = true) (d : Deployment) :
    (d.answer q).2.backing = d.backing := by
  cases q with
  | fetchEntry | insertEntry | incrementEntry =>
      unfold Deployment.answer
      split
      · rename_i outage struck
        cases outage <;> rfl
      · rfl
  | _ => simp [isStorage] at storage

theorem perform_backing {m : Action α} (asks : m.Asks (isStorage · = true)) (d : Deployment) :
    (d.perform m).2.backing = d.backing :=
  asks.run (R := fun d e : Deployment => e.backing = d.backing) (fun _ => rfl)
    (fun first second => second.trans first) (fun _ d storage => answer_backing storage d) d

/-- Whatever outages there are, a redemption by itself leaves the locks as they are or goes by one
of the ways out and leaves its key free. -/
theorem perform_redeem_exits (process : d.backing = .process cache locks) (policy : Policy)
    (rule : Rule) (normalized : String) (c : Context) :
    let ran := d.perform (redeem policy rule normalized c)
    let asked := ((redeem policy rule normalized c).transcript Deployment.answer d).filter
      (isStorage ·.1)
    ran.1 = .ok .locked ∧ asked = [] ∧ ran.2.backing = .process cache locks ∨
      Orderly asked ran.1 ∧ ran.2.backing =
        .process cache (locks.without (lockKey rule normalized)) := by
  intro ran asked
  obtain ⟨last, denied⟩ | ⟨h, last, granted⟩ :=
    d.acquire_cases process (lockKey rule normalized) policy.lease
  · have denied : Deployment.answer (.acquire (lockKey rule normalized) policy.lease) d = _ :=
      denied
    obtain ⟨ends, unasked⟩ := redeem_denied policy normalized c denied
    have counted : ran = _ := ends
    rw [counted]
    exact .inl ⟨rfl, unasked, rfl⟩
  · have granted : Deployment.answer (.acquire (lockKey rule normalized) policy.lease) d = _ :=
      granted
    obtain ⟨ends, requests⟩ := redeem_granted policy normalized c granted
    have released : ran = _ := ends
    have held := perform_backing (redeemLocked_storage rule (draft policy rule normalized c))
      (d.tried cache (locks.put (lockKey rule normalized) h) last)
    rw [released]
    refine .inr ⟨?_, congrArg (fun r => r.2.backing) (Deployment.release_held cache locks h held)⟩
    simp only [asked, requests]
    exact (redeemLocked_exit Deployment.answer rule _ _).orderly

end Perform

/-- What stands around a redemption: locks within the process, that others take and give up as well,
and a storage that answers as it pleases. -/
structure Surroundings (σ : Type) extends Contest σ where
  config : Lock.Config
  reply : (q : Call) → σ → q.Answer × σ

namespace Surroundings

variable {σ : Type} (w : Surroundings σ)

/-- A lock is asked for as often as it is configured, and what is given up is given up in the table.
Before everything that is done the others have their turn. -/
def answer : (q : Call) → Moment σ → q.Answer × Moment σ
  | .acquire key lease, m =>
    let (granted, m) := w.tries key (lease.toNat * Lock.millisecond) w.config.attempts m
    (if granted then .ok ⟨key, w.owner, .process⟩ else .error (.lock key), m)
  | .release g, m => (.ok (), (w.wait m).note (.giveUp g.key g.owner))
  | q, m =>
    let m := w.wait m
    ((w.reply q m.outside).1, { m with outside := (w.reply q m.outside).2 })

variable {w}

/-- To ask storage is to let the others have their turn. -/
theorem answer_storage {q : Call} (storage : isStorage q = true) (m : Moment σ) :
    ∃ events, (w.answer q m).2.log = m.log ++ events ∧ ∀ e ∈ events, e.owner ≠ w.owner := by
  cases q with
  | fetchEntry | insertEntry | incrementEntry => exact ⟨_, rfl, w.foreign m.outside⟩
  | _ => simp [isStorage] at storage

/-- Who asks nothing but storage does nothing to the locks. -/
theorem run_storage {m : Action α} (asks : m.Asks (isStorage · = true)) (s : Moment σ) :
    ∃ events, (m.run w.answer s).2.log = s.log ++ events ∧ ∀ e ∈ events, e.owner ≠ w.owner := by
  refine asks.run
    (R := fun s t : Moment σ => ∃ events, t.log = s.log ++ events ∧ ∀ e ∈ events, e.owner ≠ w.owner)
    (fun s => ⟨[], by simp, nofun⟩) ?_ (fun q s storage => answer_storage storage s) s
  rintro s t u ⟨first, reached, foreign⟩ ⟨second, ended, others⟩
  refine ⟨first ++ second, by rw [ended, reached, List.append_assoc], ?_⟩
  simp only [List.mem_append]
  rintro e (member | member)
  · exact foreign e member
  · exact others e member

theorem answer_release (g : Lock.Guard) (m : Moment σ) :
    ∃ events, (w.answer (.release g) m).2.log = m.log ++ events ++ [.giveUp g.key g.owner] ∧
      ∀ e ∈ events, e.owner ≠ w.owner := ⟨_, rfl, w.foreign m.outside⟩

/-- The redemption has not had the lock: all its tries were for nothing, storage was not asked, and
the table is as the others alone would have made it. -/
structure TurnedAway (w : Surroundings σ) (key : String) (lease : Nat) (log : List Event)
    (asked : List Answered) (result : Result Redemption) : Prop where
  tries : w.Missed key lease w.config.attempts log
  result : result = .ok .locked
  unasked : asked = []
  table : w.after log = w.after (w.theirs log)

/-- The redemption has had the lock by one of its tries and has given it up at last. -/
structure LetIn (w : Surroundings σ) (key : String) (lease : Nat) (log : List Event)
    (asked : List Answered) (result : Result Redemption) : Prop where
  granted : ∃ before spent now meanwhile,
    log = before ++ .attempt key w.owner lease now :: (meanwhile ++ [.giveUp key w.owner]) ∧
    w.Missed key lease spent before ∧ spent < w.config.attempts ∧ (w.after before).isFree key now ∧
    ∀ e ∈ meanwhile, e.owner ≠ w.owner
  orderly : Orderly asked result
  /-- Nothing of the redemption is left in the table. -/
  gone : ∀ k h, (w.after log).holding? k = some h → h.owner ≠ w.owner
  /-- What others hold by the time that it gives its lock up they hold on to. -/
  kept : ∀ k h, (w.after log.dropLast).holding? k = some h → h.owner ≠ w.owner →
    (w.after log).holding? k = some h
  /-- At other keys all is as if there had been no redemption. -/
  others : ∀ k, k ≠ key → (w.after log).holding? k = (w.after (w.theirs log)).holding? k

/-- Once the lock was granted nothing has happened at its key but by others, up
to when it is given up. -/
theorem letIn_of_granted (missed : w.Missed key lease spent before)
    (fewer : spent < w.config.attempts)
    (free : (w.after before).isFree key now) (foreign : ∀ e ∈ meanwhile, e.owner ≠ w.owner)
    (orderly : Orderly asked result) :
    w.LetIn key lease
      (before ++ .attempt key w.owner lease now :: (meanwhile ++ [.giveUp key w.owner])) asked
      result := by
  have own : ∀ e ∈ before ++ .attempt key w.owner lease now :: meanwhile, e.owner = w.owner →
      e.key = key := by
    intro e member mine
    obtain old | rfl | late : e ∈ before ∨ e = .attempt key w.owner lease now ∨ e ∈ meanwhile := by
      simpa using member
    · exact missed.key_eq e old mine
    · rfl
    · exact absurd mine (foreign e late)
  obtain ⟨gone, kept, others⟩ := Contest.given_up own
  have split : before ++ .attempt key w.owner lease now :: (meanwhile ++ [.giveUp key w.owner]) =
      (before ++ .attempt key w.owner lease now :: meanwhile) ++ [.giveUp key w.owner] := by simp
  refine ⟨⟨before, spent, now, meanwhile, rfl, missed, fewer, free, foreign⟩, orderly, ?_, ?_, ?_⟩
  · rwa [split]
  · rwa [split, List.dropLast_concat]
  · rw [split]
    intro k elsewhere
    rw [others k elsewhere, Contest.theirs_append _ [_],
      Contest.theirs_own (e := .giveUp key w.owner) rfl, List.append_nil]

/-- Whatever storage answers and others do, a redemption is turned away without a trace, or it has
the lock and goes by one of the ways out. -/
theorem redeem_exits (w : Surroundings σ) (policy : Policy) (rule : Rule) (normalized : String)
    (c : Context) (s : σ) :
    let key := lockKey rule normalized
    let lease := policy.lease.toNat * Lock.millisecond
    let ran := (redeem policy rule normalized c).run w.answer ⟨s, []⟩
    let asked := ((redeem policy rule normalized c).transcript w.answer ⟨s, []⟩).filter
      (isStorage ·.1)
    w.TurnedAway key lease ran.2.log asked ran.1 ∨ w.LetIn key lease ran.2.log asked ran.1 := by
  intro key lease ran asked
  have begun : w.Missed key lease 0 (Moment.mk s []).log := .start
  obtain ⟨t, log, ended, missed⟩ | ⟨t, before, more, now, ended, fewer, missed, free⟩ :=
    Contest.tries_cases begun w.config.attempts
  · -- No try was granted, so nothing is done but to count the failure.
    have denied : w.answer (.acquire key policy.lease) ⟨s, []⟩ =
        (.error (.lock key), ⟨t, log⟩) := by
      simp only [answer, lease] at ended ⊢
      rw [ended]
      rfl
    obtain ⟨ends, unasked⟩ := redeem_denied policy normalized c denied
    have all := missed.append (w.foreign t)
    rw [Nat.zero_add] at all
    have logged : ran.2.log = log ++ (w.others t).1 := by
      simp only [ran, ends]
      rfl
    refine .inl ⟨logged ▸ all, ?_, unasked, logged ▸ all.after_eq⟩
    simp only [ran, ends]
  · -- The last try was granted; from then on the log grows by what others do, until the lock is
    -- given up.
    have granted : w.answer (.acquire key policy.lease) ⟨s, []⟩ =
        (.ok ⟨key, w.owner, .process⟩, ⟨t, before ++ [.attempt key w.owner lease now]⟩) := by
      simp only [answer, lease] at ended ⊢
      rw [ended]
      rfl
    obtain ⟨ends, requests⟩ := redeem_granted policy normalized c granted
    obtain ⟨during, logged, foreign⟩ := run_storage (w := w)
      (redeemLocked_storage rule (draft policy rule normalized c))
      ⟨t, before ++ [.attempt key w.owner lease now]⟩
    rw [Nat.zero_add] at missed
    obtain ⟨last, released, others⟩ := answer_release (w := w) ⟨key, w.owner, .process⟩
      ((redeemLocked rule (draft policy rule normalized c)).run w.answer
        ⟨t, before ++ [.attempt key w.owner lease now]⟩).2
    have all : ran.2.log =
        before ++ .attempt key w.owner lease now ::
          ((during ++ last) ++ [.giveUp key w.owner]) := by
      simp only [ran, ends, released, logged, List.append_assoc, List.cons_append, List.nil_append]
    have ours : ∀ e ∈ during ++ last, e.owner ≠ w.owner := by
      intro e member
      obtain inside | late := List.mem_append.mp member
      · exact foreign e inside
      · exact others e late
    right
    rw [all]
    refine letIn_of_granted missed fewer free ours ?_
    simp only [ran, asked, ends, requests]
    exact (redeemLocked_exit w.answer rule _ _).orderly

/-- Surroundings in which storage fails, and somebody else takes the key over
when the lease is over. -/
def overtaken (key : String) : Surroundings Nat where
  owner := "a"
  held := .empty
  others turn := (if turn = 1 then [.attempt key "b" 1 .epoch] else [], turn + 1)
  clock _ := .epoch
  foreign turn := by split <;> simp [Event.owner]
  unknown := nofun
  config := .standard
  reply q turn :=
    let struck :=
      { Deployment.inMemory .standard .epoch 0 with outages := [(.fetchEntry, .fails .database)] }
    ((struck.answer q).1, turn)

/-- The redemption ends with the error, and who took its key over has it still. -/
theorem redeem_exits_overtaken :
    let key := lockKey Rule.sample "A"
    let ran := (redeem default Rule.sample "A" default).run (overtaken key).answer ⟨0, []⟩
    ran.1 = .error .database ∧
      ((overtaken key).after ran.2.log).holding? key = some ⟨"b", Instant.epoch.addNanos 1⟩ := by
  intro key ran
  have failed : ran.1 = .error .database := rfl
  refine ⟨failed, ?_⟩
  obtain turned | letIn := redeem_exits (overtaken key) default Rule.sample "A" default 0
  · have denied : ran.1 = .ok .locked := turned.result
    rw [failed] at denied
    contradiction
  · have before : ran.2.log.dropLast = [.attempt key "a" 0 .epoch] ++ [.attempt key "b" 1 .epoch] :=
      rfl
    have own : ((overtaken key).after [.attempt key "a" 0 .epoch]).holding? key =
        some ⟨"a", .epoch⟩ :=
      holding?_put_self .empty key _
    have lapsed : ((overtaken key).after [.attempt key "a" 0 .epoch]).isFree key .epoch := by
      rw [isFree_iff, own]
      rintro h held
      cases held
      exact Instant.le_refl _
    refine letIn.kept key _ ?_ (by decide)
    refine (congrArg (fun log => ((overtaken key).after log).holding? key) before).trans ?_
    rw [Contest.after_append, replay_cons, replay_nil, Event.apply, tryLock_free lapsed]
    exact holding?_put_self _ _ _

end Surroundings

end Voucher.Ledger
