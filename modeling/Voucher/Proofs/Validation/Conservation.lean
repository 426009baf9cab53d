import Mathlib.Logic.Relation
import Voucher.Proofs.Validation.Account

/-! Validations side by side. Their questions come in any order and get any answers at all, so
cache, locks and storage may be in whatever state and fail at any time. The counters then tell how
the validations have ended. -/
namespace Voucher.Validation

open Service Telemetry
open Ledger.Interleaving (Answered)

/-- The labels of a result in the counter of validations. -/
def labels (mode : Mode) (result : Result Outcome) : List (String × String) :=
  [("error_code", codeLabel result), ("mode", mode.name), ("status", statusLabel result)]

def validationsCounter (labels : List (String × String)) : Counter :=
  ⟨"codeguard_validations_total", labels⟩

def lookupsCounter (result : String) : Counter :=
  ⟨"codeguard_project_cache_requests_total", [("result", result)]⟩

def lockFailures : Counter := ⟨"codeguard_lock_acquire_failures_total", []⟩

namespace Accounted

variable {request : Request} {told : List Answered} {result : Result Outcome}

theorem validations (accounted : Accounted request told result) (own : List (String × String)) :
    total (counted told) (validationsCounter own) =
      if labels request.mode result == own then 1 else 0 := by
  obtain ⟨_, _, records⟩ | ⟨_, _, records⟩ := accounted <;>
    rw [records.counted, event_eq] <;>
    simp [total, Event.counters, validationsCounter, labels, List.count_cons]

theorem validated (accounted : Accounted request told result) :
    raises (·.name == "codeguard_validations_total") (counted told) = 1 := by
  obtain ⟨_, _, records⟩ | ⟨_, _, records⟩ := accounted <;> rw [records.counted, event_eq] <;> rfl

theorem lookups (accounted : Accounted request told result) :
    raises (·.name == "codeguard_project_cache_requests_total") (counted told) = 1 := by
  obtain ⟨_, _, records⟩ | ⟨_, _, records⟩ := accounted <;> rw [records.counted, event_eq] <;> rfl

theorem fetched (accounted : Accounted request told result) :
    total (counted told) (lookupsCounter "miss") + total (counted told) (lookupsCounter "error") =
      Telemetry.fetched told := by
  obtain ⟨looked, _, records⟩ | ⟨looked, _, records⟩ := accounted <;>
    rw [records.counted, records.fetched, event_eq] <;>
    cases looked <;> rfl

theorem lockFailures (accounted : Accounted request told result) :
    total (counted told) lockFailures = denied told := by
  obtain ⟨_, _, records⟩ | ⟨_, _, records⟩ := accounted <;>
    rw [records.counted, records.denied, event_eq] <;>
    rfl

theorem denied (accounted : Accounted request told result) :
    Telemetry.denied told = (if told.any isDenial then 1 else 0) ∧
      (told.any isDenial ↔ IsLockedOut result) := by
  have counts : told.any isDenial ↔ 0 < Telemetry.denied told := by
    rw [List.any_eq_true, Telemetry.denied, List.length_filter_pos_iff]
  obtain ⟨_, out, records⟩ | ⟨_, free, records⟩ := accounted
  · have refused : told.any isDenial := counts.mpr (records.denied ▸ Nat.one_pos)
    exact ⟨by rw [records.denied, if_pos refused], iff_of_true refused out⟩
  · have unrefused : ¬ told.any isDenial :=
      fun any => absurd (counts.mp any) (records.denied ▸ Nat.lt_irrefl 0)
    exact ⟨by rw [records.denied, if_neg unrefused], iff_of_false unrefused free⟩

end Accounted

namespace Concurrent

/-- A validation under way: its request, what it has still to do, and what it was told. -/
structure Caller where
  request : Request
  rest : Action (Result Outcome)
  told : List Answered

namespace Caller

/-- A validation at its start. -/
def begun (policy : Policy) (request : Request) : Caller := ⟨request, run policy request, []⟩

def result? (c : Caller) : Option (Result Outcome) :=
  match c.rest with
  | .done result => some result
  | .ask .. => none

def labels? (c : Caller) : Option (List (String × String)) := c.result?.map (labels c.request.mode)

/-- A lock was denied to it. -/
def isDenied (c : Caller) : Bool := c.told.any isDenial

theorem result?_eq_some {c : Caller} {result : Result Outcome} :
    c.result? = some result ↔ c.rest = .done result := by
  unfold result?
  split <;> rename_i rest <;> simp [rest]

end Caller

structure State where
  /-- What was counted, the latest first. -/
  events : List Event
  /-- How often a project was loaded. -/
  fetches : Nat
  callers : List Caller

/-- Any one of the validations asks its next question, and gets an answer. -/
inductive Step : State → State → Prop where
  | answer (events : List Event) (fetches : Nat) (before after : List Caller) (request : Request)
      (told : List Answered) (answer : q.Answer) :
      Step ⟨events, fetches, before ++ ⟨request, .ask q k, told⟩ :: after⟩
        ⟨q.event?.toList ++ events, fetches + (if q.isFetch then 1 else 0),
          before ++ ⟨request, k answer, told ++ [⟨q, answer⟩]⟩ :: after⟩

/-- Validations of all requests at their start. -/
def start (policy : Policy) (requests : List Request) (events : List Event) (fetches : Nat) :
    State :=
  ⟨events, fetches, requests.map (Caller.begun policy)⟩

/-- What holds whenever validations are under way. -/
structure Invariant (requests : List Request) (events : List Event) (fetches : Nat) (s : State) :
    Prop where
  requests : s.callers.map (·.request) = requests
  accounted : ∀ c ∈ s.callers, c.rest.Ends fun more => Accounted c.request (c.told ++ more)
  raised : ∀ kind, raises kind s.events =
    raises kind events + (s.callers.map fun c => raises kind (counted c.told)).sum
  loaded : s.fetches = fetches + (s.callers.map fun c => fetched c.told).sum

variable {policy : Policy} {requests : List Request} {events : List Event} {fetches : Nat}
  {s t : State}

theorem start_invariant (policy : Policy) (requests : List Request) (events : List Event)
    (fetches : Nat) :
    Invariant requests events fetches (start policy requests events fetches) := by
  refine ⟨by simp [start, Caller.begun, Function.comp_def], ?_, fun kind => ?_, ?_⟩
  · intro c member
    obtain ⟨request, -, rfl⟩ := List.mem_map.mp member
    exact run_accounts policy request
  · simp [start, Caller.begun, counted, raises, Function.comp_def]
  · simp [start, Caller.begun, fetched, Function.comp_def]

theorem Invariant.step (inv : Invariant requests events fetches s) (step : Step s t) :
    Invariant requests events fetches t := by
  obtain ⟨same, accounted, raised, loaded⟩ := inv
  cases step with
  | answer events fetches before after request told answer =>
      refine ⟨?_, ?_, fun kind => ?_, ?_⟩
      · simpa using same
      -- The question goes over from what is still to be done to what was told; together they stay
      -- the same.
      · rw [List.forall_mem_append, List.forall_mem_cons] at accounted ⊢
        obtain ⟨earlier, own, later⟩ := accounted
        exact ⟨earlier, (own answer).mono fun _ _ ends => by rwa [List.append_assoc], later⟩
      · have old := raised kind
        simp only [List.map_append, List.map_cons, List.sum_append, List.sum_cons, raises_append,
          counted_append, counted_singleton] at old ⊢
        omega
      · simp only [List.map_append, List.map_cons, List.sum_append, List.sum_cons, fetched_append,
          fetched_singleton] at loaded ⊢
        omega

theorem Invariant.run (inv : Invariant requests events fetches s)
    (steps : Relation.ReflTransGen Step s t) :
    Invariant requests events fetches t := by
  induction steps with
  | refl => exact inv
  | tail _ step ih => exact ih.step step

/-- What the counters have gained once all validations have ended. -/
structure Conserved (events : List Event) (fetches : Nat) (s : State) : Prop where
  /-- Each is counted under the labels of its own result and mode. -/
  validations : ∀ own, total s.events (validationsCounter own) =
    total events (validationsCounter own) + s.callers.countP (·.labels? == some own)
  /-- Each is counted once, under whatever labels. -/
  validated : raises (·.name == "codeguard_validations_total") s.events =
    raises (·.name == "codeguard_validations_total") events + s.callers.length
  lookups : raises (·.name == "codeguard_project_cache_requests_total") s.events =
    raises (·.name == "codeguard_project_cache_requests_total") events + s.callers.length
  /-- Each lookup that is no hit stands for a project that was loaded. -/
  loaded :
    total s.events (lookupsCounter "miss") + total s.events (lookupsCounter "error") + fetches =
      total events (lookupsCounter "miss") + total events (lookupsCounter "error") + s.fetches
  lockFailures : total s.events Validation.lockFailures =
    total events Validation.lockFailures + s.callers.countP (·.isDenied)
  denied : ∀ c ∈ s.callers, c.isDenied = true ↔ c.result? = some (.ok (.rejected lockedOut))

/-- A validation that has ended, with its account. -/
def Caller.Ended (c : Caller) : Prop :=
  ∃ result, c.result? = some result ∧ Accounted c.request c.told result

theorem Invariant.ended (inv : Invariant requests events fetches s)
    (ended : ∀ c ∈ s.callers, c.result?.isSome) :
    ∀ c ∈ s.callers, c.Ended := by
  intro c member
  obtain ⟨result, found⟩ := Option.isSome_iff_exists.mp (ended c member)
  have accounted := inv.accounted c member
  rw [Caller.result?_eq_some.mp found, Script.Ends, List.append_nil] at accounted
  exact ⟨result, found, accounted⟩

/-- What each validation raises adds up. -/
theorem Invariant.gained (inv : Invariant requests events fetches s) {kind : Counter → Bool}
    {n : Caller → Nat} (each : ∀ c ∈ s.callers, raises kind (counted c.told) = n c) :
    raises kind s.events = raises kind events + (s.callers.map n).sum := by
  rw [inv.raised, List.map_congr_left each]

theorem Invariant.once (inv : Invariant requests events fetches s) {kind : Counter → Bool}
    (each : ∀ c ∈ s.callers, raises kind (counted c.told) = 1) :
    raises kind s.events = raises kind events + s.callers.length := by
  rw [inv.gained each]
  simp

theorem Invariant.conserved (inv : Invariant requests events fetches s)
    (ended : ∀ c ∈ s.callers, c.result?.isSome) : Conserved events fetches s := by
  have accounts := inv.ended ended
  constructor
  case validations =>
      intro own
      rw [← sum_ite]
      refine inv.gained fun c member => ?_
      obtain ⟨result, found, accounted⟩ := accounts c member
      rw [← total_eq_raises, accounted.validations, Caller.labels?, found]
      rfl
  case validated => exact inv.once fun c member => (accounts c member).elim fun _ ended =>
    ended.2.validated
  case lookups => exact inv.once fun c member => (accounts c member).elim fun _ ended =>
    ended.2.lookups
  case loaded =>
      have each : (s.callers.map fun c => total (counted c.told) (lookupsCounter "miss") +
          total (counted c.told) (lookupsCounter "error")) =
        s.callers.map fun c => fetched c.told :=
        List.map_congr_left fun c member => (accounts c member).elim fun _ ended => ended.2.fetched
      rw [inv.loaded, ← each, List.sum_map_add, total_eq_raises, total_eq_raises, inv.raised,
        inv.raised]
      simp only [total_eq_raises]
      omega
  case lockFailures =>
      rw [← sum_ite]
      refine inv.gained fun c member => ?_
      obtain ⟨result, -, accounted⟩ := accounts c member
      exact accounted.lockFailures.trans accounted.denied.1
  case denied =>
      intro c member
      obtain ⟨result, found, accounted⟩ := accounts c member
      rw [found, Option.some_inj]
      exact accounted.denied.2

/-- However many validations run side by side, and whatever they are answered: once they have ended,
the counters have gained one validation for each under the labels of its result, one lookup for each
with a load of its project unless it was a hit, and a failed lock for each whose redemption has
ended so. -/
theorem counters_conserved (policy : Policy)
    (steps : Relation.ReflTransGen Step (start policy requests events fetches) s)
    (ended : ∀ c ∈ s.callers, c.result?.isSome) :
    s.callers.map (·.request) = requests ∧ Conserved events fetches s :=
  have inv := (start_invariant policy requests events fetches).run steps
  ⟨inv.requests, inv.conserved ended⟩

/-- A request for which the code is to be redeemed. -/
def redeeming : Request := { trial "79927398713" with dryRun := false }

/-- The cache has failed. A dry run then finds that storage fails too; a live validation, side by
side with it, finds its project but gets no lock. -/
theorem counters_conserved_outages : ∃ s : State,
    Relation.ReflTransGen Step (start default [trial "79927398713", redeeming] [] 0) s ∧
      total s.events (validationsCounter
        [("error_code", "DATABASE_ERROR"), ("mode", "dry_run"), ("status", "error")]) = 1 ∧
      total s.events (validationsCounter
        [("error_code", "ALREADY_REDEEMED"), ("mode", "live"), ("status", "ko")]) = 1 ∧
      total s.events (lookupsCounter "error") = 2 ∧ s.fetches = 2 ∧
      total s.events Validation.lockFailures = 1 ∧
      Conserved [] 0 s := by
  have begun : Relation.ReflTransGen Step (start default [trial "79927398713", redeeming] [] 0) _ :=
    .refl
  have unread := begun.tail (.answer _ _ [] _ _ _ (q := .readCache _) (.error .redis))
  have bothUnread := unread.tail (.answer _ _ [_] _ _ _ (q := .readCache _) (.error .redis))
  have missed := bothUnread.tail (.answer _ _ [_] _ _ _ (q := .count _) ())
  have bothMissed := missed.tail (.answer _ _ [] _ _ _ (q := .count _) ())
  have loaded := bothMissed.tail
    (.answer _ _ [_] _ _ _ (q := .fetchRuleBook _) (.ok (some ⟨.sample, [plainRule]⟩)))
  have unloaded := loaded.tail (.answer _ _ [] _ _ _ (q := .fetchRuleBook _) (.error .database))
  have failed := unloaded.tail (.answer _ _ [] _ _ _ (q := .count _) ())
  have uncached := failed.tail (.answer _ _ [_] _ _ _ (q := .writeCache ..) (.error .redis))
  have timed := uncached.tail (.answer _ _ [_] _ _ _ (q := .now) .epoch)
  have denied := timed.tail (.answer _ _ [_] _ _ _ (q := .acquire ..) (.error .database))
  have noted := denied.tail (.answer _ _ [_] _ _ _ (q := .count _) ())
  have steps := noted.tail (.answer _ _ [_] _ _ _ (q := .count _) ())
  obtain ⟨-, conserved⟩ := counters_conserved default steps
    (List.forall_mem_cons.mpr ⟨rfl, List.forall_mem_singleton.mpr rfl⟩)
  exact ⟨_, steps, rfl, rfl, rfl, rfl, rfl, conserved⟩

/-- A deployment that carries out one of the validations to its end takes such steps. -/
theorem steps_of_perform (d : Deployment) (fetches : Nat) (before after : List Caller)
    (request : Request) (m : Action (Result Outcome)) (told : List Answered) :
    Relation.ReflTransGen Step ⟨d.events, fetches, before ++ ⟨request, m, told⟩ :: after⟩
      ⟨(d.perform m).2.events, fetches + fetched (m.transcript Deployment.answer d),
        before ++ ⟨request, .done (d.perform m).1, told ++ m.transcript Deployment.answer d⟩ ::
          after⟩ := by
  induction m generalizing d fetches told with
  | done result =>
      rw [Script.transcript, List.append_nil]
      exact .refl
  | ask q k ih =>
      have first := Step.answer (k := k) d.events fetches before after request told (d.answer q).1
      have rest := ih (d.answer q).1 (d.answer q).2 (fetches + fetched [⟨q, (d.answer q).1⟩])
        (told ++ [⟨q, (d.answer q).1⟩])
      rw [← (d.answer_counts q).events, ← fetched_singleton ⟨q, (d.answer q).1⟩] at first
      rw [List.append_assoc, Nat.add_assoc, ← fetched_append] at rest
      exact .head first rest

/-- A validation that a deployment has carried out. -/
def Caller.carriedOut (policy : Policy) (request : Request) (d : Deployment) : Caller :=
  ⟨request, .done (d.perform (run policy request)).1,
    (run policy request).transcript Deployment.answer d⟩

/-- Validations of requests on a deployment one after the other, and the deployment after them. -/
def succession (policy : Policy) : List Request → Deployment → List Caller × Deployment
  | [], d => ([], d)
  | request :: rest, d =>
    let (callers, after) := succession policy rest (d.perform (run policy request)).2
    (.carriedOut policy request d :: callers, after)

theorem succession_ended (policy : Policy) (requests : List Request) (d : Deployment) :
    ∀ c ∈ (succession policy requests d).1, c.result?.isSome := by
  induction requests generalizing d with
  | nil => exact List.forall_mem_nil _
  | cons request rest ih => exact List.forall_mem_cons.mpr ⟨rfl, ih _⟩

/-- While storage of projects works, the loads that are counted are those that the store counts. -/
theorem steps_of_succession (policy : Policy) (requests : List Request) (d : Deployment)
    (works : d.outages.lookup .fetchProject = none) (before : List Caller) :
    Relation.ReflTransGen Step ⟨d.events, d.store.projectFetches,
      before ++ requests.map (Caller.begun policy)⟩
      ⟨(succession policy requests d).2.events,
        (succession policy requests d).2.store.projectFetches,
        before ++ (succession policy requests d).1⟩ := by
  induction requests generalizing d before with
  | nil => exact .refl
  | cons request rest ih =>
      have first := steps_of_perform d d.store.projectFetches before
        (rest.map (Caller.begun policy)) request (run policy request) []
      have later :=
        ih (d.perform (run policy request)).2 ((d.perform_sameCatalog _).outages ▸ works)
        (before ++ [.carriedOut policy request d])
      rw [← Deployment.perform_projectFetches works] at first
      rw [List.append_assoc, List.append_assoc] at later
      exact first.trans later

/-- On a deployment it does not matter where cache and locks are, and what is struck except storage
of projects. -/
theorem succession_conserved (policy : Policy) (requests : List Request) (d : Deployment)
    (works : d.outages.lookup .fetchProject = none) :
    Conserved d.events d.store.projectFetches ⟨(succession policy requests d).2.events,
      (succession policy requests d).2.store.projectFetches, (succession policy requests d).1⟩ :=
  have steps := steps_of_succession policy requests d works []
  ((start_invariant policy requests _ _).run steps).conserved (succession_ended policy requests d)

end Concurrent

end Voucher.Validation
