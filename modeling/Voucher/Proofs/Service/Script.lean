import Voucher.Service.Call

/-! Scripts in sequence, and scripts that ask certain questions only. A relation between states that
every such answer keeps is kept by the whole run. -/
namespace Voucher

namespace Script

variable {Ask : Type} {Answer : Ask → Type} {α β γ σ : Type}

theorem bind_assoc (m : Script Ask Answer α) (f : α → Script Ask Answer β)
    (g : β → Script Ask Answer γ) :
    (m >>= f) >>= g = m >>= fun a => f a >>= g := by
  induction m with
  | done a => rfl
  | ask q k ih =>
      simp only [ask_bind]
      congr
      funext a
      exact ih a

theorem bind_pure (m : Script Ask Answer α) : m >>= pure = m := by
  induction m with
  | done a => rfl
  | ask q k ih =>
      rw [ask_bind]
      congr
      funext a
      exact ih a

@[simp] theorem run_pure (answer : (q : Ask) → σ → Answer q × σ) (a : α) (s : σ) :
    (pure a : Script Ask Answer α).run answer s = (a, s) := rfl

/-- Whatever it is answered, a script asks questions of one kind only. -/
def Asks (P : Ask → Prop) : Script Ask Answer α → Prop
  | done _ => True
  | ask q k => P q ∧ ∀ a, Asks P (k a)

variable {P : Ask → Prop} {m : Script Ask Answer α} {f : α → Script Ask Answer β}

@[simp] theorem asks_pure (a : α) : (pure a : Script Ask Answer α).Asks P := trivial

theorem asks_call {q : Ask} (asked : P q) : (call q : Script Ask Answer (Answer q)).Asks P :=
  ⟨asked, fun _ => trivial⟩

theorem Asks.bind (first : m.Asks P) (rest : ∀ a, (f a).Asks P) : (m >>= f).Asks P := by
  induction m with
  | done a => exact rest a
  | ask q k ih =>
      obtain ⟨asked, after⟩ := first
      exact ⟨asked, fun a => ih a (after a)⟩

theorem Asks.mono {Q : Ask → Prop} (asks : m.Asks P) (weaker : ∀ q, P q → Q q) : m.Asks Q := by
  induction m with
  | done a => trivial
  | ask q k ih =>
      obtain ⟨asked, after⟩ := asks
      exact ⟨weaker q asked, fun a => ih a (after a)⟩

theorem Asks.run {answer : (q : Ask) → σ → Answer q × σ} {R : σ → σ → Prop} (asks : m.Asks P)
    (refl : ∀ s, R s s) (trans : ∀ {s t u}, R s t → R t u → R s u)
    (step : ∀ q s, P q → R s (answer q s).2) (s : σ) : R s (m.run answer s).2 := by
  induction m generalizing s with
  | done a => exact refl s
  | ask q k ih =>
      obtain ⟨asked, after⟩ := asks
      exact trans (step q s asked) (ih _ (after _) _)

/-- The questions of one run, in their order. -/
def asked (answer : (q : Ask) → σ → Answer q × σ) : Script Ask Answer α → σ → List Ask
  | done _, _ => []
  | ask q k, s => q :: asked answer (k (answer q s).1) (answer q s).2

theorem asked_bind (answer : (q : Ask) → σ → Answer q × σ) (m : Script Ask Answer α)
    (f : α → Script Ask Answer β) (s : σ) :
    asked answer (m >>= f) s =
      asked answer m s ++ asked answer (f (run answer m s).1) (run answer m s).2 := by
  induction m generalizing s with
  | done a => rfl
  | ask q k ih => exact congrArg (q :: ·) (ih _ _)

theorem Asks.asked (asks : m.Asks P) (answer : (q : Ask) → σ → Answer q × σ) (s : σ) :
    ∀ q ∈ m.asked answer s, P q := by
  induction m generalizing s with
  | done a => simp [Script.asked]
  | ask q k ih =>
      obtain ⟨first, after⟩ := asks
      intro x member
      obtain rfl | later := List.mem_cons.mp member
      · exact first
      · exact ih _ (after _) _ x later

/-- The questions of one run in their order, each with its answer. -/
def transcript (answer : (q : Ask) → σ → Answer q × σ) :
    Script Ask Answer α → σ → List ((q : Ask) × Answer q)
  | done _, _ => []
  | ask q k, s => ⟨q, (answer q s).1⟩ :: transcript answer (k (answer q s).1) (answer q s).2

@[simp] theorem transcript_pure (answer : (q : Ask) → σ → Answer q × σ) (a : α) (s : σ) :
    (pure a : Script Ask Answer α).transcript answer s = [] := rfl

theorem transcript_bind (answer : (q : Ask) → σ → Answer q × σ) (m : Script Ask Answer α)
    (f : α → Script Ask Answer β) (s : σ) :
    transcript answer (m >>= f) s =
      transcript answer m s ++ transcript answer (f (run answer m s).1) (run answer m s).2 := by
  induction m generalizing s with
  | done a => rfl
  | ask q k ih => exact congrArg (_ :: ·) (ih _ _)

theorem map_transcript (answer : (q : Ask) → σ → Answer q × σ) (m : Script Ask Answer α) (s : σ) :
    (m.transcript answer s).map (·.1) = m.asked answer s := by
  induction m generalizing s with
  | done a => rfl
  | ask q k ih => exact congrArg (q :: ·) (ih _ _)

/-- Whatever it is answered, a script ends with results of one kind only. -/
def Yields (Q : α → Prop) : Script Ask Answer α → Prop
  | done a => Q a
  | ask _ k => ∀ a, Yields Q (k a)

variable {Q : α → Prop}

theorem Yields.of_all (all : ∀ a, Q a) (m : Script Ask Answer α) : m.Yields Q := by
  induction m with
  | done a => exact all a
  | ask q k ih => exact ih

theorem Yields.bind {R : β → Prop} (first : m.Yields Q) (rest : ∀ a, Q a → (f a).Yields R) :
    (m >>= f).Yields R := by
  induction m with
  | done a => exact rest a first
  | ask q k ih => exact fun a => ih a (first a)

theorem Yields.run (yields : m.Yields Q) (answer : (q : Ask) → σ → Answer q × σ) (s : σ) :
    Q (m.run answer s).1 := by
  induction m generalizing s with
  | done a => exact yields
  | ask q k ih => exact ih _ (yields _) _

/-- Whatever it is answered, what a script has been told by its end and its
result belong together. -/
def Ends (P : List ((q : Ask) × Answer q) → α → Prop) : Script Ask Answer α → Prop
  | done a => P [] a
  | ask q k => ∀ answer, Ends (fun told a => P (⟨q, answer⟩ :: told) a) (k answer)

variable {P : List ((q : Ask) × Answer q) → α → Prop} {R : List ((q : Ask) × Answer q) → β → Prop}

@[simp] theorem ends_pure (a : α) : (pure a : Script Ask Answer α).Ends P ↔ P [] a := .rfl

theorem Ends.mono {P' : List ((q : Ask) × Answer q) → α → Prop} (ends : m.Ends P)
    (weaker : ∀ told a, P told a → P' told a) : m.Ends P' := by
  induction m generalizing P P' with
  | done a => exact weaker [] a ends
  | ask q k ih =>
      exact fun answer => ih answer (ends answer) fun told => weaker (⟨q, answer⟩ :: told)

theorem Ends.bind (first : m.Ends P)
    (rest : ∀ told a, P told a → (f a).Ends fun more => R (told ++ more)) :
    (m >>= f).Ends R := by
  induction m generalizing P R with
  | done a => exact rest [] a first
  | ask q k ih =>
      exact fun answer => ih answer (first answer) fun told => rest (⟨q, answer⟩ :: told)

theorem Ends.run (ends : m.Ends P) (answer : (q : Ask) → σ → Answer q × σ) (s : σ) :
    P (m.transcript answer s) (m.run answer s).1 := by
  induction m generalizing P s with
  | done a => exact ends
  | ask q k ih => exact ih _ (ends _) _

end Script

namespace Service.Action

variable {α β γ : Type}

@[simp] theorem ok_andThen (a : α) (f : α → Action (Result β)) :
    andThen (pure (.ok a)) f = f a := rfl

theorem bind_andThen (m : Action α) (f : α → Action (Result β)) (g : β → Action (Result γ)) :
    (m >>= f).andThen g = m >>= fun a => (f a).andThen g := Script.bind_assoc ..

theorem andThen_assoc (m : Action (Result α)) (f : α → Action (Result β))
    (g : β → Action (Result γ)) :
    (m.andThen f).andThen g = m.andThen fun a => (f a).andThen g := by
  unfold andThen
  rw [Script.bind_assoc]
  congr
  funext r
  cases r <;> rfl

theorem andThen_pure (m : Action (Result α)) : (m.andThen fun a => pure (.ok a)) = m := by
  have same : (m.andThen fun a => pure (.ok a)) = m >>= pure := by
    unfold andThen
    congr
    funext r
    cases r <;> rfl
  rw [same, Script.bind_pure]

theorem run_andThen {σ : Type} {answer : (q : Call) → σ → q.Answer × σ} {s t : σ}
    {m : Action (Result α)} (first : m.run answer s = (.ok a, t)) (f : α → Action (Result β)) :
    (m.andThen f).run answer s = (f a).run answer t := by
  rw [andThen, Script.run_bind, first]

theorem asks_andThen {P : Call → Prop} {m : Action (Result α)} {f : α → Action (Result β)}
    (first : m.Asks P) (rest : ∀ a, (f a).Asks P) : (m.andThen f).Asks P := by
  refine first.bind ?_
  intro r
  cases r with
  | ok a => exact rest a
  | error e => trivial

end Service.Action

end Voucher
