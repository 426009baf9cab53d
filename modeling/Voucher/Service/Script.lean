/-!
Scripts: programs that ask their surroundings and go on with the answers. A script says what a
service does without saying what stands behind it, so one script runs over memory, over remote
backends and over any answers at all.
-/
namespace Voucher

/-- A script over questions `Ask`, each with its type of answers. -/
inductive Script (Ask : Type) (Answer : Ask → Type) (α : Type) where
  | done (a : α)
  | ask (q : Ask) (k : Answer q → Script Ask Answer α)

namespace Script

variable {Ask : Type} {Answer : Ask → Type} {α β : Type}

def bind (s : Script Ask Answer α) (f : α → Script Ask Answer β) : Script Ask Answer β :=
  match s with
  | done a => f a
  | ask q k => ask q fun answer => (k answer).bind f

/-- Asks one question and returns the answer. -/
def call (q : Ask) : Script Ask Answer (Answer q) := ask q done

instance : Monad (Script Ask Answer) where
  pure := done
  bind := bind

@[simp] theorem done_bind (a : α) (f : α → Script Ask Answer β) :
    ((done a : Script Ask Answer α) >>= f) = f a := rfl

@[simp] theorem ask_bind (q : Ask) (k : Answer q → Script Ask Answer α)
    (f : α → Script Ask Answer β) : (ask q k >>= f) = ask q fun answer => k answer >>= f := rfl

/-- Answers every question from a state that the answers may change. -/
def run {σ : Type} (answer : (q : Ask) → σ → Answer q × σ) : Script Ask Answer α → σ → α × σ
  | done a, s => (a, s)
  | ask q k, s => run answer (k (answer q s).1) (answer q s).2

theorem run_bind {σ : Type} (answer : (q : Ask) → σ → Answer q × σ) (m : Script Ask Answer α)
    (f : α → Script Ask Answer β) (s : σ) :
    run answer (m >>= f) s = run answer (f (run answer m s).1) (run answer m s).2 := by
  induction m generalizing s with
  | done a => rfl
  | ask q k ih => exact ih _ _

end Script

end Voucher
