import SolidStudy.Evaluation
import SolidStudy.Study

/-! Jobs: computations that write log lines, stop at checkpoints, and ask an evaluator. A job is a
tree of its steps, so that it can be performed in any monad, or step by step beside other
computations. -/
namespace SolidStudy

inductive Job (α : Type) where
  | done (a : α)
  | log (line : String) (next : Job α)
  /-- A study is shown; the answer says whether the job is to be stopped. -/
  | checkpoint (study : Study) (next : Bool → Job α)
  | ask (invocation : Invocation) (next : Except EvaluatorFault Evaluation → Job α)

namespace Job

variable {α β : Type}

def bind : Job α → (α → Job β) → Job β
  | .done a, f => f a
  | .log line next, f => .log line (next.bind f)
  | .checkpoint study next, f => .checkpoint study fun stop => (next stop).bind f
  | .ask invocation next, f => .ask invocation fun answer => (next answer).bind f

instance : Monad Job where
  pure := .done
  bind := .bind

theorem bind_done (job : Job α) : job.bind .done = job := by
  induction job with
  | done => rfl
  | log line next ih => simp [bind, ih]
  | checkpoint study next ih => simp [bind, ih]
  | ask invocation next ih => simp [bind, ih]

theorem bind_assoc {γ : Type} (job : Job α) (f : α → Job β) (g : β → Job γ) :
    (job.bind f).bind g = job.bind fun a => (f a).bind g := by
  induction job with
  | done => rfl
  | log line next ih => simp [bind, ih]
  | checkpoint study next ih => simp [bind, ih]
  | ask invocation next ih => simp [bind, ih]

instance : LawfulMonad Job := .mk' _ bind_done (fun _ _ => rfl) bind_assoc

/-- What a monad does for the steps of a job. -/
structure Handler (m : Type → Type) where
  log : String → m Unit
  checkpoint : Study → m Bool
  ask : Invocation → m (Except EvaluatorFault Evaluation)

def perform {m : Type → Type} [Monad m] (handler : Handler m) : Job α → m α
  | .done a => pure a
  | .log line next => do
    handler.log line
    next.perform handler
  | .checkpoint study next => do
    let stop ← handler.checkpoint study
    (next stop).perform handler
  | .ask invocation next => do
    let answer ← handler.ask invocation
    (next answer).perform handler

/-- A job that goes on after another one is performed after it. -/
theorem perform_bind {m : Type → Type} [Monad m] [LawfulMonad m] (handler : Handler m)
    (job : Job α) (f : α → Job β) :
    (job >>= f).perform handler = job.perform handler >>= fun a => (f a).perform handler := by
  change (job.bind f).perform handler = _
  induction job with
  | done => simp [bind, perform]
  | log line next ih => simp [bind, perform, ih]
  | checkpoint study next ih => simp [bind, perform, ih]
  | ask invocation next ih => simp [bind, perform, ih]

end Job

end SolidStudy
