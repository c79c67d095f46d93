import Mathlib
import SolidStudy.Proofs.BackgroundRun.Course
import SolidStudy.Proofs.Job

/-! The steps of a worker as one run of its job. What a worker did so far, with any way to carry on
from where it is, is a run of the whole job; so all that is known about runs holds of courses. -/
namespace SolidStudy

namespace Worker

variable {worker : Worker} {answer : Except EvaluatorFault Evaluation} {last : Study} {stop : Bool}
  {later : List Job.Event} {outcome : Outcome}

def left (worker : Worker) (last : Study) : Job Outcome :=
  match worker with
  | .working job => job
  | .shown next => .checkpoint last next
  | .settled outcome => .done outcome
  | .finished outcome => .done outcome

theorem runs_advance
    (h : Job.Runs ((worker.advance answer stop).left (worker.shows last)) later outcome) :
    Job.Runs (worker.left last) (worker.lives answer last stop ++ later) outcome := by
  cases worker with
  | working job =>
    cases job with
    | done | checkpoint => exact h
    | log => exact .log h
    | ask => exact .ask answer h
  | shown => exact .checkpoint stop h
  | settled | finished => exact h

theorem lives_cases (worker : Worker) (answer : Except EvaluatorFault Evaluation) (last : Study)
    (stop : Bool) : worker.lives answer last stop = [] ∨
      ∃ event, worker.lives answer last stop = [event] := by
  cases worker with
  | working job =>
    cases job with
    | done | checkpoint => exact .inl rfl
    | log | ask => exact .inr ⟨_, rfl⟩
  | shown => exact .inr ⟨_, rfl⟩
  | settled | finished => exact .inl rfl

theorem shown_of_lives {study : Study} {found : Bool}
    (h : worker.lives answer last stop = [.shown study found]) :
    (∃ next, worker = .shown next) ∧ last = study ∧ stop = found := by
  cases worker with
  | working job => cases job <;> simp [lives] at h
  | shown next =>
    simp only [lives, List.cons.injEq, Job.Event.shown.injEq, and_true] at h
    exact ⟨⟨next, rfl⟩, h⟩
  | settled | finished => simp [lives] at h

end Worker

namespace BackgroundRun.Course

variable {c : Course} {n m : ℕ} {before later : List Job.Event} {event : Job.Event}
  {outcome : Outcome}

theorem runs_of_left (n : ℕ)
    (h : Job.Runs ((c.moment n).worker.left (c.moment n).snapshot) later outcome) :
    Job.Runs (c.study.run c.target) (c.trace n ++ later) outcome := by
  induction n generalizing later with
  | zero => exact h
  | succ n ih =>
    cases c.passes n with
    | worked answer _ worker snapshot trace =>
      rw [worker, snapshot] at h
      rw [trace, List.append_assoc]
      exact ih (Worker.runs_advance h)
    | waited _ worker snapshot trace =>
      rw [worker, snapshot] at h
      rw [trace]
      exact ih h

theorem runs_of_outcome? (ended : (c.moment n).outcome? = some outcome) :
    Job.Runs (c.study.run c.target) (c.trace n) outcome := by
  have left : Job.Runs ((c.moment n).worker.left (c.moment n).snapshot) [] outcome := by
    rw [outcome?_eq_some_iff.mp ended]
    exact .done outcome
  simpa using runs_of_left n left

/-- A worker that gets its answers from a handler ends as if its job was performed at once. -/
theorem perform_of_outcome? {σ : Type} {handler : Job.Handler (StateM σ)} {s s' : σ}
    (ended : (c.moment n).outcome? = some outcome) (served : handler.Serves (c.trace n) s s') :
    ((c.study.run c.target).perform handler).run s = (outcome, s') :=
  Job.run_perform_iff.mpr ⟨c.trace n, runs_of_outcome? ended, served⟩

theorem trace_succ_cases (c : Course) (n : ℕ) :
    c.trace (n + 1) = c.trace n ∨ ∃ event, c.trace (n + 1) = c.trace n ++ [event] := by
  cases c.passes n with
  | worked answer _ _ _ trace =>
    rw [trace]
    rcases (c.moment n).worker.lives_cases answer (c.moment n).snapshot (c.moment n).interrupting
      with nothing | ⟨event, lives⟩
    · rw [nothing, List.append_nil]
      exact .inl rfl
    · exact .inr ⟨event, by rw [lives]⟩
  | waited _ _ _ trace => exact .inl trace

theorem trace_extends (h : n ≤ m) : c.trace n <+: c.trace m := by
  induction m, h using Nat.le_induction with
  | base => exact List.prefix_rfl
  | succ m _ ih =>
    rcases c.trace_succ_cases m with same | ⟨event, longer⟩
    · rwa [same]
    · rw [longer]
      exact ih.trans (List.prefix_append _ _)

/-- Every step is made at some moment, when all steps before it are made. -/
theorem exists_step (h : c.trace m = before ++ event :: later) :
    ∃ n < m, c.trace n = before ∧ c.trace (n + 1) = before ++ [event] := by
  induction m generalizing later with
  | zero => simp [trace] at h
  | succ m ih =>
    rcases c.trace_succ_cases m with same | ⟨last, longer⟩
    · obtain ⟨n, earlier, step⟩ := ih (same.symm.trans h)
      exact ⟨n, Nat.lt_succ_of_lt earlier, step⟩
    · rw [longer] at h
      rcases later.eq_nil_or_concat' with rfl | ⟨later, other, rfl⟩
      · obtain ⟨same, step⟩ := List.append_inj' h rfl
        exact ⟨m, Nat.lt_succ_self m, same, by rw [longer, same, step]⟩
      · rw [← List.cons_append, ← List.append_assoc] at h
        obtain ⟨n, earlier, step⟩ := ih (List.append_inj' h rfl).1
        exact ⟨n, Nat.lt_succ_of_lt earlier, step⟩

theorem passed_checkpoint {study : Study} {stop : Bool}
    (h : c.trace (n + 1) = c.trace n ++ [.shown study stop]) :
    (∃ next, (c.moment n).worker = .shown next) ∧ (c.moment n).snapshot = study ∧
      (c.moment n).interrupting = stop := by
  cases c.passes n with
  | worked answer _ _ _ trace =>
    rw [trace] at h
    exact Worker.shown_of_lives (List.append_cancel_left h)
  | waited _ _ _ trace =>
    rw [trace] at h
    simp at h

end BackgroundRun.Course

end SolidStudy
