import Mathlib
import SolidStudy.BackgroundRun
import SolidStudy.Proofs.Job

/-! All that can happen to a background run. A course lists, moment by moment, the steps of the
worker and what others do in between; a statement about every course is about every interleaving.
A worker that is served again and again comes to its end. -/
namespace SolidStudy

namespace Worker

variable (worker : Worker) (answer : Except EvaluatorFault Evaluation) (last : Study) (stop : Bool)

def advance : Worker :=
  match worker with
  | .working (.log _ next) => .working next
  | .working (.checkpoint _ next) => .shown next
  | .working (.ask _ next) => .working (next answer)
  | .working (.done outcome) => .settled outcome
  | .shown next => .working (next stop)
  | .settled outcome => .finished outcome
  | .finished outcome => .finished outcome

def shows : Study :=
  match worker with
  | .working (.checkpoint study _) => study
  | .working (.done outcome) => outcome.study
  | _ => last

def outcome? : Option Outcome :=
  match worker with
  | .settled outcome => some outcome
  | .finished outcome => some outcome
  | _ => none

/-- What of the job is done in the next step. A checkpoint is passed when the worker looks whether
it is to stop. -/
def lives : List Job.Event :=
  match worker with
  | .working (.log line _) => [.logged line]
  | .working (.checkpoint _ _) => []
  | .working (.ask invocation _) => [.asked invocation answer]
  | .working (.done _) => []
  | .shown _ => [.shown last stop]
  | .settled _ => []
  | .finished _ => []

end Worker

namespace BackgroundRun

/-- What happens next to a run. -/
inductive Event where
  /-- The worker makes its next step; if it waits for the evaluator, this is the answer. -/
  | work (answer : Except EvaluatorFault Evaluation)
  /-- Somebody asks the run to stop. The line about it is logged later. -/
  | askToStop
  | logStop
  | takeLogs

def after (run : BackgroundRun) : Event → BackgroundRun
  | .work answer => if run.question?.isSome then run.answer answer else run.step
  | .askToStop => { run with interrupting := true }
  | .logStop => { run with logs := run.logs ++ [interruptLine] }
  | .takeLogs => run.takeLogs.2

/-- An interruption is made of two events, if nobody asked before. -/
theorem interrupt_eq (run : BackgroundRun) : run.interrupt =
    if run.interrupting then run else (run.after .askToStop).after .logStop :=
  rfl

theorem interrupting_interrupt (run : BackgroundRun) : run.interrupt.interrupting = true := by
  rw [interrupt_eq]
  split_ifs with asked
  · exact asked
  · rfl

/-- What a call for the status finds that looks first at the flag and later at the rest. -/
def statusSeen (early late : BackgroundRun) : RunStatus :=
  if early.interrupting then
    if late.isFinished then .interrupted else .interrupting
  else if late.snapshot.errored then .errored
  else if late.target ≤ late.snapshot.progress then .done
  else .running

theorem status_eq (run : BackgroundRun) : run.status = statusSeen run run :=
  rfl

variable {run : BackgroundRun} {event : Event} {answer : Except EvaluatorFault Evaluation}

theorem after_work (run : BackgroundRun) (answer : Except EvaluatorFault Evaluation) :
    (run.after (.work answer)).worker = run.worker.advance answer run.interrupting ∧
      (run.after (.work answer)).snapshot = run.worker.shows run.snapshot ∧
      (run.after (.work answer)).interrupting = run.interrupting := by
  obtain ⟨target, worker, snapshot, logs, interrupting⟩ := run
  cases worker with
  | working job => cases job <;> exact ⟨rfl, rfl, rfl⟩
  | shown | settled | finished => exact ⟨rfl, rfl, rfl⟩

theorem after_other (other : ∀ answer, event ≠ .work answer) :
    (run.after event).worker = run.worker ∧ (run.after event).snapshot = run.snapshot := by
  cases event with
  | work answer => exact absurd rfl (other answer)
  | askToStop | logStop | takeLogs => exact ⟨rfl, rfl⟩

theorem target_after : (run.after event).target = run.target := by
  cases event with
  | work answer =>
    obtain ⟨target, worker, snapshot, logs, interrupting⟩ := run
    cases worker with
    | working job => cases job <;> rfl
    | shown | settled | finished => rfl
  | askToStop | logStop | takeLogs => rfl

theorem interrupting_after (h : run.interrupting = true) :
    (run.after event).interrupting = true := by
  cases event with
  | work answer => rwa [(after_work run answer).2.2]
  | askToStop => rfl
  | logStop | takeLogs => exact h

theorem outcome?_eq_some_iff {outcome : Outcome} :
    run.outcome? = some outcome ↔ run.worker = .finished outcome := by
  rw [outcome?]
  cases run.worker <;> simp

/-- A run with all that ever happens to it. -/
structure Course where
  study : Study
  target : Progress
  events : ℕ → Event

namespace Course

def moment (c : Course) : ℕ → BackgroundRun
  | 0 => start c.study c.target
  | n + 1 => (c.moment n).after (c.events n)

def trace (c : Course) : ℕ → List Job.Event
  | 0 => []
  | n + 1 => c.trace n ++
    let run := c.moment n
    match c.events n with
    | .work answer => run.worker.lives answer run.snapshot run.interrupting
    | _ => []

variable (c : Course) {n m : ℕ}

/-- The worker can always make another step some time, also when it waits for the evaluator. -/
def Served : Prop :=
  ∀ n, ∃ m, n ≤ m ∧ ∃ answer, c.events m = .work answer

def FindsStop (n : ℕ) : Prop :=
  (c.moment n).interrupting = true ∧ (∃ next, (c.moment n).worker = .shown next) ∧
    ∃ answer, c.events n = .work answer

theorem target_moment (n : ℕ) : (c.moment n).target = c.target := by
  induction n with
  | zero => rfl
  | succ n ih => rw [moment, target_after, ih]

theorem interrupting_mono (h : n ≤ m) (asked : (c.moment n).interrupting = true) :
    (c.moment m).interrupting = true := by
  induction m, h using Nat.le_induction with
  | base => exact asked
  | succ m _ ih => exact interrupting_after ih

/-- What can happen between a moment and the next: a step of the worker, or something that leaves
the worker and what it showed as they are. -/
inductive Passes (c : Course) (n : ℕ) : Prop
  | worked (answer : Except EvaluatorFault Evaluation) (event : c.events n = .work answer)
      (worker : (c.moment (n + 1)).worker =
        (c.moment n).worker.advance answer (c.moment n).interrupting)
      (snapshot : (c.moment (n + 1)).snapshot = (c.moment n).worker.shows (c.moment n).snapshot)
      (trace : c.trace (n + 1) = c.trace n ++
        (c.moment n).worker.lives answer (c.moment n).snapshot (c.moment n).interrupting)
  | waited (other : ∀ answer, c.events n ≠ .work answer)
      (worker : (c.moment (n + 1)).worker = (c.moment n).worker)
      (snapshot : (c.moment (n + 1)).snapshot = (c.moment n).snapshot)
      (trace : c.trace (n + 1) = c.trace n)

theorem passes (n : ℕ) : c.Passes n := by
  by_cases own : ∃ answer, c.events n = .work answer
  · obtain ⟨answer, event⟩ := own
    obtain ⟨worker, snapshot, -⟩ := after_work (c.moment n) answer
    rw [← event] at worker snapshot
    exact .worked answer event worker snapshot (by rw [trace, event])
  · have other := not_exists.mp own
    have stays : (c.moment (n + 1)).worker = (c.moment n).worker ∧
        (c.moment (n + 1)).snapshot = (c.moment n).snapshot := after_other other
    refine .waited other stays.1 stays.2 ?_
    rw [trace]
    split
    next answer event => exact absurd event (other answer)
    next => exact List.append_nil _

variable {c}

/-- The worker stays as it is until its next step. -/
theorem next_work (c : Course) (d : ℕ) : ∀ n, (∃ answer, c.events (n + d) = .work answer) →
    ∃ m answer, c.events m = .work answer ∧ (c.moment m).worker = (c.moment n).worker := by
  induction d with
  | zero =>
    rintro n ⟨answer, event⟩
    exact ⟨n, answer, event, rfl⟩
  | succ d ih =>
    intro n later
    cases c.passes n with
    | worked answer event => exact ⟨n, answer, event, rfl⟩
    | waited _ stays =>
      rw [show n + (d + 1) = n + 1 + d by omega] at later
      obtain ⟨m, answer, event, same⟩ := ih (n + 1) later
      exact ⟨m, answer, event, same.trans stays⟩

theorem Served.advances (served : c.Served) (n : ℕ) : ∃ m answer stop,
    (c.moment m).worker = (c.moment n).worker.advance answer stop := by
  obtain ⟨later, above, works⟩ := served n
  obtain ⟨d, rfl⟩ := Nat.exists_eq_add_of_le above
  obtain ⟨m, answer, event, same⟩ := c.next_work d n works
  refine ⟨m + 1, answer, (c.moment m).interrupting, ?_⟩
  rw [moment, event, (after_work _ answer).1, same]

theorem Served.finishes_job (served : c.Served) (job : Job Outcome) :
    ∀ n, (c.moment n).worker = .working job →
      ∃ m outcome, (c.moment m).worker = .finished outcome := by
  induction job with
  | done outcome =>
    intro n now
    obtain ⟨m, answer, stop, settled⟩ := served.advances n
    obtain ⟨l, answer', stop', finished⟩ := served.advances m
    rw [settled, now] at finished
    exact ⟨l, outcome, finished⟩
  | log line next ih =>
    intro n now
    obtain ⟨m, answer, stop, then_⟩ := served.advances n
    rw [now] at then_
    exact ih m then_
  | checkpoint study next ih =>
    intro n now
    obtain ⟨m, answer, stop, shown⟩ := served.advances n
    obtain ⟨l, answer', stop', looked⟩ := served.advances m
    rw [shown, now] at looked
    exact ih stop' l looked
  | ask invocation next ih =>
    intro n now
    obtain ⟨m, answer, stop, answered⟩ := served.advances n
    rw [now] at answered
    exact ih answer m answered

/-- A worker that is served comes to its end, whatever it is answered and whoever interrupts. -/
theorem Served.finishes (served : c.Served) :
    ∃ n outcome, (c.moment n).outcome? = some outcome := by
  obtain ⟨n, outcome, finished⟩ := served.finishes_job (c.study.run c.target) 0 rfl
  exact ⟨n, outcome, outcome?_eq_some_iff.mpr finished⟩

end Course

end BackgroundRun

end SolidStudy
