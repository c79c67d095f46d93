import Mathlib
import SolidStudy.Proofs.BackgroundRun.Interruption
import SolidStudy.Proofs.Run.Announcements

/-! The log of a background run. Every line that is logged is taken once or still there, in the
order in which it was logged, whatever else happens. A schedule says whose step comes next: that of
the worker, of one of those who interrupt, or of somebody who takes the lines; only the first who
interrupts says so in the log. -/
namespace SolidStudy.BackgroundRun

variable {run : BackgroundRun}

def adds (run : BackgroundRun) : Event → List String
  | .work answer => Job.lines (run.worker.lives answer run.snapshot run.interrupting)
  | .askToStop => []
  | .logStop => [interruptLine]
  | .takeLogs => []

def gives (run : BackgroundRun) : Event → List String
  | .takeLogs => run.takeLogs.1
  | _ => []

theorem logs_after_work (run : BackgroundRun) (answer : Except EvaluatorFault Evaluation) :
    (run.after (.work answer)).logs = run.logs ++ run.adds (.work answer) := by
  obtain ⟨target, worker, snapshot, logs, interrupting⟩ := run
  cases worker with
  | working job =>
    cases job with
    | log => rfl
    | done | checkpoint | ask => exact (List.append_nil logs).symm
  | shown | settled | finished => exact (List.append_nil logs).symm

/-- In one event lines are added behind those that are there, or all of them are given away. -/
theorem gives_append_logs_after (run : BackgroundRun) (event : Event) :
    run.gives event ++ (run.after event).logs = run.logs ++ run.adds event := by
  cases event with
  | work answer => exact logs_after_work run answer
  | askToStop => exact (List.append_nil run.logs).symm
  | logStop | takeLogs => rfl

theorem adds_work_of_isFinished (ended : run.isFinished = true)
    (answer : Except EvaluatorFault Evaluation) : run.adds (.work answer) = [] := by
  obtain ⟨outcome, ended⟩ := Option.isSome_iff_exists.mp ended
  rw [adds, outcome?_eq_some_iff.mp ended]
  rfl

namespace Course

variable {c : Course} {n m : ℕ} {outcome : Outcome}

def logged (c : Course) : ℕ → List String
  | 0 => []
  | n + 1 => c.logged n ++ (c.moment n).adds (c.events n)

def taken (c : Course) : ℕ → List String
  | 0 => []
  | n + 1 => c.taken n ++ (c.moment n).gives (c.events n)

/-- What was taken, followed by what is still there, is all that was logged. -/
theorem taken_append_logs (c : Course) (n : ℕ) : c.taken n ++ (c.moment n).logs = c.logged n := by
  induction n with
  | zero => rfl
  | succ n ih =>
    calc c.taken (n + 1) ++ (c.moment (n + 1)).logs
        = c.taken n ++ ((c.moment n).gives (c.events n) ++
            ((c.moment n).after (c.events n)).logs) := List.append_assoc _ _ _
      _ = c.taken n ++ ((c.moment n).logs ++ (c.moment n).adds (c.events n)) := by
          rw [gives_append_logs_after]
      _ = c.logged (n + 1) := by rw [← List.append_assoc, ih, logged]

theorem isFinished_mono (h : n ≤ m) (ended : (c.moment n).isFinished = true) :
    (c.moment m).isFinished = true := by
  induction m, h using Nat.le_induction with
  | base => exact ended
  | succ m _ ih =>
    obtain ⟨outcome, finished⟩ := Option.isSome_iff_exists.mp ih
    have worker : (c.moment (m + 1)).worker = .finished outcome := by
      rw [outcome?_eq_some_iff] at finished
      cases c.passes m with
      | worked _ _ worker => rw [worker, finished, Worker.advance]
      | waited _ worker => rw [worker, finished]
    exact Option.isSome_iff_exists.mpr ⟨outcome, outcome?_eq_some_iff.mpr worker⟩

/-- Who takes the lines when the worker is finished and nobody logs an interruption any more takes
the rest. -/
theorem taken_eq_logged (ended : (c.moment n).isFinished = true) (takes : c.events n = .takeLogs)
    (calm : ∀ later, n ≤ later → c.events later ≠ .logStop) (h : n < m) :
    c.taken m = c.logged m := by
  have emptied : (c.moment m).logs = [] := by
    induction m, h using Nat.le_induction with
    | base =>
      rw [moment, takes]
      rfl
    | succ m after ih =>
      have before : n ≤ m := Nat.le_of_succ_le after
      rw [moment]
      cases event : c.events m with
      | work answer =>
        rw [logs_after_work, ih, adds_work_of_isFinished (isFinished_mono before ended)]
        rfl
      | askToStop => exact ih
      | logStop => exact absurd event (calm m before)
      | takeLogs => rfl
  rw [← taken_append_logs, emptied, List.append_nil]

/-- While nobody interrupts, the lines are those of the worker. -/
theorem logged_eq_lines (calm : ∀ k < n, c.events k ≠ .logStop) :
    c.logged n = Job.lines (c.trace n) := by
  induction n with
  | zero => rfl
  | succ n ih =>
    rw [logged, trace, ih fun k before => calm k (Nat.lt_succ_of_lt before), Job.lines_append]
    congr 1
    cases event : c.events n with
    | work answer => rfl
    | askToStop | takeLogs => rfl
    | logStop => exact absurd event (calm n (Nat.lt_succ_self n))

/-- The worker never says that it is interrupted. -/
theorem interruptLine_not_mem_lines (c : Course) (n : ℕ) :
    interruptLine ∉ Job.lines (c.trace n) := by
  intro listed
  -- Any way to carry on makes these steps a part of a whole run, whose lines are known.
  have onwards := runs_of_left n (Job.runs_straight (fun _ => .error .noCommand)
    ((c.moment n).worker.left (c.moment n).snapshot))
  have among := Study.lines_run_mem_sayings onwards interruptLine (by simp [listed])
  revert among
  decide

theorem interruptLine_not_mem_adds (c : Course) (n : ℕ)
    (answer : Except EvaluatorFault Evaluation) (event : c.events n = .work answer) :
    interruptLine ∉ (c.moment n).adds (.work answer) := by
  intro listed
  refine c.interruptLine_not_mem_lines (n + 1) ?_
  rw [trace, event, Job.lines_append]
  exact List.mem_append_right _ listed

/-- A run that nobody interrupts does not end as an interrupted one. -/
theorem result_of_uninterrupted (calm : ∀ k < n, c.events k ≠ .askToStop)
    (ended : (c.moment n).outcome? = some outcome) : outcome.result ≠ .error .interrupted := by
  intro interrupted
  obtain ⟨mid, before, found⟩ := (interrupted_iff ended).mp interrupted
  obtain ⟨k, earlier, asked⟩ := (c.interrupting_iff mid).mp found.1
  exact calm k (earlier.trans before) asked

end Course

/-- Whose step comes next. -/
inductive Turn where
  /-- The worker; if it waits for the evaluator, this is the answer. -/
  | work (answer : Except EvaluatorFault Evaluation)
  /-- One of those who interrupt. Each of them can do so any number of times. -/
  | interrupt (caller : ℕ)
  | takeLogs

/-- A run and the calls that interrupt it and are under way. Asking and logging are two steps, and
whoever was the first to ask has not logged it yet. -/
structure Attended where
  run : BackgroundRun
  /-- Those who found that nobody had asked before, and are about to say so in the log. -/
  first : List ℕ

namespace Attended

variable (attended : Attended)

def event : Turn → Event
  | .work answer => .work answer
  | .interrupt caller => if caller ∈ attended.first then .logStop else .askToStop
  | .takeLogs => .takeLogs

def after (turn : Turn) : Attended where
  run := attended.run.after (attended.event turn)
  first := match turn with
    | .interrupt caller =>
      if caller ∈ attended.first then attended.first.erase caller
      else if attended.run.interrupting then attended.first
      else caller :: attended.first
    | _ => attended.first

variable {attended : Attended} {caller : ℕ}

/-- If somebody asked before, a call is one step, and it changes nothing; otherwise it is two. -/
theorem after_interrupt (outside : caller ∉ attended.first) :
    if attended.run.interrupting then
      attended.after (.interrupt caller) = ⟨attended.run.interrupt, attended.first⟩
    else
      (attended.after (.interrupt caller)).after (.interrupt caller) =
        ⟨attended.run.interrupt, attended.first⟩ := by
  obtain ⟨⟨target, worker, snapshot, logs, interrupting⟩, first⟩ := attended
  cases interrupting with
  | true => simp [after, event, outside, BackgroundRun.after, interrupt]
  | false => simp [after, event, outside, BackgroundRun.after, interrupt]

end Attended

/-- A run with all steps that are ever made beside it, by whomever. -/
structure Schedule where
  study : Study
  target : Progress
  turns : ℕ → Turn

namespace Schedule

def moment (s : Schedule) : ℕ → Attended
  | 0 => ⟨start s.study s.target, []⟩
  | n + 1 => (s.moment n).after (s.turns n)

def course (s : Schedule) : Course where
  study := s.study
  target := s.target
  events n := (s.moment n).event (s.turns n)

variable (s : Schedule) {n : ℕ}

theorem run_moment (n : ℕ) : (s.moment n).run = s.course.moment n := by
  induction n with
  | zero => rfl
  | succ n ih => exact congrArg (·.after (s.course.events n)) ih

/-- The interruption is logged, or about to be logged by exactly one caller, or nobody asked. -/
theorem count_interruptLine (n : ℕ) :
    (s.course.logged n).count interruptLine + (s.moment n).first.length =
      if (s.course.moment n).interrupting then 1 else 0 := by
  induction n with
  | zero => rfl
  | succ n ih =>
    have event : s.course.events n = (s.moment n).event (s.turns n) := rfl
    rw [Course.logged, List.count_append, moment, Course.moment, event]
    cases turn : s.turns n with
    | work answer =>
      rw [turn] at event
      have absent := s.course.interruptLine_not_mem_adds n answer event
      rw [Attended.event, List.count_eq_zero_of_not_mem absent, (after_work _ answer).2.2]
      exact ih
    | takeLogs => exact ih
    | interrupt caller =>
      by_cases under : caller ∈ (s.moment n).first
      · -- The caller who was first logs it now, and is not about to do so any more.
        have some : 0 < (s.moment n).first.length := List.length_pos_of_mem under
        simp only [Attended.event, Attended.after, under, if_true, adds, after,
          List.count_singleton_self, List.length_erase_of_mem under]
        rw [← ih]
        omega
      · rw [Attended.event, Attended.after, if_neg under]
        simp only [adds, List.count_nil, after, if_true, if_neg under, run_moment]
        split_ifs at ih ⊢ with asked
        · exact ih
        · rw [List.length_cons]
          omega

/-- While nobody interrupts, nobody asks and nobody says so. -/
theorem events_of_uninterrupted (calm : ∀ k < n, ∀ caller, s.turns k ≠ .interrupt caller) :
    ∀ k < n, s.course.events k ≠ .askToStop ∧ s.course.events k ≠ .logStop := by
  intro k before
  have event : s.course.events k = (s.moment k).event (s.turns k) := rfl
  rw [event]
  cases turn : s.turns k with
  | work answer => simp [Attended.event]
  | takeLogs => simp [Attended.event]
  | interrupt caller => exact absurd turn (calm k before caller)

theorem tells {outcome : Outcome} (calm : ∀ k < n, ∀ caller, s.turns k ≠ .interrupt caller)
    (ended : (s.course.moment n).outcome? = some outcome) :
    ∃ later ending, s.course.trace n = .shown s.study false :: later ∧ outcome = ending.mark ∧
      Study.Tells (Stage.all.filter (·.Due s.target s.study)) s.study later ending
        (s.course.logged n) := by
  have quiet := s.events_of_uninterrupted calm
  rw [Course.logged_eq_lines fun k before => (quiet k before).2]
  exact Study.run_tells (Course.runs_of_outcome? ended)
    (Course.result_of_uninterrupted (fun k before => (quiet k before).1) ended)

end Schedule

end SolidStudy.BackgroundRun
