import Mathlib
import SolidStudy.BackgroundRun
import SolidStudy.Proofs.BackgroundRun.Interruption

/-! Polling changes nothing. If a log may be written later than its lines are logged, then the
program that polls for them leaves the world as if every line had been written at once, whenever
its steps and those of the worker come; and it comes to its end after the worker did. -/
namespace SolidStudy

variable {World : Type} {handler : Job.Handler (StateM World)}

namespace Job.Handler

def logAll (handler : Job.Handler (StateM World)) (lines : List String) (w : World) : World :=
  lines.foldl (fun w line => ((handler.log line).run w).2) w

theorem logAll_concat (lines : List String) (line : String) (w : World) :
    handler.logAll (lines ++ [line]) w = ((handler.log line).run (handler.logAll lines w)).2 :=
  List.foldl_concat _ _ _ _

/-- A handler that stops at no checkpoint, and whose evaluator takes no notice of the log. -/
structure Patient (handler : Job.Handler (StateM World)) : Prop where
  checkpoint : ∀ study w, (handler.checkpoint study).run w = (false, w)
  ask : ∀ line invocation w, (handler.ask invocation).run ((handler.log line).run w).2 =
    (((handler.ask invocation).run w).1,
      ((handler.log line).run ((handler.ask invocation).run w).2).2)

theorem Patient.ask_logAll (patient : handler.Patient) (lines : List String)
    (invocation : Invocation) (w : World) :
    (handler.ask invocation).run (handler.logAll lines w) =
      (((handler.ask invocation).run w).1,
        handler.logAll lines ((handler.ask invocation).run w).2) := by
  induction lines generalizing w with
  | nil => rfl
  | cons line rest ih =>
    rw [logAll, List.foldl_cons]
    refine (ih _).trans ?_
    rw [patient.ask]
    rfl

end Job.Handler

namespace Polling

variable {p : Polling World}

def answer (handler : Job.Handler (StateM World)) (p : Polling World) :
    Except EvaluatorFault Evaluation :=
  match p.run.question? with
  | none => .error .noCommand
  | some invocation => ((handler.ask invocation).run p.world).1

/-- The lines that are logged and not written yet. -/
def owed (p : Polling World) : List String :=
  match p.poller with
  | .writing lines _ => lines ++ p.run.logs
  | _ => p.run.logs

theorem run_work : (p.work handler).run = p.run.after (.work (p.answer handler)) := by
  unfold work answer BackgroundRun.after
  cases p.run.question? <;> rfl

theorem poller_work : (p.work handler).poller = p.poller := by
  unfold work
  cases p.run.question? <;> rfl

theorem run_poll :
    (p.poll handler).run = { p.run with logs := (p.poll handler).run.logs } := by
  obtain ⟨run, poller, w⟩ := p
  cases poller with
  | testing | taking | done => rfl
  | writing lines => cases lines <;> rfl

theorem owed_append_log (run : BackgroundRun) (worker : Worker) (poller : Poller) (w : World)
    (line : String) :
    owed ⟨{ run with logs := run.logs ++ [line], worker := worker }, poller, w⟩ =
      owed ⟨run, poller, w⟩ ++ [line] := by
  cases poller with
  | writing lines last => exact (List.append_assoc lines run.logs [line]).symm
  | testing | taking | done => rfl

/-- A step of the worker is a step of its job, in the world in which the log is written already. -/
theorem serves_work (patient : handler.Patient) (calm : p.run.interrupting = false) :
    handler.Serves (p.run.worker.lives (p.answer handler) p.run.snapshot p.run.interrupting)
      (handler.logAll p.owed p.world)
      (handler.logAll (p.work handler).owed (p.work handler).world) := by
  obtain ⟨⟨target, worker, snapshot, logs, interrupting⟩, poller, w⟩ := p
  cases worker with
  | working job =>
    cases job with
    | done | checkpoint => exact .nil _
    | log line next =>
      have longer := owed_append_log ⟨target, .working (.log line next), snapshot, logs,
        interrupting⟩ (.working next) poller w line
      refine .cons ?_ (.nil _)
      rw [work, BackgroundRun.question?]
      dsimp only [BackgroundRun.step] at longer ⊢
      rw [longer, Job.Handler.logAll_concat]
      rfl
    | ask invocation next =>
      -- The evaluator is asked while lines are owed, and answers as if they were written.
      refine .cons ?_ (.nil _)
      cases poller <;> exact patient.ask_logAll _ invocation w
  | shown next =>
    obtain rfl : interrupting = false := calm
    exact .cons (patient.checkpoint snapshot _) (.nil _)
  | settled | finished => exact .nil _

theorem logAll_poll : handler.logAll (p.poll handler).owed (p.poll handler).world =
    handler.logAll p.owed p.world := by
  obtain ⟨run, poller, w⟩ := p
  cases poller with
  | testing | done => rfl
  | taking last =>
    change handler.logAll (run.logs ++ []) w = handler.logAll run.logs w
    rw [List.append_nil]
  | writing lines last =>
    cases lines with
    | nil => cases last <;> rfl
    | cons line rest => rfl

/-- After a test that found the run finished nothing is left behind. -/
def Settled (p : Polling World) : Prop :=
  match p.poller with
  | .testing | .taking false | .writing _ false => True
  | .taking true => p.run.isFinished = true
  | .writing _ true | .done => p.run.isFinished = true ∧ p.run.logs = []

theorem work_of_isFinished (ended : p.run.isFinished = true) : p.work handler = p := by
  obtain ⟨⟨target, worker, snapshot, logs, interrupting⟩, poller, w⟩ := p
  cases worker with
  | finished => rfl
  | working | shown | settled => cases ended

theorem Settled.work (h : p.Settled) : (p.work handler).Settled := by
  by_cases ended : p.run.isFinished = true
  · rwa [work_of_isFinished ended]
  · unfold Settled at h ⊢
    rw [poller_work]
    split at h
    · trivial
    · trivial
    · trivial
    · exact absurd h ended
    · exact absurd h.1 ended
    · exact absurd h.1 ended

theorem Settled.poll (h : p.Settled) : (p.poll handler).Settled := by
  obtain ⟨run, poller, w⟩ := p
  cases poller with
  | testing =>
    change Settled ⟨run, .taking run.isFinished, w⟩
    cases ended : run.isFinished with
    | true => exact ended
    | false => trivial
  | taking last =>
    cases last with
    | true => exact ⟨h, rfl⟩
    | false => trivial
  | writing lines last =>
    cases lines with
    | nil =>
      cases last with
      | true => exact h
      | false => trivial
    | cons line rest => cases last <;> exact h
  | done => exact h

/-- How many steps the program still makes if the worker is finished. -/
def stepsLeft (p : Polling World) : ℕ :=
  match p.poller with
  | .testing => p.run.logs.length + 3
  | .taking last => p.run.logs.length + 2 + if last then 0 else 3
  | .writing lines last => lines.length + 1 + if last then 0 else p.run.logs.length + 3
  | .done => 0

theorem stepsLeft_poll (ended : p.run.isFinished = true) (going : p.poller ≠ .done) :
    (p.poll handler).stepsLeft < p.stepsLeft ∧ (p.poll handler).run.isFinished = true := by
  obtain ⟨run, poller, w⟩ := p
  have ended : run.isFinished = true := ended
  cases poller with
  | testing =>
    refine ⟨?_, ended⟩
    simp [poll, ended, stepsLeft]
  | taking last =>
    refine ⟨?_, ended⟩
    simp only [poll, BackgroundRun.takeLogs, stepsLeft, List.length_nil]
    split_ifs <;> omega
  | writing lines last =>
    refine ⟨?_, by cases lines <;> exact ended⟩
    cases lines with
    | nil => cases last <;> simp [poll, stepsLeft]
    | cons line rest => simp [poll, stepsLeft]
  | done => exact absurd rfl going

inductive Party where
  | worker
  | program

def after (handler : Job.Handler (StateM World)) (p : Polling World) : Party → Polling World
  | .worker => p.work handler
  | .program => p.poll handler

structure Course (World : Type) where
  handler : Job.Handler (StateM World)
  study : Study
  target : Progress
  world : World
  turns : ℕ → Party

namespace Course

def moment (c : Course World) : ℕ → Polling World
  | 0 => start c.study c.target c.world
  | n + 1 => (c.moment n).after c.handler (c.turns n)

/-- The course of the run alone. The program changes nothing of the run but the log, so each of its
steps may stand here for one that takes the lines. -/
def behind (c : Course World) : BackgroundRun.Course where
  study := c.study
  target := c.target
  events n :=
    match c.turns n with
    | .worker => .work ((c.moment n).answer c.handler)
    | .program => .takeLogs

variable {c : Course World} {n : ℕ}

theorem events_worker (turn : c.turns n = .worker) :
    c.behind.events n = .work ((c.moment n).answer c.handler) := by
  simp [behind, turn]

theorem events_program (turn : c.turns n = .program) : c.behind.events n = .takeLogs := by
  simp [behind, turn]

theorem events_ne_askToStop (c : Course World) (n : ℕ) : c.behind.events n ≠ .askToStop := by
  cases turn : c.turns n with
  | worker => simp [events_worker turn]
  | program => simp [events_program turn]

theorem run_moment (c : Course World) (n : ℕ) :
    (c.moment n).run = { c.behind.moment n with logs := (c.moment n).run.logs } := by
  induction n with
  | zero => rfl
  | succ n ih =>
    rw [BackgroundRun.Course.moment, moment]
    cases turn : c.turns n with
    | worker =>
      -- No step of the worker reads the log, in which alone the two runs differ.
      rw [events_worker turn, after, run_work]
      generalize (c.moment n).answer c.handler = answer
      rw [ih]
      generalize c.behind.moment n = run
      generalize (c.moment n).run.logs = logs
      obtain ⟨target, worker, snapshot, _, interrupting⟩ := run
      cases worker with
      | working job => cases job <;> rfl
      | shown | settled | finished => rfl
    | program =>
      rw [events_program turn, after, run_poll, ih]
      rfl

theorem interrupting_behind (c : Course World) (n : ℕ) :
    (c.behind.moment n).interrupting = false := by
  rw [Bool.eq_false_iff]
  intro asked
  obtain ⟨k, -, asks⟩ := (c.behind.interrupting_iff n).mp asked
  exact c.events_ne_askToStop k asks

/-- The steps of the worker so far, in the world in which the log is written already. -/
theorem serves (patient : c.handler.Patient) (n : ℕ) : c.handler.Serves (c.behind.trace n) c.world
    (c.handler.logAll (c.moment n).owed (c.moment n).world) := by
  induction n with
  | zero => exact .nil _
  | succ n ih =>
    have same := c.run_moment n
    rw [moment, BackgroundRun.Course.trace]
    cases turn : c.turns n with
    | worker =>
      have calm : (c.moment n).run.interrupting = false := by
        rw [same]
        exact c.interrupting_behind n
      have step := serves_work patient calm
      rw [events_worker turn]
      rw [same] at step
      exact ih.append step
    | program =>
      rw [events_program turn, List.append_nil, after, logAll_poll]
      exact ih

theorem settled (c : Course World) (n : ℕ) : (c.moment n).Settled := by
  induction n with
  | zero => trivial
  | succ n ih =>
    rw [moment]
    cases c.turns n with
    | worker => exact ih.work
    | program => exact ih.poll

theorem outcome?_behind (c : Course World) (n : ℕ) :
    (c.behind.moment n).outcome? = (c.moment n).run.outcome? := by
  rw [run_moment]
  rfl

/-- When the program is over the worker is finished, and the world is as if the job had been
performed without the program. -/
theorem perform_of_done (patient : c.handler.Patient) (done : (c.moment n).poller = .done) :
    ∃ outcome, (c.behind.moment n).outcome? = some outcome ∧
      c.handler.Serves (c.behind.trace n) c.world (c.moment n).world ∧
      ((c.study.run c.target).perform c.handler).run c.world = (outcome, (c.moment n).world) := by
  have rest := c.settled n
  rw [Settled, done] at rest
  obtain ⟨outcome, ended⟩ := Option.isSome_iff_exists.mp rest.1
  have written := c.serves patient n
  rw [owed, done] at written
  dsimp only at written
  rw [rest.2] at written
  rw [← outcome?_behind] at ended
  exact ⟨outcome, ended, written, c.behind.perform_of_outcome? ended written⟩

/-- Both the worker and the program make steps again and again. -/
structure Fair (c : Course World) : Prop where
  worker : ∀ n, ∃ m, n ≤ m ∧ c.turns m = .worker
  program : ∀ n, ∃ m, n ≤ m ∧ c.turns m = .program

theorem Fair.isFinished (fair : c.Fair) : ∃ n, (c.moment n).run.isFinished = true := by
  have served : c.behind.Served := fun n => by
    obtain ⟨m, later, turn⟩ := fair.worker n
    exact ⟨m, later, _, events_worker turn⟩
  obtain ⟨n, outcome, ended⟩ := served.finishes
  rw [outcome?_behind] at ended
  exact ⟨n, Option.isSome_iff_exists.mpr ⟨outcome, ended⟩⟩

/-- Once the worker is finished, all stays as it is until the next step of the program. -/
theorem next_poll (c : Course World) (d : ℕ) : ∀ n, (c.moment n).run.isFinished = true →
    c.turns (n + d) = .program → ∃ m, c.moment (m + 1) = (c.moment n).poll c.handler := by
  induction d with
  | zero =>
    intro n ended turn
    exact ⟨n, by rw [moment, show c.turns n = .program from turn, after]⟩
  | succ d ih =>
    intro n ended later
    cases turn : c.turns n with
    | program => exact ⟨n, by rw [moment, turn, after]⟩
    | worker =>
      have stays : c.moment (n + 1) = c.moment n := by
        rw [moment, turn, after, work_of_isFinished ended]
      rw [show n + (d + 1) = n + 1 + d by omega] at later
      obtain ⟨m, polled⟩ := ih (n + 1) (stays ▸ ended) later
      exact ⟨m, polled.trans (by rw [stays])⟩

theorem Fair.ends_of_isFinished (fair : c.Fair) (steps : ℕ) : ∀ n,
    (c.moment n).run.isFinished = true → (c.moment n).stepsLeft ≤ steps →
      ∃ m, (c.moment m).poller = .done := by
  induction steps with
  | zero =>
    intro n ended few
    refine ⟨n, ?_⟩
    by_contra going
    have fewer : ((c.moment n).poll c.handler).stepsLeft < (c.moment n).stepsLeft :=
      (stepsLeft_poll ended going).1
    omega
  | succ steps ih =>
    intro n ended few
    by_cases going : (c.moment n).poller = .done
    · exact ⟨n, going⟩
    · obtain ⟨later, above, turn⟩ := fair.program n
      obtain ⟨d, rfl⟩ := Nat.exists_eq_add_of_le above
      obtain ⟨m, polled⟩ := c.next_poll d n ended turn
      obtain ⟨fewer, still⟩ : ((c.moment n).poll c.handler).stepsLeft < (c.moment n).stepsLeft ∧
          ((c.moment n).poll c.handler).run.isFinished = true := stepsLeft_poll ended going
      rw [← polled] at fewer still
      exact ih (m + 1) still (by omega)

theorem Fair.ends (fair : c.Fair) : ∃ n, (c.moment n).poller = .done := by
  obtain ⟨n, ended⟩ := fair.isFinished
  exact fair.ends_of_isFinished _ n ended le_rfl

end Course

end Polling

end SolidStudy
