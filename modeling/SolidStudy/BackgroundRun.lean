import SolidStudy.Run

/-! A run that goes on in the background. The worker makes one step at a time; between any two
steps others may look at the study it last showed, take the log lines, or ask it to stop. It stops
at the next checkpoint, where it first shows its study and then looks whether it is asked to.

A program that shows the log of such a run tests again and again whether the run is finished, takes
the lines that are there and writes them. What it takes after a test that found the run finished is
the rest. -/
namespace SolidStudy

inductive Worker where
  | working (job : Job Outcome)
  /-- At a checkpoint, with the study shown and before looking whether to stop. -/
  | shown (next : Bool → Job Outcome)
  /-- At the end, with the last study shown. -/
  | settled (outcome : Outcome)
  | finished (outcome : Outcome)

structure BackgroundRun where
  target : Progress
  worker : Worker
  /-- The study as it was shown last. -/
  snapshot : Study
  /-- The lines that nobody has taken yet. -/
  logs : List String
  /-- Whether the run is asked to stop. -/
  interrupting : Bool

inductive RunStatus where
  | running
  | done
  | errored
  | interrupting
  | interrupted
  deriving DecidableEq, Repr

def RunStatus.name : RunStatus → String
  | .running => "Running"
  | .done => "Done"
  | .errored => "Errored"
  | .interrupting => "Interrupting"
  | .interrupted => "Interrupted"

namespace BackgroundRun

def start (study : Study) (target : Progress) : BackgroundRun where
  target := target
  worker := .working (study.run target)
  snapshot := study
  logs := []
  interrupting := false

variable (run : BackgroundRun)

def outcome? : Option Outcome :=
  match run.worker with
  | .finished outcome => some outcome
  | _ => none

def isFinished : Bool := run.outcome?.isSome

/-- What the worker waits to hear from the evaluator. -/
def question? : Option Invocation :=
  match run.worker with
  | .working (.ask invocation _) => some invocation
  | _ => none

/-- One step of the worker. It does nothing while it waits for the evaluator or when it is
finished. -/
def step : BackgroundRun :=
  match run.worker with
  | .working (.log line next) => { run with logs := run.logs ++ [line], worker := .working next }
  | .working (.checkpoint study next) => { run with snapshot := study, worker := .shown next }
  | .working (.done outcome) => { run with snapshot := outcome.study, worker := .settled outcome }
  | .working (.ask _ _) => run
  | .shown next => { run with worker := .working (next run.interrupting) }
  | .settled outcome => { run with worker := .finished outcome }
  | .finished _ => run

def answer (result : Except EvaluatorFault Evaluation) : BackgroundRun :=
  match run.worker with
  | .working (.ask _ next) => { run with worker := .working (next result) }
  | _ => run

/-- The line that is logged when a run is first asked to stop. -/
def interruptLine : String := "Interrupting calculation..."

def interrupt : BackgroundRun :=
  if run.interrupting then run
  else { run with interrupting := true, logs := run.logs ++ [interruptLine] }

/-- Every line is taken once. -/
def takeLogs : List String × BackgroundRun := (run.logs, { run with logs := [] })

def status : RunStatus :=
  if run.interrupting then
    if run.isFinished then .interrupted else .interrupting
  else if run.snapshot.errored then .errored
  else if run.target ≤ run.snapshot.progress then .done
  else .running

/-- The rest of a job up to its next question or its end, with nothing between its steps. -/
def workOn : BackgroundRun → Job Outcome → BackgroundRun
  | run, .log line next => workOn { run with logs := run.logs ++ [line] } next
  | run, .checkpoint study next => workOn { run with snapshot := study } (next run.interrupting)
  | run, .ask invocation next => { run with worker := .working (.ask invocation next) }
  | run, .done outcome => { run with snapshot := outcome.study, worker := .finished outcome }

def workUntilQuestion : BackgroundRun :=
  match run.worker with
  | .working job => run.workOn job
  | .shown next => run.workOn (next run.interrupting)
  | .settled outcome => { run with worker := .finished outcome }
  | .finished _ => run

end BackgroundRun

/-- What the program does next. -/
inductive Poller where
  | testing
  /-- It takes the lines, for the last time if the run was found finished. -/
  | taking (last : Bool)
  | writing (lines : List String) (last : Bool)
  | done

/-- A run, the program that waits for it, and the world that both of them act on. -/
structure Polling (World : Type) where
  run : BackgroundRun
  poller : Poller
  world : World

namespace Polling

variable {World : Type}

def start (study : Study) (target : Progress) (world : World) : Polling World :=
  ⟨.start study target, .testing, world⟩

variable (handler : Job.Handler (StateM World)) (polling : Polling World)

def work : Polling World :=
  match polling.run.question? with
  | none => { polling with run := polling.run.step }
  | some invocation =>
    let (answer, world) := (handler.ask invocation).run polling.world
    { polling with run := polling.run.answer answer, world := world }

def poll : Polling World :=
  match polling.poller with
  | .testing => { polling with poller := .taking polling.run.isFinished }
  | .taking last =>
    let (lines, run) := polling.run.takeLogs
    { polling with run := run, poller := .writing lines last }
  | .writing [] last => { polling with poller := if last then .done else .testing }
  | .writing (line :: lines) last =>
    { polling with
      poller := .writing lines last
      world := ((handler.log line).run polling.world).2 }
  | .done => polling

end Polling

end SolidStudy
