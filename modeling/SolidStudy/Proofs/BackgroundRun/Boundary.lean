import Mathlib
import SolidStudy.Proofs.BackgroundRun.Course
import SolidStudy.Proofs.Job
import SolidStudy.Proofs.Run.Atomicity

/-! Stage boundaries. Between its steps a worker is in one of few places: before the first
checkpoint, at a checkpoint, in a stage, or at the end. `InOrder` lists them, each with the steps
that led there, and every event leads from one of them to another. -/
namespace SolidStudy.BackgroundRun

variable {study reached next : Study} {target : Progress} {stage : Stage} {stages : List Stage}
  {past own events : List Job.Event} {outcome : Outcome} {fault : RunFault}

/-- The study a worker begins with, and those it has after a stage; with the steps so far. -/
inductive Boundary (study : Study) (target : Progress) : List Job.Event → Study → Prop
  | begun : Boundary study target [] study
  | completed {past own : List Job.Event} {reached next : Study} {stage : Stage}
      (earlier : Boundary study target past reached) (listed : stage ∈ Stage.all)
      (due : stage.Due target reached) (gets : (stage.perform reached).Gets own next) :
      Boundary study target
        (past ++ .shown reached false :: .logged stage.announcement :: own) next

theorem Boundary.errored (h : Boundary study target past reached) :
    reached.errored = study.errored := by
  induction h with
  | begun => rfl
  | completed _ listed _ gets ih =>
    exact ((Stage.discreet_of_mem listed).errored _ _ _ gets).trans ih

/-- What is left of a run after the checkpoint at a study, with the steps since then. -/
inductive Left (target : Progress) : Study → List Job.Event → Job Outcome → Prop
  | ended {reached : Study} {events : List Job.Event} :
      Left target reached events (.done ⟨reached, .ok ()⟩)
  | failed {reached : Study} {events : List Job.Event} {fault : RunFault}
      (due : reached.progress < target) (own : fault ≠ .interrupted) :
      Left target reached events (.done ⟨{ reached with errored := true }, .error fault⟩)
  | log {reached : Study} {events : List Job.Event} {line : String} {next : Job Outcome}
      (h : Left target reached (events ++ [.logged line]) next) :
      Left target reached events (.log line next)
  | ask {reached : Study} {events : List Job.Event} {invocation : Invocation}
      {next : Except EvaluatorFault Evaluation → Job Outcome}
      (h : ∀ answer, Left target reached (events ++ [.asked invocation answer]) (next answer)) :
      Left target reached events (.ask invocation next)
  | checkpoint {reached study : Study} {own : List Job.Event} {stage : Stage}
      {next : Bool → Job Outcome} (listed : stage ∈ Stage.all) (due : stage.Due target reached)
      (gets : (stage.perform reached).Gets own study)
      (stops : next true = .done ⟨study, .error .interrupted⟩)
      (goesOn : Left target study [] (next false)) :
      Left target reached (.logged stage.announcement :: own) (.checkpoint study next)

theorem left_bind {α : Type} {job : Job α} {f : α → Job Outcome}
    (silent : ∀ own a, Job.Runs job own a → Job.shown own = [])
    (onwards : ∀ own a, Job.Runs job own a → Left target reached (events ++ own) (f a)) :
    Left target reached events (job.bind f) := by
  induction job generalizing events with
  | done a =>
    have rest := onwards [] a (.done a)
    rwa [List.append_nil] at rest
  | log line next ih =>
    refine .log (ih (fun own a h => silent (.logged line :: own) a (.log h)) fun own a h => ?_)
    have rest := onwards _ a (.log h)
    rwa [List.append_cons] at rest
  | checkpoint study next ih =>
    -- A job has some run, and every run of this one shows the study.
    have runs := Job.runs_straight (fun _ => .error .noCommand) (next false)
    have shown := silent _ _ (.checkpoint false runs)
    rw [Job.shown_cons_shown] at shown
    cases shown
  | ask invocation next ih =>
    refine .ask fun answer => ih answer
      (fun own a h => silent (.asked invocation answer :: own) a (.ask answer h)) fun own a h => ?_
    have rest := onwards _ a (.ask answer h)
    rwa [List.append_cons] at rest

theorem carryOut_silent (listed : stage ∈ Stage.all)
    (h : Job.Runs (stage.carryOut reached) own outcome) : Job.shown own = [] := by
  have discreet := Stage.discreet_of_mem listed
  rcases Stage.carryOut_runs_iff.mp h with ⟨next, gets, -⟩ | ⟨fault, fails, -⟩
  · exact discreet.shown_of_gets _ _ _ gets
  · exact discreet.shown_of_fails _ _ _ fails

theorem mark_eq (foreign : fault ≠ .interrupted) :
    Outcome.mark ⟨reached, .error fault⟩ = ⟨{ reached with errored := true }, .error fault⟩ := by
  cases fault with
  | interrupted => exact absurd rfl foreign
  | malformedStatement | configuration | evaluator => rfl

theorem left_runStages (listed : ∀ stage ∈ stages, stage ∈ Stage.all) :
    Left target reached []
      ((Study.runStages target stages reached).bind fun outcome => .done outcome.mark) := by
  induction stages generalizing reached with
  | nil => exact .log .ended
  | cons stage rest ih =>
    have own := listed stage List.mem_cons_self
    have others := fun other h => listed other (List.mem_cons_of_mem _ h)
    by_cases due : stage.Due target reached
    · rw [Study.runStages_of_due due]
      refine .log ?_
      change Left target reached _ (((stage.carryOut reached).bind _).bind _)
      rw [Job.bind_assoc]
      refine left_bind (fun _ _ => carryOut_silent own) fun events outcome h => ?_
      rcases Stage.carryOut_runs_iff.mp h with ⟨next, gets, rfl⟩ | ⟨fault, fails, rfl⟩
      · exact .checkpoint own due gets rfl (ih others)
      · have foreign := (Stage.regular_of_mem own).faults _ _ _ fails
        change Left target reached _ (.done (Outcome.mark ⟨reached, .error fault⟩))
        rw [mark_eq foreign]
        exact .failed (Nat.lt_of_lt_of_le due.1 due.2) foreign
    · rw [Study.runStages_of_not_due due]
      exact ih others

/-- The ways in which a worker can end, with all its steps. -/
inductive Ends (study : Study) (target : Progress) : List Job.Event → Outcome → Prop
  | done {past events : List Job.Event} {reached : Study}
      (boundary : Boundary study target past reached) :
      Ends study target (past ++ .shown reached false :: events) ⟨reached, .ok ()⟩
  | failed {past events : List Job.Event} {reached : Study} {fault : RunFault}
      (boundary : Boundary study target past reached) (due : reached.progress < target)
      (own : fault ≠ .interrupted) :
      Ends study target (past ++ .shown reached false :: events)
        ⟨{ reached with errored := true }, .error fault⟩
  | stopped {past : List Job.Event} {reached : Study}
      (boundary : Boundary study target past reached) :
      Ends study target (past ++ [.shown reached true]) ⟨reached, .error .interrupted⟩

/-- The places of a worker, with its steps so far and the study it showed last. -/
inductive InOrder (study : Study) (target : Progress) :
    List Job.Event → Worker → Study → Prop
  | opening : InOrder study target [] (.working (study.run target)) study
  | shown {past : List Job.Event} {reached : Study} {next : Bool → Job Outcome}
      (boundary : Boundary study target past reached)
      (stops : next true = .done ⟨reached, .error .interrupted⟩)
      (goesOn : Left target reached [] (next false)) :
      InOrder study target past (.shown next) reached
  | working {past events : List Job.Event} {reached : Study} {job : Job Outcome}
      (boundary : Boundary study target past reached) (left : Left target reached events job) :
      InOrder study target (past ++ .shown reached false :: events) (.working job) reached
  | stopping {past : List Job.Event} {reached : Study}
      (boundary : Boundary study target past reached) :
      InOrder study target (past ++ [.shown reached true])
        (.working (.done ⟨reached, .error .interrupted⟩)) reached
  | settled {events : List Job.Event} {outcome : Outcome}
      (ends : Ends study target events outcome) :
      InOrder study target events (.settled outcome) outcome.study
  | finished {events : List Job.Event} {outcome : Outcome}
      (ends : Ends study target events outcome) :
      InOrder study target events (.finished outcome) outcome.study

variable {worker : Worker} {last : Study}

theorem InOrder.advance (h : InOrder study target events worker last)
    (answer : Except EvaluatorFault Evaluation) (stop : Bool) :
    InOrder study target (events ++ worker.lives answer last stop) (worker.advance answer stop)
      (worker.shows last) := by
  cases h with
  | opening => exact .shown .begun rfl (left_runStages fun _ => id)
  | shown boundary stops goesOn =>
    cases stop with
    | true =>
      change InOrder study target _ (.working _) last
      rw [stops]
      exact .stopping boundary
    | false => exact .working boundary goesOn
  | working boundary left =>
    rw [List.append_assoc]
    cases left with
    | ended => exact .settled (.done boundary)
    | failed due own => exact .settled (.failed boundary due own)
    | log left => exact .working boundary left
    | ask left => exact .working boundary (left answer)
    | checkpoint listed due gets stops goesOn =>
      rw [Worker.lives, List.append_nil]
      exact .shown (.completed boundary listed due gets) stops goesOn
  | stopping boundary =>
    rw [Worker.lives, List.append_nil]
    exact .settled (.stopped boundary)
  | settled ends =>
    rw [Worker.lives, List.append_nil]
    exact .finished ends
  | finished ends =>
    rw [Worker.lives, List.append_nil]
    exact .finished ends

/-- Whether all that a worker can still do is to end as an interrupted one. -/
def Stopped : Worker → Prop
  | .working (.done outcome) => outcome.result = .error .interrupted
  | .working _ => False
  | .shown _ => False
  | .settled outcome => outcome.result = .error .interrupted
  | .finished outcome => outcome.result = .error .interrupted

theorem Left.not_stopped {job : Job Outcome} (h : Left target reached events job) :
    ¬ Stopped (.working job) := by
  cases h with
  | ended => simp [Stopped]
  | failed due own => simpa [Stopped] using own
  | log | ask | checkpoint => exact id

/-- A worker is stopped at a checkpoint and nowhere else. -/
theorem InOrder.stopped_advance (h : InOrder study target events worker last)
    (answer : Except EvaluatorFault Evaluation) (stop : Bool) :
    Stopped (worker.advance answer stop) ↔
      Stopped worker ∨ stop = true ∧ ∃ next, worker = .shown next := by
  cases h with
  | opening =>
    refine iff_of_false id fun given => ?_
    rcases given with before | ⟨-, next, other⟩
    · exact before
    · cases other
  | shown boundary stops goesOn =>
    cases stop with
    | true => simp [Stopped, Worker.advance, stops]
    | false => simpa [Worker.advance, Stopped] using goesOn.not_stopped
  | working boundary left =>
    have before := left.not_stopped
    refine iff_of_false ?_ (by simp [before])
    cases left with
    | ended => exact before
    | failed due own => exact before
    | log left => exact left.not_stopped
    | ask left => exact (left answer).not_stopped
    | checkpoint => exact id
  | stopping | settled | finished => simp [Stopped, Worker.advance]

/-- A study that is shown for the last time stays. It is the last one when it is at the target, or
when the worker has come to its end. -/
theorem InOrder.shows_eq (h : InOrder study target events worker last)
    (final : target ≤ last.progress ∨ worker.outcome?.isSome = true) :
    worker.shows last = last := by
  cases h with
  | opening | shown | stopping | settled | finished => rfl
  | working boundary left =>
    have reached : target ≤ last.progress := final.resolve_right Bool.false_ne_true
    cases left with
    | ended | log | ask => rfl
    | failed due => exact absurd due (Nat.not_lt.mpr reached)
    | checkpoint _ due =>
      exact absurd (Nat.lt_of_lt_of_le due.1 due.2) (Nat.not_lt.mpr reached)

namespace Course

variable (c : Course) {n m : ℕ}

theorem inOrder (n : ℕ) :
    InOrder c.study c.target (c.trace n) (c.moment n).worker (c.moment n).snapshot := by
  induction n with
  | zero => exact .opening
  | succ n ih =>
    cases c.passes n with
    | worked answer _ worker snapshot trace =>
      rw [worker, snapshot, trace]
      exact ih.advance answer _
    | waited _ worker snapshot trace => rwa [worker, snapshot, trace]

end Course

end SolidStudy.BackgroundRun
