import Mathlib
import SolidStudy.Extraction

/-! What a job does from its first step to its end, whatever it is answered. An extraction is a job
that ends well or in a fault. If each invocation has its answer, whenever it is asked, and no
checkpoint stops the job, then a job has one run only. Performed with a handler that has a state, a
job takes the run in which every answer is what the handler gives in the state that the step before
left. -/
namespace SolidStudy

/-- A step of a job, with the answer it got. -/
inductive Job.Event where
  | logged (line : String)
  | shown (study : Study) (stop : Bool)
  | asked (invocation : Invocation) (answer : Except EvaluatorFault Evaluation)

namespace Job

variable {α β : Type}

/-- The job takes these steps and ends in this result. -/
inductive Runs : Job α → List Event → α → Prop
  | done (a : α) : Runs (.done a) [] a
  | log {line : String} {next : Job α} {events : List Event} {a : α} (h : Runs next events a) :
      Runs (.log line next) (.logged line :: events) a
  | checkpoint {study : Study} {next : Bool → Job α} (stop : Bool) {events : List Event} {a : α}
      (h : Runs (next stop) events a) :
      Runs (.checkpoint study next) (.shown study stop :: events) a
  | ask {invocation : Invocation} {next : Except EvaluatorFault Evaluation → Job α}
      (answer : Except EvaluatorFault Evaluation) {events : List Event} {a : α}
      (h : Runs (next answer) events a) :
      Runs (.ask invocation next) (.asked invocation answer :: events) a

theorem Runs.bind {job : Job α} {f : α → Job β} {first second : List Event} {a : α} {b : β}
    (h : Runs job first a) (h' : Runs (f a) second b) : Runs (job >>= f) (first ++ second) b := by
  induction h with
  | done => exact h'
  | log _ ih => exact .log (ih h')
  | checkpoint stop _ ih => exact .checkpoint stop (ih h')
  | ask answer _ ih => exact .ask answer (ih h')

theorem runs_bind_iff {job : Job α} {f : α → Job β} {events : List Event} {b : β} :
    Runs (job >>= f) events b ↔
      ∃ first second a, events = first ++ second ∧ Runs job first a ∧ Runs (f a) second b := by
  constructor
  · intro h
    induction job generalizing events with
    | done a => exact ⟨[], events, a, rfl, .done a, h⟩
    | log line next ih =>
      cases h with
      | log h =>
        obtain ⟨first, second, a, rfl, h, h'⟩ := ih h
        exact ⟨_, second, a, rfl, .log h, h'⟩
    | checkpoint study next ih =>
      cases h with
      | checkpoint stop h =>
        obtain ⟨first, second, a, rfl, h, h'⟩ := ih stop h
        exact ⟨_, second, a, rfl, .checkpoint stop h, h'⟩
    | ask invocation next ih =>
      cases h with
      | ask answer h =>
        obtain ⟨first, second, a, rfl, h, h'⟩ := ih answer h
        exact ⟨_, second, a, rfl, .ask answer h, h'⟩
  · intro given
    rcases given with ⟨first, second, a, rfl, h, h'⟩
    exact h.bind h'

theorem runs_pure_iff {a b : α} {events : List Event} :
    Runs (pure a) events b ↔ events = [] ∧ b = a := by
  constructor
  · rintro ⟨⟩
    exact ⟨rfl, rfl⟩
  · intro given
    rcases given with ⟨rfl, rfl⟩
    exact .done _

end Job

namespace Extraction

variable {α β : Type} {events : List Job.Event}

/-- The extraction takes these steps and ends well. -/
def Gets (x : Extraction α) (events : List Job.Event) (a : α) : Prop :=
  Job.Runs x.run events (.ok a)

theorem gets_bind_iff {x : Extraction α} {f : α → Extraction β} {b : β} :
    Gets (x >>= f) events b ↔
      ∃ first second a, events = first ++ second ∧ x.Gets first a ∧ (f a).Gets second b := by
  rw [Gets, ExceptT.run_bind, Job.runs_bind_iff]
  constructor
  · intro given
    rcases given with ⟨first, second, result, rfl, h, h'⟩
    cases result with
    | ok a => exact ⟨first, second, a, rfl, h, h'⟩
    | error fault => cases h'
  · intro given
    rcases given with ⟨first, second, a, rfl, h, h'⟩
    exact ⟨first, second, .ok a, rfl, h, h'⟩

theorem gets_pure_iff {a b : α} : Gets (pure a) events b ↔ events = [] ∧ b = a := by
  rw [Gets, ExceptT.run_pure, Job.runs_pure_iff, Except.ok.injEq]

/-- The extraction takes these steps and ends in this fault. -/
def Fails (x : Extraction α) (events : List Job.Event) (fault : RunFault) : Prop :=
  Job.Runs x.run events (.error fault)

theorem fails_bind_iff {x : Extraction α} {f : α → Extraction β} {fault : RunFault} :
    Fails (x >>= f) events fault ↔ x.Fails events fault ∨
      ∃ first second a, events = first ++ second ∧ x.Gets first a ∧ (f a).Fails second fault := by
  rw [Fails, ExceptT.run_bind, Job.runs_bind_iff]
  constructor
  · intro given
    rcases given with ⟨first, second, result, rfl, h, h'⟩
    cases result with
    | ok a => exact .inr ⟨first, second, a, rfl, h, h'⟩
    | error fault =>
      cases h'
      exact .inl (by rwa [List.append_nil])
  · intro given
    rcases given with h | ⟨first, second, a, rfl, h, h'⟩
    · exact ⟨events, [], .error fault, (List.append_nil events).symm, h, .done _⟩
    · exact ⟨first, second, .ok a, rfl, h, h'⟩

theorem not_fails_pure {a : α} {fault : RunFault} : ¬ Fails (pure a) events fault := by
  rw [Fails, ExceptT.run_pure, Job.runs_pure_iff]
  simp

theorem not_gets_throw {a : α} {fault : RunFault} : ¬ Gets (throw fault) events a := by
  rw [Gets, ExceptT.run_throw, Job.runs_pure_iff]
  simp

theorem fails_throw_iff {fault fault' : RunFault} :
    Fails (throw fault' : Extraction α) events fault ↔ events = [] ∧ fault = fault' := by
  rw [Fails, ExceptT.run_throw, Job.runs_pure_iff, Except.error.injEq]

theorem gets_throw_if_iff {p : Prop} [Decidable p] {cause : RunFault} {f : α → Extraction β}
    {rest : Extraction β} {b : β} :
    Gets (if p then throw cause >>= f else rest) events b ↔ ¬ p ∧ rest.Gets events b := by
  by_cases h : p
  · simp [h, not_gets_throw]
  · simp [h]

theorem fails_throw_if_iff {p : Prop} [Decidable p] {cause fault : RunFault} {f : α → Extraction β}
    {rest : Extraction β} :
    Fails (if p then throw cause >>= f else rest) events fault ↔
      p ∧ events = [] ∧ fault = cause ∨ ¬ p ∧ rest.Fails events fault := by
  by_cases h : p
  · simp [h, fails_throw_iff]
  · simp [h]

theorem gets_lift_iff {x : Except RunFault α} {a : α} :
    Gets (liftM x) events a ↔ events = [] ∧ x = .ok a := by
  cases x with
  | ok b => exact gets_pure_iff.trans (by simp [eq_comm])
  | error fault => exact iff_of_false not_gets_throw (by simp)

theorem fails_lift_iff {x : Except RunFault α} {fault : RunFault} :
    Fails (liftM x) events fault ↔ events = [] ∧ x = .error fault := by
  cases x with
  | ok b => exact iff_of_false not_fails_pure (by simp)
  | error fault' => exact fails_throw_iff.trans (by simp [eq_comm])

end Extraction

namespace Job

variable {α : Type} {answer : Invocation → Except EvaluatorFault Evaluation} {job : Job α}
  {events : List Event} {a : α}

def asked (events : List Event) : List Invocation :=
  events.filterMap fun
    | .asked invocation _ => some invocation
    | _ => none

@[simp] theorem asked_nil : asked [] = [] :=
  rfl

@[simp] theorem asked_append (first second : List Event) :
    asked (first ++ second) = asked first ++ asked second :=
  List.filterMap_append

@[simp] theorem asked_cons_logged (line : String) (events : List Event) :
    asked (.logged line :: events) = asked events :=
  rfl

@[simp] theorem asked_cons_shown (study : Study) (stop : Bool) (events : List Event) :
    asked (.shown study stop :: events) = asked events :=
  rfl

theorem mem_asked {invocation : Invocation} {given : Except EvaluatorFault Evaluation}
    (listed : .asked invocation given ∈ events) : invocation ∈ asked events :=
  List.mem_filterMap.mpr ⟨.asked invocation given, listed, rfl⟩

/-- Whether a question gets the answer that its invocation has. -/
def Event.AnsweredBy (answer : Invocation → Except EvaluatorFault Evaluation) : Event → Prop
  | .asked invocation given => given = answer invocation
  | _ => True

/-- Whether nothing comes from outside but the answers that the invocations have. -/
def Event.Undisturbed (answer : Invocation → Except EvaluatorFault Evaluation) : Event → Prop
  | .asked invocation given => given = answer invocation
  | .shown _ stop => stop = false
  | .logged _ => True

/-- The steps of a job that nobody disturbs, and its result. -/
def straight (answer : Invocation → Except EvaluatorFault Evaluation) : Job α → List Event × α
  | .done a => ([], a)
  | .log line next =>
    let (events, a) := next.straight answer
    (.logged line :: events, a)
  | .checkpoint study next =>
    let (events, a) := (next false).straight answer
    (.shown study false :: events, a)
  | .ask invocation next =>
    let (events, a) := (next (answer invocation)).straight answer
    (.asked invocation (answer invocation) :: events, a)

theorem runs_straight (answer : Invocation → Except EvaluatorFault Evaluation) (job : Job α) :
    Runs job (job.straight answer).1 (job.straight answer).2 := by
  induction job with
  | done a => exact .done a
  | log line next ih => exact .log ih
  | checkpoint study next ih => exact .checkpoint false (ih false)
  | ask invocation next ih => exact .ask (answer invocation) (ih (answer invocation))

/-- An undisturbed run is the only one. -/
theorem straight_eq_of_runs (h : Runs job events a)
    (undisturbed : ∀ event ∈ events, event.Undisturbed answer) :
    job.straight answer = (events, a) := by
  induction h with
  | done a => rfl
  | log _ ih =>
    rw [straight, ih fun event listed => undisturbed event (List.mem_cons_of_mem _ listed)]
  | checkpoint stop _ ih =>
    have goesOn : stop = false := undisturbed _ List.mem_cons_self
    subst goesOn
    rw [straight, ih fun event listed => undisturbed event (List.mem_cons_of_mem _ listed)]
  | ask given _ ih =>
    have own : given = answer _ := undisturbed _ List.mem_cons_self
    subst own
    rw [straight, ih fun event listed => undisturbed event (List.mem_cons_of_mem _ listed)]

variable {σ : Type} {handler : Handler (StateM σ)} {s s' : σ}

/-- The handler takes one step, from one state to another. -/
def Handler.Takes (handler : Handler (StateM σ)) (s s' : σ) : Event → Prop
  | .logged line => (handler.log line).run s = ((), s')
  | .shown study stop => (handler.checkpoint study).run s = (stop, s')
  | .asked invocation answer => (handler.ask invocation).run s = (answer, s')

/-- The handler takes these steps one after another. -/
inductive Handler.Serves (handler : Handler (StateM σ)) : List Event → σ → σ → Prop
  | nil (s : σ) : Serves handler [] s s
  | cons {event : Event} {events : List Event} {s mid s' : σ} (step : handler.Takes s mid event)
      (rest : Serves handler events mid s') : Serves handler (event :: events) s s'

theorem Handler.Serves.append {first second : List Event} {mid : σ}
    (h : handler.Serves first s mid) (h' : handler.Serves second mid s') :
    handler.Serves (first ++ second) s s' := by
  induction h with
  | nil => exact h'
  | cons step _ ih => exact .cons step (ih h')

/-- Performing a job is taking one of its runs. -/
theorem run_perform_iff : (job.perform handler).run s = (a, s') ↔
    ∃ events, Runs job events a ∧ handler.Serves events s s' := by
  constructor
  · intro h
    induction job generalizing s with
    | done b =>
      cases h
      exact ⟨[], .done _, .nil _⟩
    | log line next ih =>
      obtain ⟨events, runs, served⟩ := ih h
      exact ⟨_, .log runs, .cons rfl served⟩
    | checkpoint study next ih =>
      obtain ⟨events, runs, served⟩ := ih (handler.checkpoint study s).1 h
      exact ⟨_, .checkpoint _ runs, .cons rfl served⟩
    | ask invocation next ih =>
      obtain ⟨events, runs, served⟩ := ih (handler.ask invocation s).1 h
      exact ⟨_, .ask _ runs, .cons rfl served⟩
  · intro given
    rcases given with ⟨events, runs, served⟩
    induction runs generalizing s with
    | done b =>
      cases served
      rfl
    | log _ ih =>
      cases served with
      | cons step served =>
        rw [perform, StateT.run_bind, show (handler.log _).run s = _ from step]
        exact ih served
    | checkpoint stop _ ih =>
      cases served with
      | cons step served =>
        rw [perform, StateT.run_bind, show (handler.checkpoint _).run s = _ from step]
        exact ih served
    | ask answer _ ih =>
      cases served with
      | cons step served =>
        rw [perform, StateT.run_bind, show (handler.ask _).run s = _ from step]
        exact ih served

end Job

end SolidStudy
