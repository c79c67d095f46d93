import Mathlib
import SolidStudy.Proofs.Inventory.Acceptance
import SolidStudy.Proofs.Study.Outline
import SolidStudy.Run

/-! What a run does, stage by stage. `RunsStages` lists the ways in which the stages of a run can
go; the studies that a run shows are its stage boundaries. -/
namespace SolidStudy

def Job.shown (events : List Event) : List Study :=
  events.filterMap fun
    | .shown study _ => some study
    | _ => none

@[simp] theorem Job.shown_append (first second : List Event) :
    shown (first ++ second) = shown first ++ shown second :=
  List.filterMap_append

@[simp] theorem Job.shown_cons_shown (study : Study) (stop : Bool) (events : List Event) :
    shown (.shown study stop :: events) = study :: shown events :=
  rfl

@[simp] theorem Job.shown_cons_logged (line : String) (events : List Event) :
    shown (.logged line :: events) = shown events :=
  rfl

variable {target : Progress} {stage : Stage} {stages : List Stage} {study next : Study}
  {events own later : List Job.Event} {outcome : Outcome} {fault : RunFault}

namespace Stage

theorem carryOut_runs_iff : Job.Runs (stage.carryOut study) events outcome ↔
    (∃ next, (stage.perform study).Gets events next ∧ outcome = ⟨next, .ok ()⟩) ∨
      ∃ fault, (stage.perform study).Fails events fault ∧ outcome = ⟨study, .error fault⟩ := by
  rw [carryOut, Job.runs_bind_iff]
  constructor
  · intro given
    rcases given with ⟨first, second, result, rfl, h, h'⟩
    cases result with
    | ok next =>
      cases h'
      exact .inl ⟨next, (List.append_nil first).symm ▸ h, rfl⟩
    | error fault =>
      cases h'
      exact .inr ⟨fault, (List.append_nil first).symm ▸ h, rfl⟩
  · intro given
    rcases given with ⟨next, h, rfl⟩ | ⟨fault, h, rfl⟩
    · exact ⟨events, [], .ok next, (List.append_nil events).symm, h, .done _⟩
    · exact ⟨events, [], .error fault, (List.append_nil events).symm, h, .done _⟩

def Due (stage : Stage) (target : Progress) (study : Study) : Prop :=
  study.progress < stage.reaches ∧ stage.reaches ≤ target

end Stage

namespace Study

theorem atCheckpoint_runs_iff {job : Job Outcome} :
    Job.Runs (atCheckpoint study job) events outcome ↔
      events = [.shown study true] ∧ outcome = ⟨study, .error .interrupted⟩ ∨
      ∃ later, events = .shown study false :: later ∧ Job.Runs job later outcome := by
  constructor
  · intro h
    cases h with
    | checkpoint stop h =>
      cases stop with
      | true =>
        cases h
        exact .inl ⟨rfl, rfl⟩
      | false => exact .inr ⟨_, rfl, h⟩
  · intro given
    rcases given with ⟨rfl, rfl⟩ | ⟨later, rfl, h⟩
    · exact .checkpoint true (.done _)
    · exact .checkpoint false h

/-- The ways in which the stages of a run can go, from a study on. -/
inductive RunsStages (target : Progress) :
    List Stage → Study → List Job.Event → Outcome → Prop
  | closing (study : Study) : RunsStages target [] study [.logged Stage.closing] ⟨study, .ok ()⟩
  | skipped {stage : Stage} {rest : List Stage} {study : Study} {events : List Job.Event}
      {outcome : Outcome} (passed : ¬ stage.Due target study)
      (h : RunsStages target rest study events outcome) :
      RunsStages target (stage :: rest) study events outcome
  | failed {stage : Stage} {rest : List Stage} {study : Study} {own : List Job.Event}
      {fault : RunFault} (due : stage.Due target study)
      (fails : (stage.perform study).Fails own fault) :
      RunsStages target (stage :: rest) study (.logged stage.announcement :: own)
        ⟨study, .error fault⟩
  | interrupted {stage : Stage} {rest : List Stage} {study next : Study} {own : List Job.Event}
      (due : stage.Due target study) (gets : (stage.perform study).Gets own next) :
      RunsStages target (stage :: rest) study
        (.logged stage.announcement :: own ++ [.shown next true]) ⟨next, .error .interrupted⟩
  | performed {stage : Stage} {rest : List Stage} {study next : Study} {own later : List Job.Event}
      {outcome : Outcome} (due : stage.Due target study)
      (gets : (stage.perform study).Gets own next) (h : RunsStages target rest next later outcome) :
      RunsStages target (stage :: rest) study
        (.logged stage.announcement :: own ++ .shown next false :: later) outcome

theorem runStages_of_due (due : stage.Due target study) :
    runStages target (stage :: stages) study = .log stage.announcement (do
      let outcome ← stage.carryOut study
      match outcome.result with
      | .ok () => atCheckpoint outcome.study (runStages target stages outcome.study)
      | .error _ => return outcome) := by
  rw [runStages]
  exact if_pos due

theorem runStages_of_not_due (passed : ¬ stage.Due target study) :
    runStages target (stage :: stages) study = runStages target stages study := by
  rw [runStages]
  exact if_neg passed

theorem runStages_runs_iff : Job.Runs (runStages target stages study) events outcome ↔
    RunsStages target stages study events outcome := by
  constructor
  · intro h
    induction stages generalizing study events with
    | nil =>
      cases h with
      | log h =>
        cases h
        exact .closing study
    | cons stage rest ih =>
      by_cases due : stage.Due target study
      · rw [runStages_of_due due] at h
        cases h with
        | log h =>
          obtain ⟨own, second, reached, rfl, carried, onwards⟩ := Job.runs_bind_iff.mp h
          rcases Stage.carryOut_runs_iff.mp carried with ⟨next, gets, rfl⟩ | ⟨fault, fails, rfl⟩
          · rcases atCheckpoint_runs_iff.mp onwards with ⟨rfl, rfl⟩ | ⟨later, rfl, further⟩
            · exact .interrupted due gets
            · exact .performed due gets (ih further)
          · obtain ⟨rfl, rfl⟩ := Job.runs_pure_iff.mp onwards
            rw [List.append_nil]
            exact .failed due fails
      · rw [runStages_of_not_due due] at h
        exact .skipped due (ih h)
  · intro h
    induction h with
    | closing study => exact .log (.done _)
    | skipped passed _ ih =>
      rw [runStages_of_not_due passed]
      exact ih
    | failed due fails =>
      have carried := Stage.carryOut_runs_iff.mpr (.inr ⟨_, fails, rfl⟩)
      rw [runStages_of_due due]
      exact .log (Job.runs_bind_iff.mpr ⟨_, [], _, (List.append_nil _).symm, carried, .done _⟩)
    | interrupted due gets =>
      have carried := Stage.carryOut_runs_iff.mpr (.inl ⟨_, gets, rfl⟩)
      rw [runStages_of_due due]
      exact .log (carried.bind (atCheckpoint_runs_iff.mpr (.inl ⟨rfl, rfl⟩)))
    | performed due gets _ ih =>
      have carried := Stage.carryOut_runs_iff.mpr (.inl ⟨_, gets, rfl⟩)
      rw [runStages_of_due due]
      exact .log (carried.bind (atCheckpoint_runs_iff.mpr (.inr ⟨_, rfl, ih⟩)))

theorem run_runs_iff : Job.Runs (study.run target) events outcome ↔
    events = [.shown study true] ∧ outcome = ⟨study, .error .interrupted⟩ ∨
      ∃ later ending, events = .shown study false :: later ∧
        RunsStages target Stage.all study later ending ∧ outcome = ending.mark := by
  rw [run, Job.runs_bind_iff]
  constructor
  · intro given
    rcases given with ⟨first, second, ending, rfl, h, marked⟩
    obtain ⟨rfl, rfl⟩ := Job.runs_pure_iff.mp marked
    rw [List.append_nil]
    rcases atCheckpoint_runs_iff.mp h with ⟨rfl, rfl⟩ | ⟨later, rfl, further⟩
    · exact .inl ⟨rfl, rfl⟩
    · exact .inr ⟨later, ending, rfl, runStages_runs_iff.mp further, rfl⟩
  · intro given
    rcases given with ⟨rfl, rfl⟩ | ⟨later, ending, rfl, h, rfl⟩
    · exact ⟨_, [], _, rfl, atCheckpoint_runs_iff.mpr (.inl ⟨rfl, rfl⟩), .done _⟩
    · refine ⟨_, [], ending, (List.append_nil _).symm, ?_, .done _⟩
      exact atCheckpoint_runs_iff.mpr (.inr ⟨later, rfl, runStages_runs_iff.mpr h⟩)

theorem recordAll_errored (ds : List Declaration) :
    (study.recordAll ds).errored = study.errored := by
  induction ds generalizing study with
  | nil => rfl
  | cons d rest ih =>
    rw [recordAll, List.foldl_cons]
    refine ih.trans ?_
    cases d <;> rfl

theorem declareAll_eq_recordAll {statements : List Statement}
    (h : study.declareAll statements = .ok next) :
    ∃ ds, List.Forall₂ Directive.Declares (statements.filter Directive.isDirective) ds ∧
      study.AdmitsAll ds ∧ next = study.recordAll ds ∧ next.checkComplete = .ok () := by
  obtain ⟨dispatched, complete⟩ := applyInventory_eq_ok.mp (declareAll_eq_ok.mp h)
  obtain ⟨ds, written, admitted, same⟩ := dispatchAll_eq_ok.mp dispatched
  exact ⟨ds, written, admitted, same, complete⟩

/-- No statement interrupts a run. -/
theorem dispatch_faults {statement : Statement} (h : study.dispatch statement = .error fault) :
    fault ≠ .interrupted := by
  obtain ⟨_, cause, -, -, rfl⟩ := dispatch_eq_error.mp h
  cases cause <;> simp [RunFault.ofDirective]

theorem fill_errored (solids : List ((ObjectKind × String) × Polyhedron)) :
    (study.fill solids).errored = study.errored := by
  induction solids generalizing study with
  | nil => rfl
  | cons solid rest ih =>
    rw [fill, List.foldl_cons]
    refine ih.trans ?_
    cases solid.1.1 <;> rfl

end Study

namespace Job

theorem shown_of_answers {solids : List ((ObjectKind × String) × Polyhedron)}
    (h : List.Forall₂ study.Answers events solids) : shown events = [] := by
  induction h with
  | nil => rfl
  | cons answers _ ih =>
    obtain ⟨_, _, -, rfl, -⟩ := answers
    exact ih

end Job

namespace Stage

/-- A stage that shows nothing while it is performed, and that does not touch the mark. -/
structure Discreet (stage : Stage) : Prop where
  shown_of_gets : ∀ study own next, (stage.perform study).Gets own next → Job.shown own = []
  shown_of_fails : ∀ study own fault, (stage.perform study).Fails own fault → Job.shown own = []
  errored : ∀ study own next, (stage.perform study).Gets own next → next.errored = study.errored

theorem Discreet.shown_failed (discreet : stage.Discreet)
    (fails : (stage.perform study).Fails own fault) (line : String) :
    Job.shown (.logged line :: own) = [] := by
  rw [Job.shown_cons_logged]
  exact discreet.shown_of_fails _ _ _ fails

/-- Of a stage that comes to a good end only the checkpoint after it is seen. -/
theorem Discreet.shown_performed (discreet : stage.Discreet)
    (gets : (stage.perform study).Gets own next) (line : String) (stop : Bool) :
    Job.shown (.logged line :: own ++ .shown next stop :: later) = next :: Job.shown later := by
  rw [List.cons_append, Job.shown_cons_logged, Job.shown_append,
    discreet.shown_of_gets _ _ _ gets, List.nil_append, Job.shown_cons_shown]

theorem inventory_discreet : Discreet .inventory where
  shown_of_gets study own next h := by
    obtain ⟨evaluation, _, rfl, -⟩ := Study.takeInventory_gets_iff.mp h
    rfl
  shown_of_fails study own fault h := by
    obtain ⟨answer, rfl, -⟩ := Study.takeInventory_fails_iff.mp h
    rfl
  errored study own next h := by
    obtain ⟨evaluation, declared, -, -, taken, rfl⟩ := Study.takeInventory_gets_iff.mp h
    obtain ⟨ds, -, -, rfl, -⟩ := Study.declareAll_eq_recordAll taken
    exact Study.recordAll_errored ds

theorem objects_discreet : Discreet .objects where
  shown_of_gets study own next h := by
    obtain ⟨solids, -, answers, -⟩ := Study.realizeObjects_gets_iff.mp h
    exact Job.shown_of_answers answers
  shown_of_fails study own fault h := by
    obtain ⟨solids, _, _, _, _, before, _, -, -, answers, rfl, -⟩ :=
      Study.realizeObjects_fails_iff.mp h
    rw [Job.shown_append, Job.shown_of_answers answers]
    rfl
  errored study own next h := by
    obtain ⟨solids, -, -, rfl⟩ := Study.realizeObjects_gets_iff.mp h
    exact Study.fill_errored solids

theorem discreet_of_mem (listed : stage ∈ all) : stage.Discreet := by
  simp only [all, List.mem_cons, List.not_mem_nil, or_false] at listed
  rcases listed with rfl | rfl
  · exact inventory_discreet
  · exact objects_discreet

/-- A stage that brings a study to its progress, and that nobody can interrupt. -/
structure Regular (stage : Stage) : Prop where
  reached : ∀ study own next, (stage.perform study).Gets own next → next.progress = stage.reaches
  faults : ∀ study own fault, (stage.perform study).Fails own fault → fault ≠ .interrupted

theorem inventory_regular : Regular .inventory where
  reached study own next h := by
    obtain ⟨_, _, -, -, -, rfl⟩ := Study.takeInventory_gets_iff.mp h
    rfl
  faults study own fault h := by
    obtain ⟨answer, -, reason⟩ := Study.takeInventory_fails_iff.mp h
    cases reason with
    | unanswered | unwrapped => simp
    | refused _ _ _ refuses => exact Study.dispatch_faults refuses
    | @incomplete _ mid _ _ _ incomplete =>
      rw [Study.checkComplete] at incomplete
      split_ifs at incomplete <;> cases incomplete <;> simp

theorem objects_regular : Regular .objects where
  reached study own next h := by
    obtain ⟨_, -, -, rfl⟩ := Study.realizeObjects_gets_iff.mp h
    rfl
  faults study own fault h := by
    obtain ⟨_, _, _, _, _, _, _, -, -, -, -, reason⟩ := Study.realizeObjects_fails_iff.mp h
    cases reason <;> simp

theorem regular_of_mem (listed : stage ∈ all) : stage.Regular := by
  simp only [all, List.mem_cons, List.not_mem_nil, or_false] at listed
  rcases listed with rfl | rfl
  · exact inventory_regular
  · exact objects_regular

end Stage

end SolidStudy
