import Mathlib
import SolidStudy.Proofs.Run.Stages

/-! What a run says about itself. It announces each stage before it is performed, and says at its
end that it is done; stages themselves say nothing. So the lines of a run that nobody interrupts
are those of the stages that are due, up to the one that fails if there is one. -/
namespace SolidStudy

def Job.lines (events : List Event) : List String :=
  events.filterMap fun
    | .logged line => some line
    | _ => none

@[simp] theorem Job.lines_nil : lines [] = [] :=
  rfl

@[simp] theorem Job.lines_append (first second : List Event) :
    lines (first ++ second) = lines first ++ lines second :=
  List.filterMap_append

@[simp] theorem Job.lines_cons_logged (line : String) (events : List Event) :
    lines (.logged line :: events) = line :: lines events :=
  rfl

@[simp] theorem Job.lines_cons_shown (study : Study) (stop : Bool) (events : List Event) :
    lines (.shown study stop :: events) = lines events :=
  rfl

@[simp] theorem Job.lines_cons_asked (invocation : Invocation)
    (answer : Except EvaluatorFault Evaluation) (events : List Event) :
    lines (.asked invocation answer :: events) = lines events :=
  rfl

variable {target : Progress} {stage : Stage} {stages : List Stage} {study next reached : Study}
  {events own later : List Job.Event} {outcome : Outcome} {spoken : List String}

theorem Job.lines_of_answers {solids : List ((ObjectKind × String) × Polyhedron)}
    (h : List.Forall₂ study.Answers events solids) : lines events = [] := by
  induction h with
  | nil => rfl
  | cons answers _ ih =>
    obtain ⟨_, _, -, rfl, -⟩ := answers
    exact ih

namespace Stage

instance : Decidable (stage.Due target study) :=
  inferInstanceAs (Decidable (_ ∧ _))

/-- A stage that says nothing while it is performed. -/
structure Wordless (stage : Stage) : Prop where
  lines_of_gets : ∀ study own next, (stage.perform study).Gets own next → Job.lines own = []
  lines_of_fails : ∀ study own fault, (stage.perform study).Fails own fault → Job.lines own = []

theorem inventory_wordless : Wordless .inventory where
  lines_of_gets study own next h := by
    obtain ⟨evaluation, _, rfl, -⟩ := Study.takeInventory_gets_iff.mp h
    rfl
  lines_of_fails study own fault h := by
    obtain ⟨answer, rfl, -⟩ := Study.takeInventory_fails_iff.mp h
    rfl

theorem objects_wordless : Wordless .objects where
  lines_of_gets study own next h := by
    obtain ⟨solids, -, answers, -⟩ := Study.realizeObjects_gets_iff.mp h
    exact Job.lines_of_answers answers
  lines_of_fails study own fault h := by
    obtain ⟨solids, _, _, _, _, before, _, -, -, answers, rfl, -⟩ :=
      Study.realizeObjects_fails_iff.mp h
    rw [Job.lines_append, Job.lines_of_answers answers]
    rfl

theorem wordless_of_mem (listed : stage ∈ all) : stage.Wordless := by
  simp only [all, List.mem_cons, List.not_mem_nil, or_false] at listed
  rcases listed with rfl | rfl
  · exact inventory_wordless
  · exact objects_wordless

/-- All that a run can say. -/
def sayings : List String := closing :: all.map (·.announcement)

theorem announcement_mem_sayings (listed : stage ∈ all) : stage.announcement ∈ sayings :=
  List.mem_cons_of_mem _ (List.mem_map_of_mem listed)

/-- What is due after a stage was due before it. -/
theorem filter_due_of_reached {rest : List Stage} (due : stage.Due target study)
    (reached : next.progress = stage.reaches)
    (beyond : ∀ later ∈ rest, stage.reaches < later.reaches) :
    rest.filter (·.Due target next) = rest.filter (·.Due target study) := by
  refine List.filter_congr fun later listed => ?_
  have above := beyond later listed
  have ahead : study.progress < later.reaches := Nat.lt_trans due.1 above
  simp [Due, reached, above, ahead]

end Stage

namespace Study

theorem RunsStages.lines_mem_sayings (h : RunsStages target stages study events outcome)
    (listed : ∀ stage ∈ stages, stage ∈ Stage.all) :
    ∀ line ∈ Job.lines events, line ∈ Stage.sayings := by
  induction h with
  | closing => simp [Stage.sayings]
  | skipped _ _ ih => exact ih (List.forall_mem_cons.mp listed).2
  | failed _ fails =>
    obtain ⟨own, -⟩ := List.forall_mem_cons.mp listed
    have silent := (Stage.wordless_of_mem own).lines_of_fails _ _ _ fails
    simpa [silent] using Stage.announcement_mem_sayings own
  | interrupted _ gets =>
    obtain ⟨own, -⟩ := List.forall_mem_cons.mp listed
    have silent := (Stage.wordless_of_mem own).lines_of_gets _ _ _ gets
    simpa [silent] using Stage.announcement_mem_sayings own
  | performed _ gets _ ih =>
    obtain ⟨own, others⟩ := List.forall_mem_cons.mp listed
    have silent := (Stage.wordless_of_mem own).lines_of_gets _ _ _ gets
    simpa [silent] using ⟨Stage.announcement_mem_sayings own, ih others⟩

theorem lines_run_mem_sayings (h : Job.Runs (study.run target) events outcome) :
    ∀ line ∈ Job.lines events, line ∈ Stage.sayings := by
  rcases run_runs_iff.mp h with ⟨rfl, -⟩ | ⟨later, ending, rfl, stages, -⟩
  · simp
  · exact stages.lines_mem_sayings fun _ => id

/-- These stages are performed one after another to a good end, and nobody interrupts after any of
them. -/
inductive Performs : List Stage → Study → List Job.Event → Study → Prop
  | nil (study : Study) : Performs [] study [] study
  | cons {stage : Stage} {rest : List Stage} {study next reached : Study}
      {own later : List Job.Event} (gets : (stage.perform study).Gets own next)
      (h : Performs rest next later reached) :
      Performs (stage :: rest) study
        (.logged stage.announcement :: own ++ .shown next false :: later) reached

/-- How a run goes whose due stages are these, if nobody interrupts it, and what it says. -/
inductive Tells : List Stage → Study → List Job.Event → Outcome → List String → Prop
  | succeeded {due : List Stage} {study reached : Study} {events : List Job.Event}
      (performed : Performs due study events reached) :
      Tells due study (events ++ [.logged Stage.closing]) ⟨reached, .ok ()⟩
        (due.map (·.announcement) ++ [Stage.closing])
  /-- The stages after the one that fails are not performed, and not announced. -/
  | failed {before after : List Stage} {stage : Stage} {study reached : Study}
      {events own : List Job.Event} {fault : RunFault}
      (performed : Performs before study events reached)
      (fails : (stage.perform reached).Fails own fault) :
      Tells (before ++ stage :: after) study (events ++ .logged stage.announcement :: own)
        ⟨reached, .error fault⟩ ((before ++ [stage]).map (·.announcement))

theorem Tells.cons (h : Tells stages next later outcome spoken)
    (gets : (stage.perform study).Gets own next) :
    Tells (stage :: stages) study
      (.logged stage.announcement :: own ++ .shown next false :: later) outcome
      (stage.announcement :: spoken) := by
  cases h with
  | @succeeded _ _ _ events performed =>
    have split : .logged stage.announcement :: own ++
        .shown next false :: (events ++ [.logged Stage.closing]) =
        (.logged stage.announcement :: own ++ .shown next false :: events) ++
          [.logged Stage.closing] := by simp
    rw [split]
    exact .succeeded (.cons gets performed)
  | @failed _ _ last _ _ events final _ performed fails =>
    have split : .logged stage.announcement :: own ++
        .shown next false :: (events ++ .logged last.announcement :: final) =
        (.logged stage.announcement :: own ++ .shown next false :: events) ++
          .logged last.announcement :: final := by simp
    rw [split]
    exact .failed (.cons gets performed) fails

theorem RunsStages.tells (h : RunsStages target stages study events outcome)
    (ordered : stages.Pairwise (·.reaches < ·.reaches))
    (listed : ∀ stage ∈ stages, stage ∈ Stage.all)
    (uninterrupted : outcome.result ≠ .error .interrupted) :
    Tells (stages.filter (·.Due target study)) study events outcome (Job.lines events) := by
  induction h with
  | closing study => exact .succeeded (.nil study)
  | skipped passed _ ih =>
    rw [List.filter_cons_of_neg (by simpa using passed)]
    exact ih (List.pairwise_cons.mp ordered).2 (List.forall_mem_cons.mp listed).2 uninterrupted
  | failed due fails =>
    obtain ⟨own, -⟩ := List.forall_mem_cons.mp listed
    have silent := (Stage.wordless_of_mem own).lines_of_fails _ _ _ fails
    rw [List.filter_cons_of_pos (by simpa using due), Job.lines_cons_logged, silent]
    exact .failed (.nil _) fails
  | interrupted => exact absurd rfl uninterrupted
  | performed due gets _ ih =>
    obtain ⟨beyond, ordered⟩ := List.pairwise_cons.mp ordered
    obtain ⟨own, others⟩ := List.forall_mem_cons.mp listed
    have silent := (Stage.wordless_of_mem own).lines_of_gets _ _ _ gets
    have reached := (Stage.regular_of_mem own).reached _ _ _ gets
    have rest := ih ordered others uninterrupted
    rw [Stage.filter_due_of_reached due reached beyond] at rest
    rw [List.filter_cons_of_pos (by simpa using due), List.cons_append, Job.lines_cons_logged,
      Job.lines_append, silent, Job.lines_cons_shown]
    exact rest.cons gets

theorem run_tells (h : Job.Runs (study.run target) events outcome)
    (uninterrupted : outcome.result ≠ .error .interrupted) :
    ∃ later ending, events = .shown study false :: later ∧ outcome = ending.mark ∧
      Tells (Stage.all.filter (·.Due target study)) study later ending (Job.lines events) := by
  rcases run_runs_iff.mp h with ⟨rfl, rfl⟩ | ⟨later, ending, rfl, stages, rfl⟩
  · exact absurd rfl uninterrupted
  · have ordered : Stage.all.Pairwise (·.reaches < ·.reaches) := by
      simp [Stage.all, Stage.inventory, Stage.objects,
        show Progress.inventoryDone < .solidsDone by decide]
    refine ⟨later, ending, rfl, rfl, stages.tells ordered (fun _ => id) fun interrupted => ?_⟩
    rw [Outcome.mark, interrupted] at uninterrupted
    exact uninterrupted interrupted

end Study

end SolidStudy
