import Mathlib
import SolidStudy.Proofs.Job
import SolidStudy.Proofs.Run.Atomicity

/-! Runs that are cut and taken up again. However often a run is interrupted, or sent to a nearer
target first, the runs together ask what one straight run asks, and end as it does. -/
namespace SolidStudy

variable {answer : Invocation → Except EvaluatorFault Evaluation} {target : Progress}
  {stage : Stage} {stages : List Stage} {start study next : Study}
  {events own later : List Job.Event} {outcome last : Outcome}

structure Ladder (stages : List Stage) : Prop where
  rising : stages.Pairwise fun lower upper => lower.reaches ≤ upper.reaches
  regular : ∀ stage ∈ stages, stage.Regular
  discreet : ∀ stage ∈ stages, stage.Discreet

theorem ladder_all : Ladder Stage.all where
  rising := by decide
  regular _ := Stage.regular_of_mem
  discreet _ := Stage.discreet_of_mem

namespace Job

theorem not_mem_of_shown_eq_nil {seen : Study} {stop : Bool} (silent : shown events = []) :
    .shown seen stop ∉ events := by
  intro listed
  have found : seen ∈ shown events := List.mem_filterMap.mpr ⟨_, listed, rfl⟩
  simp [silent] at found

/-- Steps with their own answers are undisturbed where no checkpoint stops them. -/
theorem undisturbed_of_answered (answered : ∀ event ∈ events, event.AnsweredBy answer)
    (unstopped : ∀ seen, .shown seen true ∉ events) :
    ∀ event ∈ events, event.Undisturbed answer := by
  intro event listed
  cases event with
  | logged => trivial
  | shown seen stop =>
    cases stop with
    | false => rfl
    | true => exact absurd listed (unstopped seen)
  | asked => exact answered _ listed

end Job

namespace Ladder

variable (ladder : Ladder (stage :: stages))
include ladder

theorem tail : Ladder stages where
  rising := (List.pairwise_cons.mp ladder.rising).2
  regular upper listed := ladder.regular upper (List.mem_cons_of_mem _ listed)
  discreet upper listed := ladder.discreet upper (List.mem_cons_of_mem _ listed)

theorem reached (gets : (stage.perform study).Gets own next) : next.progress = stage.reaches :=
  (ladder.regular stage List.mem_cons_self).reached study own next gets

theorem reaches_le (gets : (stage.perform study).Gets own next) :
    stage.reaches ≤ next.progress := by
  rw [ladder.reached gets]
  exact Nat.le_refl _

theorem faults {fault : RunFault} (fails : (stage.perform study).Fails own fault) :
    fault ≠ .interrupted :=
  (ladder.regular stage List.mem_cons_self).faults study own fault fails

theorem unstopped (gets : (stage.perform study).Gets own next) (seen : Study) :
    .shown seen true ∉ own :=
  Job.not_mem_of_shown_eq_nil ((ladder.discreet stage List.mem_cons_self).shown_of_gets _ _ _ gets)

theorem unstopped_failed {fault : RunFault} (fails : (stage.perform study).Fails own fault)
    (seen : Study) : .shown seen true ∉ own :=
  Job.not_mem_of_shown_eq_nil
    ((ladder.discreet stage List.mem_cons_self).shown_of_fails _ _ _ fails)

end Ladder

namespace Study

theorem le_solidsDone (p : Progress) : p ≤ .solidsDone := by
  cases p <;> decide

theorem not_due_of_le (reached : stage.reaches ≤ study.progress) :
    ¬ stage.Due target study :=
  fun due => absurd due.1 (Nat.not_lt.mpr reached)

namespace RunsStages

theorem progress_le (ladder : Ladder stages)
    (h : RunsStages target stages study events outcome) :
    study.progress ≤ outcome.study.progress := by
  induction h with
  | closing => exact Nat.le_refl _
  | skipped _ _ ih => exact ih ladder.tail
  | failed => exact Nat.le_refl _
  | interrupted due gets =>
    rw [ladder.reached gets]
    exact Nat.le_of_lt due.1
  | performed due gets _ ih =>
    have onwards := ih ladder.tail
    rw [ladder.reached gets] at onwards
    exact Nat.le_trans (Nat.le_of_lt due.1) onwards

theorem of_not_due (passed : ∀ stage ∈ stages, ¬ stage.Due target study)
    (h : RunsStages target stages study events outcome) :
    events = [.logged Stage.closing] ∧ outcome = ⟨study, .ok ()⟩ := by
  induction h with
  | closing => exact ⟨rfl, rfl⟩
  | skipped _ _ ih => exact ih fun stage listed => passed stage (List.mem_cons_of_mem _ listed)
  | failed due | interrupted due | performed due => exact absurd due (passed _ List.mem_cons_self)

theorem skip (passed : ¬ stage.Due target study)
    (h : RunsStages target (stage :: stages) study events outcome) :
    RunsStages target stages study events outcome := by
  cases h with
  | skipped _ h => exact h
  | failed due | interrupted due | performed due => exact absurd due passed

theorem complete (ladder : Ladder stages)
    (h : RunsStages target stages study events outcome) (ended : outcome.result = .ok ()) :
    ∀ stage ∈ stages, stage.reaches ≤ target → stage.reaches ≤ outcome.study.progress := by
  induction h with
  | closing => simp
  | @skipped stage rest study _ _ passed h ih =>
    have before := h.progress_le ladder.tail
    refine List.forall_mem_cons.mpr ⟨fun wanted => ?_, ih ladder.tail ended⟩
    exact Nat.le_trans (Nat.not_lt.mp fun below => passed ⟨below, wanted⟩) before
  | failed | interrupted => cases ended
  | performed _ gets h ih =>
    have before := h.progress_le ladder.tail
    rw [ladder.reached gets] at before
    exact List.forall_mem_cons.mpr ⟨fun _ => before, ih ladder.tail ended⟩

theorem not_stopped (ladder : Ladder stages)
    (h : RunsStages target stages study events outcome)
    (ended : outcome.result ≠ .error .interrupted) (seen : Study) :
    .shown seen true ∉ events := by
  induction h with
  | closing => simp
  | skipped _ _ ih => exact ih ladder.tail ended
  | failed _ fails => simpa using ladder.unstopped_failed fails seen
  | interrupted => exact absurd rfl ended
  | performed _ gets _ ih => simpa using ⟨ladder.unstopped gets seen, ih ladder.tail ended⟩

/-- Where some stages ended well or were interrupted, all stages can go on from there as they would
have done from the beginning. -/
theorem resumed (ladder : Ladder stages) (h : RunsStages target stages study own outcome)
    (sound : outcome.result = .ok () ∨ outcome.result = .error .interrupted)
    (answered : ∀ event ∈ own, event.AnsweredBy answer)
    (onwards : RunsStages .solidsDone stages outcome.study later last)
    (undisturbed : ∀ event ∈ later, event.Undisturbed answer) :
    ∃ whole, RunsStages .solidsDone stages study whole last ∧
      (∀ event ∈ whole, event.Undisturbed answer) ∧
      Job.asked whole = Job.asked own ++ Job.asked later := by
  induction h with
  | closing => exact ⟨later, onwards, undisturbed, rfl⟩
  | @skipped stage rest study own outcome passed h ih =>
    by_cases wanted : stage.reaches ≤ target
    · -- The stage was done before, and it still is.
      have reached : stage.reaches ≤ study.progress :=
        Nat.not_lt.mp fun below => passed ⟨below, wanted⟩
      have still := Nat.le_trans reached (h.progress_le ladder.tail)
      obtain ⟨whole, stages, free, same⟩ :=
        ih ladder.tail sound answered (onwards.skip (not_due_of_le still))
      exact ⟨whole, .skipped (not_due_of_le reached) stages, free, same⟩
    · -- The stage is beyond the target, and so are all after it.
      have beyond : ∀ upper ∈ rest, ¬ upper.Due target study := fun upper listed due =>
        wanted (Nat.le_trans ((List.pairwise_cons.mp ladder.rising).1 upper listed) due.2)
      obtain ⟨rfl, rfl⟩ := h.of_not_due beyond
      exact ⟨later, onwards, undisturbed, rfl⟩
  | failed due fails =>
    rcases sound with ended | stopped
    · cases ended
    · exact absurd (Except.error.inj stopped) (ladder.faults fails)
  | interrupted due gets =>
    have onwards := onwards.skip (not_due_of_le (ladder.reaches_le gets))
    have own := Job.undisturbed_of_answered (fun event listed => answered event (by simp [listed]))
      (ladder.unstopped gets)
    refine ⟨_, .performed ⟨due.1, le_solidsDone _⟩ gets onwards, ?_, by simp⟩
    simp only [List.cons_append, List.forall_mem_cons, List.forall_mem_append]
    exact ⟨trivial, own, rfl, undisturbed⟩
  | performed due gets h ih =>
    have before := h.progress_le ladder.tail
    rw [ladder.reached gets] at before
    have own := Job.undisturbed_of_answered (fun event listed => answered event (by simp [listed]))
      (ladder.unstopped gets)
    obtain ⟨whole, stages, free, same⟩ := ih ladder.tail sound
      (fun event listed => answered event (by simp [listed])) (onwards.skip (not_due_of_le before))
    refine ⟨_, .performed ⟨due.1, le_solidsDone _⟩ gets stages, ?_, by simp [same]⟩
    simp only [List.cons_append, List.forall_mem_cons, List.forall_mem_append]
    exact ⟨trivial, own, rfl, free⟩

end RunsStages

/-- After a run that ended well or was interrupted, a run to the last stage goes on as it would
have done in its place. -/
theorem run_resumed (h : Job.Runs (study.run target) own outcome)
    (sound : outcome.result = .ok () ∨ outcome.result = .error .interrupted)
    (answered : ∀ event ∈ own, event.AnsweredBy answer)
    (onwards : Job.Runs (outcome.study.run .solidsDone) later last)
    (undisturbed : ∀ event ∈ later, event.Undisturbed answer) :
    ∃ whole, Job.Runs (study.run .solidsDone) whole last ∧
      (∀ event ∈ whole, event.Undisturbed answer) ∧
      Job.asked whole = Job.asked own ++ Job.asked later := by
  rcases run_runs_iff.mp h with ⟨rfl, rfl⟩ | ⟨own, reached, rfl, first, rfl⟩
  · exact ⟨later, onwards, undisturbed, rfl⟩
  · obtain ⟨-, unmarked, same⟩ := mark_study reached
    rw [same] at sound
    rw [unmarked sound] at onwards
    rcases run_runs_iff.mp onwards with ⟨rfl, -⟩ | ⟨later, ending, rfl, second, rfl⟩
    · exact absurd (undisturbed _ List.mem_cons_self) (by simp [Job.Event.Undisturbed])
    · obtain ⟨whole, stages, free, asked⟩ := first.resumed ladder_all sound
        (fun event listed => answered event (List.mem_cons_of_mem _ listed)) second
        fun event listed => undisturbed event (List.mem_cons_of_mem _ listed)
      refine ⟨_, run_runs_iff.mpr (.inr ⟨whole, ending, rfl, stages, rfl⟩), ?_, by simp [asked]⟩
      exact List.forall_mem_cons.mpr ⟨rfl, free⟩

theorem run_not_stopped (h : Job.Runs (study.run target) events outcome)
    (ended : outcome.result ≠ .error .interrupted) (seen : Study) : .shown seen true ∉ events := by
  rcases run_runs_iff.mp h with ⟨rfl, rfl⟩ | ⟨later, ending, rfl, stages, rfl⟩
  · exact absurd rfl ended
  · rw [(mark_study ending).2.2] at ended
    simpa using stages.not_stopped ladder_all ended seen

/-- A study whose run came to a good end has nothing left to do. -/
theorem run_again (h : Job.Runs (study.run .solidsDone) events outcome)
    (ended : outcome.result = .ok ())
    (again : Job.Runs (outcome.study.run .solidsDone) later last) :
    Job.asked later = [] ∧ (last = outcome ∨ last = ⟨outcome.study, .error .interrupted⟩) := by
  rcases run_runs_iff.mp h with ⟨-, rfl⟩ | ⟨_, ending, -, stages, rfl⟩
  · cases ended
  · obtain ⟨-, unmarked, same⟩ := mark_study ending
    rw [same] at ended
    have left := unmarked (.inl ended)
    have passed : ∀ stage ∈ Stage.all, ¬ stage.Due .solidsDone ending.study :=
      fun stage listed =>
        not_due_of_le (stages.complete ladder_all ended stage listed (le_solidsDone _))
    rw [left] at again ⊢
    rcases run_runs_iff.mp again with ⟨rfl, rfl⟩ | ⟨_, _, rfl, further, rfl⟩
    · exact ⟨rfl, .inr rfl⟩
    · obtain ⟨rfl, rfl⟩ := further.of_not_due passed
      refine ⟨rfl, .inl ?_⟩
      obtain ⟨study, result⟩ := ending
      cases ended
      rfl

/-- Runs one after another, each on the study that the run before left, that end well or are
interrupted. -/
inductive Legs (answer : Invocation → Except EvaluatorFault Evaluation) (start : Study) :
    List Job.Event → Study → Prop
  | none : Legs answer start [] start
  | run {events own : List Job.Event} {study : Study} {outcome : Outcome}
      (earlier : Legs answer start events study) (target : Progress)
      (runs : Job.Runs (study.run target) own outcome)
      (answered : ∀ event ∈ own, event.AnsweredBy answer)
      (sound : outcome.result = .ok () ∨ outcome.result = .error .interrupted) :
      Legs answer start (events ++ own) outcome.study

theorem Legs.resumed (legs : Legs answer start events study)
    (onwards : Job.Runs (study.run .solidsDone) later last)
    (undisturbed : ∀ event ∈ later, event.Undisturbed answer) :
    ∃ whole, Job.Runs (start.run .solidsDone) whole last ∧
      (∀ event ∈ whole, event.Undisturbed answer) ∧
      Job.asked whole = Job.asked events ++ Job.asked later := by
  induction legs generalizing later with
  | none => exact ⟨later, onwards, undisturbed, rfl⟩
  | run earlier target runs answered sound ih =>
    obtain ⟨rest, restRuns, free, same⟩ := run_resumed runs sound answered onwards undisturbed
    obtain ⟨whole, wholeRuns, free, asked⟩ := ih restRuns free
    exact ⟨whole, wholeRuns, free, by rw [asked, same, Job.asked_append, List.append_assoc]⟩

/-- After runs to any targets, interrupted or not, a run to the last stage that is not interrupted
ends like the one straight run: with the same result and the same study. All runs together ask what
the straight run asks. Once it ended well, another run asks nothing and leaves the study as it
is. -/
theorem resuming_is_invisible (legs : Legs answer start events study)
    (runs : Job.Runs (study.run .solidsDone) own outcome)
    (answered : ∀ event ∈ own, event.AnsweredBy answer)
    (ended : outcome.result ≠ .error .interrupted) :
    outcome = ((start.run .solidsDone).straight answer).2 ∧
      Job.asked (events ++ own) = Job.asked ((start.run .solidsDone).straight answer).1 ∧
      (outcome.result = .ok () → ∀ later last,
        Job.Runs (outcome.study.run .solidsDone) later last →
        Job.asked later = [] ∧ (last = outcome ∨ last = ⟨outcome.study, .error .interrupted⟩)) := by
  have own := Job.undisturbed_of_answered answered (run_not_stopped runs ended)
  obtain ⟨whole, wholeRuns, free, asked⟩ := legs.resumed runs own
  rw [Job.straight_eq_of_runs wholeRuns free, Job.asked_append, asked]
  exact ⟨rfl, rfl, fun sound _ _ => run_again runs sound⟩

/-- A run is interrupted after the inventory, the next one after the objects, so that a third one
finds nothing left to do. -/
theorem resuming_is_invisible_cut_twice :
    let analysis : Statement := [.text Directive.marker, .text "analysis_directive",
      .vector [.text "*STEP"], .vector [.text "mm", .text "t", .text "s"]]
    let block : Statement := [.text Directive.marker, .text "mesh_directive", .text "block"]
    let solid : Polyhedron := ⟨[⟨0, 0, 0⟩, ⟨1, 0, 0⟩, ⟨0, 1, 0⟩], [[0, 1, 2]]⟩
    let answer (invocation : Invocation) : Except EvaluatorFault Evaluation :=
      if invocation.stem = inventoryWord then .ok ⟨none, [], [analysis, block]⟩
      else .ok ⟨some solid, [], []⟩
    let fresh := new "part.scad" "/tmp"
    let listed := { fresh with
      progress := .inventoryDone
      deck := ["*STEP"]
      units := some ⟨⟨"mm", .length, 1e-3⟩, ⟨"t", .mass, 1e3⟩, ⟨"s", .time, 1⟩⟩
      meshes := ⟨[("block", ⟨.automatic, none⟩)], List.pairwise_singleton _ _⟩ }
    let meshed : Table Mesh := ⟨[("block", ⟨.automatic, some solid⟩)], List.pairwise_singleton _ _⟩
    let ended := { listed with
      progress := .solidsDone
      meshes := meshed
      scale := { listed with meshes := meshed }.largestScale }
    let questions := [fresh.inventoryInvocation, fresh.objectInvocation "mesh" "block"]
    (∃ events, Legs answer fresh events ended ∧ Job.asked events = questions) ∧
      Job.Runs (ended.run .solidsDone) [.shown ended false, .logged Stage.closing]
        ⟨ended, .ok ()⟩ ∧
      ((fresh.run .solidsDone).straight answer).2 = ⟨ended, .ok ()⟩ ∧
      Job.asked ((fresh.run .solidsDone).straight answer).1 = questions := by
  intro analysis block solid answer fresh listed meshed ended questions
  have first : Job.Runs (fresh.run .solidsDone) [.shown fresh false,
      .logged Stage.inventory.announcement,
      .asked fresh.inventoryInvocation (.ok ⟨none, [], [analysis, block]⟩), .shown listed true]
      ⟨listed, .error .interrupted⟩ :=
    .checkpoint false (.log (.ask _ (.checkpoint true (.done _))))
  have second : Job.Runs (listed.run .solidsDone) [.shown listed false,
      .logged Stage.objects.announcement,
      .asked (listed.objectInvocation "mesh" "block") (.ok ⟨some solid, [], []⟩),
      .shown ended true] ⟨ended, .error .interrupted⟩ :=
    .checkpoint false (.log (.ask _ (.checkpoint true (.done _))))
  have third : Job.Runs (ended.run .solidsDone) [.shown ended false, .logged Stage.closing]
      ⟨ended, .ok ()⟩ :=
    .checkpoint false (.log (.done _))
  have inventoryAnswered : answer fresh.inventoryInvocation =
      .ok ⟨none, [], [analysis, block]⟩ := rfl
  have objectAnswered : answer (listed.objectInvocation "mesh" "block") =
      .ok ⟨some solid, [], []⟩ := rfl
  have begun : Legs answer fresh [] fresh := .none
  have once := begun.run _ first (by simp [Job.Event.AnsweredBy, inventoryAnswered]) (.inr rfl)
  have twice := once.run _ second (by simp [Job.Event.AnsweredBy, objectAnswered]) (.inr rfl)
  obtain ⟨same, asked, -⟩ := resuming_is_invisible twice third
    (by simp [Job.Event.AnsweredBy]) (by simp)
  exact ⟨⟨_, twice, rfl⟩, third, same.symm, asked.symm⟩

end Study

end SolidStudy
