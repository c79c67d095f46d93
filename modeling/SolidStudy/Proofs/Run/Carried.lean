import Mathlib
import SolidStudy.Proofs.Evaluator.Scope
import SolidStudy.Proofs.Job
import SolidStudy.Proofs.Run.Stages

/-! Runs that nobody interrupts, in a world that gives the answers. Such a run of a new study is its
stages up to the target, one after another, each beginning in the world that the one before left. -/
namespace SolidStudy

variable {World : Type}

/-- A handler that shows nothing and stops at no checkpoint. -/
structure Job.Handler.Quiet (handler : Job.Handler (StateM World)) : Prop where
  log : ∀ line w, (handler.log line).run w = ((), w)
  checkpoint : ∀ study w, (handler.checkpoint study).run w = (false, w)

/-- The stages are performed up to the first that fails. -/
inductive Stage.Carried (handler : Job.Handler (StateM World)) :
    List Stage → Study → World → Outcome → World → Prop
  | done (study : Study) (w : World) : Carried handler [] study w ⟨study, .ok ()⟩ w
  | failed {stage : Stage} {rest : List Stage} {study : Study} {w w' : World} {fault : RunFault}
      (fails : ((stage.perform study).run.perform handler).run w = (.error fault, w')) :
      Carried handler (stage :: rest) study w ⟨study, .error fault⟩ w'
  | performed {stage : Stage} {rest : List Stage} {study next : Study} {w mid w' : World}
      {outcome : Outcome}
      (gets : ((stage.perform study).run.perform handler).run w = (.ok next, mid))
      (h : Carried handler rest next mid outcome w') :
      Carried handler (stage :: rest) study w outcome w'

namespace Stage

variable {handler : Job.Handler (StateM World)} {stages : List Stage} {stage : Stage}
  {study next : Study} {w w' : World} {outcome : Outcome} {target : Progress}

theorem exists_carried (handler : Job.Handler (StateM World)) (stages : List Stage) (study : Study)
    (w : World) : ∃ outcome w', Carried handler stages study w outcome w' := by
  induction stages generalizing study w with
  | nil => exact ⟨_, _, .done study w⟩
  | cons stage rest ih =>
    rcases ran : ((stage.perform study).run.perform handler).run w with ⟨fault | next, mid⟩
    · exact ⟨_, _, .failed ran⟩
    · obtain ⟨outcome, w', h⟩ := ih next mid
      exact ⟨outcome, w', .performed ran h⟩

theorem progress_of_gets (listed : stage ∈ all)
    (gets : ((stage.perform study).run.perform handler).run w = (.ok next, w')) :
    next.progress = stage.reaches := by
  obtain ⟨events, runs, -⟩ := Job.run_perform_iff.mp gets
  exact (regular_of_mem listed).reached study events next runs

/-- Stages that come to a good end bring the study to where the last of them reaches. -/
theorem Carried.progress (h : Carried handler stages study w outcome w')
    (good : outcome.result = .ok ()) (listed : ∀ stage ∈ stages, stage ∈ all) :
    outcome.study.progress = (stages.map (·.reaches)).getLastD study.progress := by
  induction h with
  | done => rfl
  | failed => cases good
  | performed gets _ ih =>
    rw [ih good fun stage member => listed stage (List.mem_cons_of_mem _ member),
      progress_of_gets (listed _ List.mem_cons_self) gets, List.map_cons, List.getLastD_cons]

theorem run_carryOut_of_gets
    (gets : ((stage.perform study).run.perform handler).run w = (.ok next, w')) :
    ((stage.carryOut study).perform handler).run w = (⟨next, .ok ()⟩, w') := by
  rw [carryOut, Job.perform_bind, Evaluator.run_bind_of_run gets]
  rfl

theorem run_carryOut_of_fails {fault : RunFault}
    (fails : ((stage.perform study).run.perform handler).run w = (.error fault, w')) :
    ((stage.carryOut study).perform handler).run w = (⟨study, .error fault⟩, w') := by
  rw [carryOut, Job.perform_bind, Evaluator.run_bind_of_run fails]
  rfl

theorem Carried.runStages
    (h : Carried handler (stages.filter (·.reaches ≤ target)) study w outcome w')
    (quiet : handler.Quiet) (ordered : stages.Pairwise (·.reaches < ·.reaches))
    (listed : ∀ stage ∈ stages, stage ∈ all)
    (ahead : ∀ stage ∈ stages, study.progress < stage.reaches) :
    ((study.runStages target stages).perform handler).run w = (outcome, w') := by
  induction stages generalizing study w with
  | nil =>
    cases h
    rw [Study.runStages, Job.perform, Evaluator.run_bind_of_run (quiet.log _ _)]
    rfl
  | cons stage rest ih =>
    obtain ⟨below, ordered⟩ := List.pairwise_cons.mp ordered
    by_cases within : stage.reaches ≤ target
    · rw [List.filter_cons_of_pos (by simpa using within)] at h
      rw [Study.runStages_of_due ⟨ahead stage List.mem_cons_self, within⟩, Job.perform,
        Evaluator.run_bind_of_run (quiet.log _ _), Job.perform_bind]
      cases h with
      | failed fails =>
        rw [Evaluator.run_bind_of_run (run_carryOut_of_fails fails)]
        rfl
      | @performed _ _ _ next _ _ _ _ gets h =>
        have reached := progress_of_gets (listed stage List.mem_cons_self) gets
        rw [Evaluator.run_bind_of_run (run_carryOut_of_gets gets)]
        dsimp only
        rw [Study.atCheckpoint, Job.perform, Evaluator.run_bind_of_run (quiet.checkpoint _ _)]
        refine ih h ordered (fun stage member => listed stage (List.mem_cons_of_mem _ member)) ?_
        rw [reached]
        exact below
    · rw [List.filter_cons_of_neg (by simpa using within)] at h
      rw [Study.runStages_of_not_due fun due => within due.2]
      exact ih h ordered (fun stage member => listed stage (List.mem_cons_of_mem _ member))
        fun stage member => ahead stage (List.mem_cons_of_mem _ member)

theorem Carried.run {source outputDir : String} (quiet : handler.Quiet)
    (h : Carried handler (all.filter (·.reaches ≤ target)) (.new source outputDir) w outcome w') :
    (((Study.new source outputDir).run target).perform handler).run w = (outcome.mark, w') := by
  have ordered : all.Pairwise (·.reaches < ·.reaches) := by
    simp [all, inventory, objects, show Progress.inventoryDone < .solidsDone by decide]
  have ahead : ∀ stage ∈ all, (Study.new source outputDir).progress < stage.reaches := by
    intro stage listed
    simp only [all, List.mem_cons, List.not_mem_nil, or_false] at listed
    rcases listed with rfl | rfl
    · exact (by decide : Progress.nothingDone < .inventoryDone)
    · exact (by decide : Progress.nothingDone < .solidsDone)
  have begins (study : Study) (job : Job Outcome) : (study.atCheckpoint job).perform handler =
      handler.checkpoint study >>= fun stop =>
        (if stop then .done ⟨study, .error .interrupted⟩ else job).perform handler := rfl
  rw [Study.run, Job.perform_bind, begins, bind_assoc,
    Evaluator.run_bind_of_run (quiet.checkpoint _ _), if_neg Bool.false_ne_true,
    Evaluator.run_bind_of_run (h.runStages quiet ordered (fun _ => id) ahead)]
  rfl

end Stage

end SolidStudy
