import Mathlib
import SolidStudy.Proofs.Extraction.InPlace
import SolidStudy.Proofs.Run.Stages

/-! Faults leave no trace. A stage that fails leaves the study as it was, wherever it fails; a run
that ends in a fault leaves the study that it showed last, and marks it unless it was
interrupted. -/
namespace SolidStudy.Study

variable {target : Progress} {stages : List Stage} {study : Study} {events : List Job.Event}
  {outcome : Outcome}

theorem RunsStages.study_eq (h : RunsStages target stages study events outcome)
    (discreet : ∀ stage ∈ stages, stage.Discreet) :
    outcome.study = (Job.shown events).getLastD study := by
  induction h with
  | closing => rfl
  | skipped _ _ ih => exact ih fun stage listed => discreet stage (List.mem_cons_of_mem _ listed)
  | @failed stage _ _ _ _ _ fails =>
    rw [(discreet stage List.mem_cons_self).shown_failed fails]
    rfl
  | @interrupted stage _ _ _ _ _ gets =>
    rw [(discreet stage List.mem_cons_self).shown_performed gets]
    rfl
  | @performed stage _ _ _ _ _ _ _ gets _ ih =>
    rw [(discreet stage List.mem_cons_self).shown_performed gets, List.getLastD_cons]
    exact ih fun stage listed => discreet stage (List.mem_cons_of_mem _ listed)

theorem RunsStages.errored (h : RunsStages target stages study events outcome)
    (discreet : ∀ stage ∈ stages, stage.Discreet) : outcome.study.errored = study.errored := by
  induction h with
  | closing => rfl
  | skipped _ _ ih => exact ih fun stage listed => discreet stage (List.mem_cons_of_mem _ listed)
  | failed => rfl
  | @interrupted stage _ study next own _ gets =>
    exact (discreet stage List.mem_cons_self).errored study own next gets
  | @performed stage _ study next own _ _ _ gets _ ih =>
    have left := ih fun stage listed => discreet stage (List.mem_cons_of_mem _ listed)
    exact left.trans ((discreet stage List.mem_cons_self).errored study own next gets)

theorem carryOut_fails_iff {stage : Stage} {left : Study} {fault : RunFault} :
    Job.Runs (stage.carryOut study) events ⟨left, .error fault⟩ ↔
      left = study ∧ (stage.perform study).Fails events fault := by
  rw [Stage.carryOut_runs_iff]
  constructor
  · intro given
    rcases given with ⟨next, -, same⟩ | ⟨cause, fails, same⟩
    · cases same
    · cases same
      exact ⟨rfl, fails⟩
  · intro given
    rcases given with ⟨rfl, fails⟩
    exact .inr ⟨fault, fails, rfl⟩

theorem mark_study (outcome : Outcome) :
    (∀ fault, outcome.result = .error fault → fault ≠ .interrupted →
      outcome.mark.study = { outcome.study with errored := true }) ∧
    (outcome.result = .ok () ∨ outcome.result = .error .interrupted →
      outcome.mark.study = outcome.study) ∧ outcome.mark.result = outcome.result := by
  obtain ⟨study, result⟩ := outcome
  cases result with
  | ok => simp [Outcome.mark]
  | error fault => cases fault <;> simp [Outcome.mark]

/-- A run leaves the study that it showed last, and marks it if it ends in a fault that is no
interruption. -/
theorem run_leaves_last_shown (h : Job.Runs (study.run target) events outcome) :
    ∃ last, (Job.shown events).getLast? = some last ∧ last.errored = study.errored ∧
      (∀ fault, outcome.result = .error fault → fault ≠ .interrupted →
        outcome.study = { last with errored := true }) ∧
      (outcome.result = .ok () ∨ outcome.result = .error .interrupted → outcome.study = last) := by
  rcases run_runs_iff.mp h with ⟨rfl, rfl⟩ | ⟨later, ending, rfl, stages, rfl⟩
  · exact ⟨study, rfl, rfl, by simp, fun _ => rfl⟩
  · have left := stages.study_eq fun _ => Stage.discreet_of_mem
    have unmarked := stages.errored fun _ => Stage.discreet_of_mem
    obtain ⟨faulty, sound, same⟩ := mark_study ending
    rw [same]
    exact ⟨ending.study, by simp [left, List.getLast?_cons], unmarked, faulty, sound⟩

/-- The stages are the passes carried out in place. A stage fails in exactly these ways, at every
one of which the study is left as it was; a run that ends in a fault leaves the study shown at its
last checkpoint, marked exactly if it was not interrupted. -/
theorem faults_leave_no_trace (study : Study) (target : Progress) :
    Pass.takeInventory.carryOut study = Stage.inventory.carryOut study ∧
    Pass.realizeObjects.carryOut study = Stage.objects.carryOut study ∧
    (∀ events left fault, Job.Runs (Stage.inventory.carryOut study) events ⟨left, .error fault⟩ ↔
      left = study ∧ ∃ answer, events = [.asked study.inventoryInvocation answer] ∧
        study.InventoryFault answer fault) ∧
    (∀ events left fault, Job.Runs (Stage.objects.carryOut study) events ⟨left, .error fault⟩ ↔
      left = study ∧ ∃ solids kind name rest word before answer,
        study.geometricObjects = solids.map (·.1) ++ (kind, name) :: rest ∧
        kind.geometryWord = some word ∧ List.Forall₂ study.Answers before solids ∧
        events = before ++ [.asked (study.objectInvocation word name) answer] ∧
        ObjectFault kind name answer fault) ∧
    ∀ events outcome, Job.Runs (study.run target) events outcome →
      ∃ last, (Job.shown events).getLast? = some last ∧ last.errored = study.errored ∧
        (∀ fault, outcome.result = .error fault → fault ≠ .interrupted →
          outcome.study = { last with errored := true }) ∧
        (outcome.result = .ok () ∨ outcome.result = .error .interrupted →
          outcome.study = last) := by
  refine ⟨Pass.carryOut_takeInventory study, Pass.carryOut_realizeObjects study,
    fun events left fault => ?_, fun events left fault => ?_, fun events outcome => ?_⟩
  · rw [carryOut_fails_iff]
    exact and_congr_right fun _ => takeInventory_fails_iff
  · rw [carryOut_fails_iff]
    exact and_congr_right fun _ => realizeObjects_fails_iff
  · exact run_leaves_last_shown

/-- An inventory that declares a mesh twice is refused at the second declaration; the study keeps
neither, and is marked. -/
theorem faults_leave_no_trace_declared_twice :
    let block : Statement := [.text Directive.marker, .text "mesh_directive", .text "block"]
    let study := new "part.scad" "/tmp"
    let asked : Job.Event := .asked study.inventoryInvocation (.ok ⟨none, [], [block, block]⟩)
    let fault := RunFault.configuration (.nameInUse .mesh .mesh "block")
    let outcome : Outcome := ⟨{ study with errored := true }, .error fault⟩
    (study.dispatchAll [block]).1.holds .mesh "block" = true ∧
      Job.Runs (Stage.inventory.carryOut study) [asked] ⟨study, .error fault⟩ ∧
      Job.Runs (study.run .solidsDone)
        [.shown study false, .logged Stage.inventory.announcement, asked] outcome ∧
      outcome.study = { study with errored := true } ∧
      outcome.study.holds .mesh "block" = false := by
  intro block study asked fault outcome
  obtain ⟨-, -, inventory, -, runs⟩ := faults_leave_no_trace study .solidsDone
  have split : [block, block] = [block] ++ block :: [] := rfl
  have stage : Job.Runs (Stage.inventory.carryOut study) [asked] ⟨study, .error fault⟩ :=
    (inventory _ _ _).mpr ⟨rfl, _, rfl, .refused rfl split rfl rfl⟩
  have run : Job.Runs (study.run .solidsDone)
      [.shown study false, .logged Stage.inventory.announcement, asked] outcome :=
    .checkpoint false (.log (.ask _ (.done _)))
  obtain ⟨last, shown, -, faulty, -⟩ := runs _ _ run
  cases shown
  exact ⟨rfl, stage, run, faulty fault rfl (by decide), rfl⟩

end SolidStudy.Study
