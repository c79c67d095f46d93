import SolidStudy.Extraction

/-! Running a study up to a target. The stages that are not done yet are performed in their order,
with a checkpoint before the first and after each of them. A stage that fails leaves the study as
it was before the stage. -/
namespace SolidStudy

/-- A step of a run that raises the progress of a study. -/
structure Stage where
  reaches : Progress
  announcement : String
  perform : Study → Extraction Study

def Stage.inventory : Stage := ⟨.inventoryDone, "Extracting inventory...", Study.takeInventory⟩

def Stage.objects : Stage := ⟨.solidsDone, "Extracting objects...", Study.realizeObjects⟩

def Stage.all : List Stage := [.inventory, .objects]

/-- The line that ends the log of a run that reached its target. -/
def Stage.closing : String := "Done."

structure Outcome where
  study : Study
  result : Except RunFault Unit

namespace Outcome

/-- A study is marked by every fault but an interruption. -/
def mark (outcome : Outcome) : Outcome :=
  match outcome.result with
  | .ok () | .error .interrupted => outcome
  | .error _ => { outcome with study := { outcome.study with errored := true } }

end Outcome

/-- A stage in place: the study is replaced if the stage comes to a good end. -/
def Stage.carryOut (stage : Stage) (study : Study) : Job Outcome := do
  match ← (stage.perform study).run with
  | .ok next => return ⟨next, .ok ()⟩
  | .error fault => return ⟨study, .error fault⟩

namespace Study

/-- Stops at the study if the run is interrupted here. -/
def atCheckpoint (study : Study) (next : Job Outcome) : Job Outcome :=
  .checkpoint study fun stop => if stop then .done ⟨study, .error .interrupted⟩ else next

/-- The stages that are not done and not beyond the target. -/
def runStages (target : Progress) : List Stage → Study → Job Outcome
  | [], study => .log Stage.closing (.done ⟨study, .ok ()⟩)
  | stage :: rest, study =>
    if study.progress < stage.reaches ∧ stage.reaches ≤ target then
      .log stage.announcement do
        let outcome ← stage.carryOut study
        match outcome.result with
        | .ok () => atCheckpoint outcome.study (runStages target rest outcome.study)
        | .error _ => return outcome
    else runStages target rest study

def run (study : Study) (target : Progress) : Job Outcome := do
  return (← atCheckpoint study (runStages target Stage.all study)).mark

end Study

end SolidStudy
