import SolidStudy.Directive.InPlace
import SolidStudy.Run

/-! The passes of an extraction in place. A pass changes a copy of the study, answer by answer, and
stores it in the place of the study only at its end. -/
namespace SolidStudy

namespace Edit

def dispatchAll (statements : List Statement) : Edit RunFault Unit := do
  for statement in statements do
    let _ ← dispatch statement

/-- The statements of an inventory, one after another, and then the rules for the whole of it. -/
def applyInventory (statements : List Statement) : Edit RunFault Unit := do
  dispatchAll statements
  liftM (← get).checkComplete

end Edit

/-- Steps on the study in its place, which ask the evaluator, up to the first fault. The study that
a fault leaves is kept. -/
abbrev Pass := ExceptT RunFault (StateT Study Job)

namespace Pass

instance : MonadLift Extraction Pass where
  monadLift extraction := ExceptT.mk (liftM extraction.run)

def editCopy (copy : Study) (edit : Edit RunFault Unit) : Pass Study :=
  match edit.run copy with
  | .ok () edited => return edited
  | .error fault _ => throw fault

def takeInventory : Pass Unit := do
  let study ← get
  let evaluation ← liftM (Study.ask study.inventoryInvocation)
  if evaluation.geometry.isSome then throw (.configuration .unwrappedGeometry)
  let mut staged := study
  staged ← editCopy staged (Edit.applyInventory evaluation.statements)
  staged := { staged with progress := .inventoryDone }
  set staged

/-- The evaluator is asked on behalf of the study, while the geometry goes into the copy. -/
def realizeObjects : Pass Unit := do
  let study ← get
  let mut staged := study
  for (kind, name) in study.geometricObjects do
    let solid ← liftM (study.fetchSolid kind name)
    staged := staged.setGeometry kind name solid
  staged := { staged with scale := staged.largestScale }
  staged := { staged with progress := .solidsDone }
  set staged

/-- How the pass ends, and the study that it leaves in the place. -/
def carryOut (pass : Pass Unit) (study : Study) : Job Outcome := do
  let (result, left) ← pass.run.run study
  return ⟨left, result⟩

end Pass

end SolidStudy
