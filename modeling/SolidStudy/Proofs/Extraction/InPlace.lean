import Mathlib
import SolidStudy.Extraction.InPlace
import SolidStudy.Proofs.Directive.InPlace
import SolidStudy.Proofs.Extraction.Answers

/-! The passes of an extraction in place do what the stages of a run do. A pass changes nothing but
its copy before it stores it, so a fault on the way leaves the study that was there. -/
namespace SolidStudy

namespace Edit

def leaving : Study × Except RunFault Unit → EStateM.Result RunFault Study Unit
  | (left, .ok ()) => .ok () left
  | (left, .error fault) => .error fault left

theorem run_dispatchAll (statements : List Statement) (study : Study) :
    (dispatchAll statements).run study = leaving (study.dispatchAll statements) := by
  induction statements generalizing study with
  | nil => rfl
  | cons statement rest ih =>
    rw [dispatchAll, List.forIn_cons]
    simp only [EStateM.run_bind, bind_assoc, pure_bind, run_dispatch, Study.dispatchAll]
    cases study.dispatch statement with
    | ok next => exact ih next
    | error fault => rfl

theorem run_applyInventory (statements : List Statement) (study : Study) :
    (applyInventory statements).run study = leaving (study.applyInventory statements) := by
  rw [applyInventory, EStateM.run_bind, run_dispatchAll, Study.applyInventory]
  obtain ⟨left, result⟩ := study.dispatchAll statements
  cases result with
  | error fault => rfl
  | ok =>
    change EStateM.run (liftM left.checkComplete) left = leaving (left, left.checkComplete)
    cases left.checkComplete with
    | ok => rfl
    | error fault => rfl

end Edit

namespace Pass

theorem run_lift {α : Type} (extraction : Extraction α) (study : Study) :
    (liftM extraction : Pass α).run.run study = (·, study) <$> extraction.run := by
  simp [liftM, monadLift, MonadLift.monadLift]

/-- An extraction that fails in a pass ends the pass, and leaves the study as it was. -/
theorem run_lift_bind {α β : Type} (extraction : Extraction α) (next : α → Pass β) (study : Study) :
    (liftM extraction >>= next : Pass β).run.run study = (do
      match ← extraction.run with
      | .ok a => (next a).run.run study
      | .error fault => return (.error fault, study)) := by
  rw [ExceptT.run_bind, StateT.run_bind, run_lift]
  simp only [map_eq_pure_bind, bind_assoc, pure_bind]
  refine bind_congr fun result => ?_
  cases result with
  | ok a => rfl
  | error fault => rfl

instance : LawfulMonadLift Extraction Pass where
  monadLift_pure a := rfl
  monadLift_bind extraction next := by
    refine ExceptT.ext (StateT.ext fun study => ?_)
    change (liftM (extraction >>= next) : Pass _).run.run study =
      (liftM extraction >>= fun a => liftM (next a) : Pass _).run.run study
    rw [run_lift, run_lift_bind, ExceptT.run_bind, map_bind]
    refine bind_congr fun result => ?_
    cases result with
    | ok a => exact (run_lift (next a) study).symm
    | error fault => rfl

theorem editCopy_applyInventory (study : Study) (statements : List Statement) :
    editCopy study (Edit.applyInventory statements) =
      liftM (liftM (study.declareAll statements) : Extraction Study) := by
  simp only [editCopy, Edit.run_applyInventory, Study.declareAll]
  obtain ⟨left, result⟩ := study.applyInventory statements
  cases result with
  | ok => rfl
  | error fault => rfl

/-- What an extraction gives is stored in the place of the study. -/
def store (extraction : Study → Extraction Study) : Pass Unit := do
  let study ← get
  let next ← liftM (extraction study)
  set next

theorem carryOut_store (stage : Stage) (study : Study) :
    (store stage.perform).carryOut study = stage.carryOut study := by
  change ((liftM (stage.perform study) >>= set : Pass Unit).run.run study >>= _) = _
  rw [run_lift_bind, bind_assoc, Stage.carryOut]
  refine bind_congr fun result => ?_
  cases result with
  | ok next => rfl
  | error fault => rfl

theorem takeInventory_eq_store : takeInventory = store Study.takeInventory := by
  refine bind_congr fun study => ?_
  rw [Study.takeInventory, liftM_bind, bind_assoc]
  refine bind_congr fun evaluation => ?_
  cases evaluation.geometry.isSome with
  | true => rfl
  | false =>
    simp only [Bool.false_eq_true, if_false, liftM_bind, liftM_pure, bind_assoc, pure_bind,
      editCopy_applyInventory]

/-- Geometry goes into the copy, and no question depends on it. -/
theorem forIn_fetchSolid (objects : List (ObjectKind × String)) {study staged : Study}
    (same : staged.fetchSolid = study.fetchSolid) :
    (forIn objects staged fun (object : ObjectKind × String) (staged : Study) => do
      let solid ← (liftM (study.fetchSolid object.1 object.2) : Pass Polyhedron)
      pure (ForInStep.yield (staged.setGeometry object.1 object.2 solid))) =
        (liftM (staged.fetchAll objects) : Pass Study) := by
  induction objects generalizing staged with
  | nil => rw [List.forIn_nil, Study.fetchAll, liftM_pure]
  | cons object rest ih =>
    rw [List.forIn_cons, Study.fetchAll, same, liftM_bind, bind_assoc]
    refine bind_congr fun solid => ?_
    rw [pure_bind]
    exact ih ((Study.fetchSolid_setGeometry solid).trans same)

theorem realizeObjects_eq_store : realizeObjects = store Study.realizeObjects := by
  refine bind_congr fun study => ?_
  rw [Study.realizeObjects, liftM_bind, bind_assoc, ← forIn_fetchSolid _ rfl]
  simp only [liftM_pure, pure_bind]

theorem carryOut_takeInventory (study : Study) :
    takeInventory.carryOut study = Stage.inventory.carryOut study := by
  rw [takeInventory_eq_store]
  exact carryOut_store .inventory study

theorem carryOut_realizeObjects (study : Study) :
    realizeObjects.carryOut study = Stage.objects.carryOut study := by
  rw [realizeObjects_eq_store]
  exact carryOut_store .objects study

end Pass

end SolidStudy
