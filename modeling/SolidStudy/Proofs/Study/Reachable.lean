import Mathlib
import SolidStudy.Proofs.Extraction.Answers
import SolidStudy.Proofs.Study.Names

/-! The studies that come of a new one by statements, which may be refused, and by extractions of
their objects, which may fail. All of them keep their names apart. -/
namespace SolidStudy.Study

variable {source outputDir : String} {study next : Study}

/-- The study after a step. A step that fails changes nothing. -/
def after (study : Study) : Except RunFault Study → Study
  | .ok next => next
  | .error _ => study

/-- The study after a statement, which it may refuse. -/
def attempt (study : Study) (statement : Statement) : Study :=
  study.after (study.dispatch statement)

inductive Reachable (source outputDir : String) : Study → Prop
  | new : Reachable source outputDir (new source outputDir)
  | attempt {study : Study} (h : Reachable source outputDir study) (statement : Statement) :
      Reachable source outputDir (study.attempt statement)
  | realize {study : Study} (h : Reachable source outputDir study) {events : List Job.Event}
      {result : Except RunFault Study} (runs : Job.Runs study.realizeObjects.run events result) :
      Reachable source outputDir (study.after result)

theorem holds_fill (solids : List ((ObjectKind × String) × Polyhedron)) :
    (study.fill solids).holds = study.holds := by
  induction solids generalizing study with
  | nil => rfl
  | cons solid rest ih =>
    rw [fill, List.foldl_cons]
    exact ih.trans (holds_setGeometry solid.2)

theorem holds_of_realizeObjects {events : List Job.Event}
    (h : study.realizeObjects.Gets events next) : next.holds = study.holds := by
  obtain ⟨solids, -, -, rfl⟩ := realizeObjects_gets_iff.mp h
  exact holds_fill solids

theorem NamesApart.attempt (h : study.NamesApart) (statement : Statement) :
    (study.attempt statement).NamesApart := by
  rw [Study.attempt]
  cases taken : study.dispatch statement with
  | ok next => exact h.dispatch taken
  | error fault => exact h

theorem NamesApart.realize (h : study.NamesApart) {events : List Job.Event}
    {result : Except RunFault Study} (runs : Job.Runs study.realizeObjects.run events result) :
    (study.after result).NamesApart := by
  cases result with
  | ok next => exact h.of_holds_eq (holds_of_realizeObjects runs)
  | error fault => exact h

theorem Reachable.namesApart (h : Reachable source outputDir study) : study.NamesApart := by
  induction h with
  | new => exact .new source outputDir
  | attempt _ statement ih => exact ih.attempt statement
  | realize _ runs ih => exact ih.realize runs

/-- Every name of a reachable study is plain and belongs to one kind only, and all look-ups agree
about it. -/
theorem names_unique (h : Reachable source outputDir study) :
    (∀ kind name, study.holds kind name = true → PlainName name) ∧
    (∀ kind other name,
      study.holds kind name = true → study.holds other name = true → kind = other) ∧
    ∀ name,
      (∀ kind, study.kindOf name = some kind ↔ study.holds kind name = true) ∧
      ((study.volumeObject? name).isSome = true ↔
        study.kindOf name = some .mesh ∨ study.kindOf name = some .volume) ∧
      (∀ object, study.volumeObject? name = some object ↔
        (∃ mesh, study.meshes.get? name = some mesh ∧ object = .mesh mesh) ∨
        ∃ selection, study.volumes.get? name = some selection ∧ object = .selection selection) ∧
      ((study.surfaceObject? name).isSome = true ↔ study.kindOf name = some .surface) ∧
      ((study.object? name).isSome = true ↔
        study.kindOf name = some .mesh ∨ study.kindOf name = some .volume ∨
          study.kindOf name = some .surface) := by
  have names := h.namesApart
  refine ⟨names.plain, names.apart, fun name => ⟨?_, ?_, ?_, ?_, ?_⟩⟩
  · exact fun kind => names.kindOf_eq_some_iff
  · rw [volumeObject?_isSome_iff, names.kindOf_eq_some_iff, names.kindOf_eq_some_iff]
  · exact fun object => names.volumeObject?_eq_some_iff
  · rw [surfaceObject?_isSome_iff, names.kindOf_eq_some_iff]
  · exact object?_isSome_iff

/-- A name that is declared twice stays with the mesh that took it first, also when the mesh gets
its geometry. -/
theorem names_unique_declared_twice :
    let declared := ((new "part.scad" "/tmp").attempt
      [.text Directive.marker, .text "mesh_directive", .text "block"]).attempt
        [.text Directive.marker, .text "select_volume_directive", .text "block"]
    let realized := declared.setGeometry .mesh "block"
      ⟨[⟨0, 0, 0⟩, ⟨1, 0, 0⟩, ⟨0, 1, 0⟩], [[0, 1, 2]]⟩
    let study := { realized with scale := realized.largestScale, progress := .solidsDone }
    Reachable "part.scad" "/tmp" study ∧ study.holds .mesh "block" = true ∧ PlainName "block" ∧
      study.holds .volume "block" = false ∧ study.kindOf "block" = some .mesh ∧
      (study.volumeObject? "block").isSome = true := by
  intro declared realized study
  have objects : declared.geometricObjects = [(.mesh, "block")] := by rfl
  have runs : ∃ events, Job.Runs declared.realizeObjects.run events (.ok study) := by
    rw [realizeObjects, objects]
    exact ⟨[.asked _ _], .ask (.ok ⟨some _, [], []⟩) (.done _)⟩
  obtain ⟨events, runs⟩ := runs
  have reached : Reachable "part.scad" "/tmp" study :=
    ((Reachable.new.attempt _).attempt _).realize runs
  obtain ⟨plain, apart, agree⟩ := names_unique reached
  obtain ⟨kind, volume, -⟩ := agree "block"
  have held : study.holds .mesh "block" = true := by rfl
  refine ⟨reached, held, plain .mesh "block" held, ?_, (kind .mesh).mpr held,
    volume.mpr (.inl ((kind .mesh).mpr held))⟩
  rw [Bool.eq_false_iff]
  intro twice
  have same := apart .mesh .volume "block" held twice
  contradiction

end SolidStudy.Study
