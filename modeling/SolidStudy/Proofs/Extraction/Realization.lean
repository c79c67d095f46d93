import Mathlib
import SolidStudy.Proofs.Extraction.Confinement

/-! What an extraction of the objects does to a study. Every object with geometry is asked for once,
in a fixed order, and gets the geometry that was answered to its own question; the rest of the study
stays as it was. The first answer without geometry is the last one that is waited for. -/
namespace SolidStudy

namespace Study

variable {study next : Study} {events : List Job.Event} {kind : ObjectKind} {name word : String}

theorem geometricObjects_nodup (study : Study) : study.geometricObjects.Nodup := by
  have each {α : Type} (t : Table α) (kind : ObjectKind) : (t.names.map (kind, ·)).Nodup :=
    kind.nodup_names t.names_nodup
  simp [geometricObjects, List.nodup_append', each, ObjectKind.disjoint_names]

/-- The questions for all objects with geometry: meshes, volumes and surfaces, each by name. -/
def questions (study : Study) : List Invocation :=
  study.meshes.names.map (study.objectInvocation "mesh") ++
    study.volumes.names.map (study.objectInvocation "select_volume") ++
    study.surfaces.names.map (study.objectInvocation "select_surface")

def question? (study : Study) (o : ObjectKind × String) : Option Invocation :=
  o.1.geometryWord.map (study.objectInvocation · o.2)

theorem questions_eq (study : Study) :
    study.questions = study.geometricObjects.filterMap study.question? := by
  have asks (kind : ObjectKind) {word : String} (spelled : kind.geometryWord = some word)
      (names : List String) : (names.map (kind, ·)).filterMap study.question? =
        names.map (study.objectInvocation word) := by
    simp [List.filterMap_map, Function.comp_def, question?, spelled]
  rw [questions, geometricObjects, List.filterMap_append, List.filterMap_append,
    asks .mesh rfl, asks .volume rfl, asks .surface rfl]

theorem mode?_objectInvocation (study : Study) (word name : String) :
    (study.objectInvocation word name).mode? = some (.ofStrings [word, name]) :=
  (Table.get?_insert ..).trans (if_pos rfl)

theorem geometryWord_inj {other : ObjectKind} (spelled : kind.geometryWord = some word)
    (same : other.geometryWord = some word) : kind = other := by
  cases kind <;> cases spelled <;> cases other <;> first | rfl | exact absurd same (by decide)

/-- No two objects share a question, also if they share a name. -/
theorem question?_inj {o o' : ObjectKind × String} {invocation : Invocation}
    (h : invocation ∈ study.question? o) (h' : invocation ∈ study.question? o') : o = o' := by
  obtain ⟨word, spelled, rfl⟩ := Option.map_eq_some_iff.mp h
  obtain ⟨word', spelled', same⟩ := Option.map_eq_some_iff.mp h'
  have mode := congrArg Invocation.mode? same
  rw [mode?_objectInvocation, mode?_objectInvocation] at mode
  have both : word' = word ∧ o'.2 = o.2 := by simpa [Value.ofStrings] using mode
  exact Prod.ext (geometryWord_inj spelled (both.1 ▸ spelled')) both.2.symm

theorem questions_nodup (study : Study) : study.questions.Nodup := by
  rw [questions_eq]
  exact study.geometricObjects_nodup.filterMap fun o o' invocation => question?_inj

theorem eq_filterMap_of_asked {invocations : List Invocation}
    {objects : List (ObjectKind × String)}
    (asked : List.Forall₂ study.AsksForObject invocations objects) :
    invocations = objects.filterMap study.question? := by
  induction asked with
  | nil => rfl
  | cons asks _ ih =>
    obtain ⟨word, spelled, rfl⟩ := asks
    rw [List.filterMap_cons, question?, spelled, ← ih]
    rfl

/-- The study with geometry for all its objects. -/
def realized (study : Study) (geometry : ObjectKind → String → Polyhedron) : Study :=
  { study with
    meshes := study.meshes.mapWithName fun name o => { o with solid := geometry .mesh name }
    volumes := study.volumes.mapWithName fun name o => { o with mask := geometry .volume name }
    surfaces := study.surfaces.mapWithName fun name o => { o with mask := geometry .surface name }
    scale := (study.meshes.names.map fun name => (geometry .mesh name).scale).foldl greater 0
    progress := .solidsDone }

/-- Each step asks for one of the objects and is answered with its geometry. -/
def AnswersEach (study : Study) (geometry : ObjectKind → String → Polyhedron) :
    List Job.Event → List (ObjectKind × String) → Prop :=
  List.Forall₂ fun event o => study.Answers event (o, geometry o.1 o.2)

/-- Solids of different objects are the values of a function of the object. -/
theorem exists_geometry {solids : List ((ObjectKind × String) × Polyhedron)}
    (distinct : (solids.map (·.1)).Nodup) : ∃ geometry : ObjectKind → String → Polyhedron,
      solids = (solids.map (·.1)).map fun o => (o, geometry o.1 o.2) := by
  induction solids with
  | nil => exact ⟨fun _ _ => ⟨[], []⟩, rfl⟩
  | cons solid rest ih =>
    obtain ⟨fresh, distinct⟩ := List.nodup_cons.mp distinct
    obtain ⟨geometry, same⟩ := ih distinct
    refine ⟨fun kind name => if (kind, name) = solid.1 then solid.2 else geometry kind name, ?_⟩
    have own : solid = (solid.1, if solid.1 = solid.1 then solid.2
        else geometry solid.1.1 solid.1.2) := by rw [if_pos rfl]
    refine List.cons_eq_cons.mpr ⟨own, same.trans (List.map_congr_left fun o listed => ?_)⟩
    exact congrArg (o, ·) (if_neg (ne_of_mem_of_not_mem listed fresh)).symm

theorem fill_map (geometry : ObjectKind → String → Polyhedron)
    (objects : List (ObjectKind × String)) :
    study.fill (objects.map fun o => (o, geometry o.1 o.2)) = { study with
      meshes := study.meshes.mapWithName fun name o =>
        if (.mesh, name) ∈ objects then { o with solid := geometry .mesh name } else o
      volumes := study.volumes.mapWithName fun name o =>
        if (.volume, name) ∈ objects then { o with mask := geometry .volume name } else o
      surfaces := study.surfaces.mapWithName fun name o =>
        if (.surface, name) ∈ objects then { o with mask := geometry .surface name } else o } := by
  induction objects generalizing study with
  | nil => simp [fill, Table.mapWithName_self]
  | cons object rest ih =>
    obtain ⟨kind, first⟩ := object
    rw [List.map_cons, fill, List.foldl_cons, ← fill, ih]
    cases kind with
    | mesh =>
      have meshes := Table.mapWithName_modify_self study.meshes
        (fun name o => { o with solid := some (geometry .mesh name) })
        (fun name => (.mesh, name) ∈ rest) (fun _ _ => rfl) first
      simp [setGeometry, meshes]
    | volume =>
      have volumes := Table.mapWithName_modify_self study.volumes
        (fun name o => { o with mask := some (geometry .volume name) })
        (fun name => (.volume, name) ∈ rest) (fun _ _ => rfl) first
      simp [setGeometry, volumes]
    | surface =>
      have surfaces := Table.mapWithName_modify_self study.surfaces
        (fun name o => { o with mask := some (geometry .surface name) })
        (fun name => (.surface, name) ∈ rest) (fun _ _ => rfl) first
      simp [setGeometry, surfaces]
    | load => simp [setGeometry]

theorem fill_geometricObjects (study : Study) (geometry : ObjectKind → String → Polyhedron) :
    study.fill (study.geometricObjects.map fun o => (o, geometry o.1 o.2)) = { study with
      meshes := study.meshes.mapWithName fun name o => { o with solid := geometry .mesh name }
      volumes := study.volumes.mapWithName fun name o => { o with mask := geometry .volume name }
      surfaces := study.surfaces.mapWithName fun name o =>
        { o with mask := geometry .surface name } } := by
  rw [fill_map]
  simp only [Study.mk.injEq, true_and, and_true]
  refine ⟨Table.mapWithName_congr _ fun name listed => ?_,
    Table.mapWithName_congr _ fun name listed => ?_,
    Table.mapWithName_congr _ fun name listed => ?_⟩ <;>
  · funext o
    rw [if_pos (by simp [geometricObjects, listed])]

/-- The scale of a realized study counts the solids of its meshes only. -/
theorem realized_eq (study : Study) (geometry : ObjectKind → String → Polyhedron) :
    study.realized geometry =
      let filled := study.fill (study.geometricObjects.map fun o => (o, geometry o.1 o.2))
      { filled with scale := filled.largestScale, progress := .solidsDone } := by
  rw [fill_geometricObjects]
  simp [realized, largestScale, Table.mapWithName, Table.names, List.filterMap_map,
    Function.comp_def, List.foldl_map]

theorem realizeObjects_gets_realized : study.realizeObjects.Gets events next ↔
    ∃ geometry, study.AnswersEach geometry events study.geometricObjects ∧
      next = study.realized geometry := by
  rw [realizeObjects_gets_iff]
  constructor
  · intro given
    rcases given with ⟨solids, objects, answers, rfl⟩
    obtain ⟨geometry, same⟩ := exists_geometry (objects ▸ study.geometricObjects_nodup)
    rw [objects] at same
    rw [same, List.forall₂_map_right_iff] at answers
    exact ⟨geometry, answers, by rw [realized_eq, ← same]⟩
  · intro given
    rcases given with ⟨geometry, answers, rfl⟩
    refine ⟨_, ?_, List.forall₂_map_right_iff.mpr answers, study.realized_eq geometry⟩
    rw [List.map_map]
    exact List.map_id _

theorem realizeObjects_fails_realized {fault : RunFault} :
    study.realizeObjects.Fails events fault ↔
      ∃ geometry done kind name rest word before answer,
        study.geometricObjects = done ++ (kind, name) :: rest ∧
        study.AnswersEach geometry before done ∧ kind.geometryWord = some word ∧
        events = before ++ [.asked (study.objectInvocation word name) answer] ∧
        ObjectFault kind name answer fault := by
  rw [realizeObjects_fails_iff]
  constructor
  · intro given
    rcases given with ⟨solids, kind, name, rest, word, before, answer, objects, asks, done, h⟩
    have distinct : (solids.map (·.1)).Nodup :=
      (objects ▸ study.geometricObjects_nodup).of_append_left
    obtain ⟨geometry, same⟩ := exists_geometry distinct
    rw [same, List.forall₂_map_right_iff] at done
    exact ⟨geometry, _, kind, name, rest, word, before, answer, objects, done, asks, h⟩
  · intro given
    rcases given with
      ⟨geometry, done, kind, name, rest, word, before, answer, objects, answers, asks, h⟩
    refine ⟨done.map fun o => (o, geometry o.1 o.2), kind, name, rest, word, before, answer, ?_,
      asks, List.forall₂_map_right_iff.mpr answers, h⟩
    rw [List.map_map]
    exact objects.trans (congrArg (· ++ _) (List.map_id done).symm)

theorem asked_of_answersEach {geometry : ObjectKind → String → Polyhedron}
    {objects : List (ObjectKind × String)} (answers : study.AnswersEach geometry events objects) :
    Job.asked events = objects.filterMap study.question? := by
  have solids := asked_of_answers (List.forall₂_map_right_iff.mpr answers)
  rw [List.map_map] at solids
  exact eq_filterMap_of_asked (List.map_id objects ▸ solids)

theorem asked_eq_questions (gets : study.realizeObjects.Gets events next) :
    Job.asked events = study.questions := by
  obtain ⟨geometry, answers, -⟩ := realizeObjects_gets_realized.mp gets
  rw [asked_of_answersEach answers, questions_eq]

theorem asked_prefix_questions {fault : RunFault}
    (fails : study.realizeObjects.Fails events fault) : Job.asked events <+: study.questions := by
  obtain ⟨objects, some_of, asked⟩ := asked_realizeObjects fails
  rw [eq_filterMap_of_asked asked, questions_eq]
  exact some_of.filterMap study.question?

/-- Whatever is answered, an extraction of the objects asks one question for each of them and no
other, meshes first, then volumes and surfaces, each by name. It succeeds exactly if all answers
have geometry, and each object then has the geometry of its own answer, besides which only the scale
and the progress change. Otherwise it ends with the first answer that has none. -/
theorem objects_realized (study : Study) (events : List Job.Event) :
    (∀ next, Job.Runs study.realizeObjects.run events (.ok next) ↔
      ∃ geometry, study.AnswersEach geometry events study.geometricObjects ∧
        next = study.realized geometry) ∧
    (∀ next, Job.Runs study.realizeObjects.run events (.ok next) →
      Job.asked events = study.questions) ∧
    (∀ fault, Job.Runs study.realizeObjects.run events (.error fault) ↔
      ∃ geometry done kind name rest word before answer,
        study.geometricObjects = done ++ (kind, name) :: rest ∧
        study.AnswersEach geometry before done ∧ kind.geometryWord = some word ∧
        events = before ++ [.asked (study.objectInvocation word name) answer] ∧
        ObjectFault kind name answer fault) ∧
    (∀ fault, Job.Runs study.realizeObjects.run events (.error fault) →
      Job.asked events <+: study.questions) ∧
    study.questions.Nodup ∧
    (study.meshes.names.Pairwise (· < ·) ∧ study.volumes.names.Pairwise (· < ·) ∧
      study.surfaces.names.Pairwise (· < ·)) ∧
    ∀ word name, (study.objectInvocation word name).stem = name ∧
      (study.objectInvocation word name).mode? = some (.ofStrings [word, name]) := by
  have ordered {α : Type} (t : Table α) : t.names.Pairwise (· < ·) :=
    List.pairwise_map.mpr t.ordered
  exact ⟨fun next => realizeObjects_gets_realized, fun next => asked_eq_questions,
    fun fault => realizeObjects_fails_realized, fun fault => asked_prefix_questions,
    study.questions_nodup, ⟨ordered _, ordered _, ordered _⟩,
    fun word name => ⟨rfl, study.mode?_objectInvocation word name⟩⟩

/-- A mesh and a volume of one name are asked for apart. A volume without geometry ends the
extraction before the surface is asked for. -/
theorem objects_realized_shared_name :
    let study : Study := { new "part.scad" "/tmp" with
      meshes := .ofList [("core", ⟨.automatic, none⟩), ("block", ⟨.volumeAtMost 2, none⟩)]
      volumes := .ofList [("core", ⟨7, none⟩)]
      surfaces := .ofList [("top", ⟨3, ⟨0, 0, 1⟩, 15, none⟩)]
      loads := .ofList [("push", .onVolume "core" ⟨0, 0, 5⟩)] }
    let solid : Polyhedron := ⟨[⟨0, 0, 0⟩, ⟨1, 0, 0⟩, ⟨0, 1, 0⟩], [[0, 1, 2]]⟩
    let asks (word name : String) (geometry : Option Polyhedron) : Job.Event :=
      .asked (study.objectInvocation word name) (.ok ⟨geometry, [], []⟩)
    let before := [asks "mesh" "block" (some solid), asks "mesh" "core" (some solid)]
    let all := before ++ [asks "select_volume" "core" (some solid),
      asks "select_surface" "top" (some solid)]
    let some_of := before ++ [asks "select_volume" "core" none]
    Job.Runs study.realizeObjects.run all (.ok (study.realized fun _ _ => solid)) ∧
      Job.asked all = study.questions ∧
      Job.Runs study.realizeObjects.run some_of
        (.error (.configuration (.emptyObject .volume "core"))) ∧
      Job.asked some_of <+: study.questions := by
  intro study solid asks before all some_of
  have objects : study.geometricObjects =
      [(.mesh, "block"), (.mesh, "core"), (.volume, "core"), (.surface, "top")] := by rfl
  have answered (kind : ObjectKind) (name word : String) (spelled : kind.geometryWord = some word) :
      study.Answers (asks word name (some solid)) ((kind, name), solid) :=
    ⟨word, _, spelled, rfl, rfl⟩
  have first : study.AnswersEach (fun _ _ => solid) before [(.mesh, "block"), (.mesh, "core")] :=
    .cons (answered .mesh _ _ rfl) (.cons (answered .mesh _ _ rfl) .nil)
  have each : study.AnswersEach (fun _ _ => solid) all study.geometricObjects := by
    rw [objects]
    exact List.rel_append first
      (.cons (answered .volume _ _ rfl) (.cons (answered .surface _ _ rfl) .nil))
  obtain ⟨realizes, asked, -⟩ := objects_realized study all
  obtain ⟨-, -, ends, cut, -⟩ := objects_realized study some_of
  have runs := (realizes _).mpr ⟨_, each, rfl⟩
  have stopped := (ends _).mpr
    ⟨_, _, .volume, "core", [(.surface, "top")], _, before, _, objects, first, rfl, rfl, .empty rfl⟩
  exact ⟨runs, asked _ runs, stopped, cut _ stopped⟩

end Study

end SolidStudy
