import Mathlib
import SolidStudy.Proofs.Job
import SolidStudy.Proofs.Path
import SolidStudy.Proofs.Run.Stages
import SolidStudy.Proofs.Study.Geometry
import SolidStudy.Proofs.Value.RoundTrip

/-! Which files a model can reach, and what is asked for. Whatever an evaluator answered so far, the
geometry files of a study are entries of its own directory, one for each object, and the mode that
an evaluator is given is read back as the object it stands for. -/
namespace SolidStudy

/-- Names of objects are names of files. -/
theorem PlainName.isPlainName {name : String} (plain : PlainName name) :
    Path.isPlainName name = true := by
  obtain ⟨present, letters⟩ := plain
  have dot : '.' ∉ name.toList := fun listed => absurd (letters _ listed) (by decide)
  have slash : '/' ∉ name.toList := fun listed => absurd (letters _ listed) (by decide)
  have back : '\\' ∉ name.toList := fun listed => absurd (letters _ listed) (by decide)
  refine Path.isPlainName_iff.mpr ⟨present, ?_, ?_, slash, back⟩
  · rintro rfl
    exact dot (by decide)
  · rintro rfl
    exact dot (by decide)

theorem Path.isPlainName_append_off {stem : String} (plain : isPlainName stem = true) :
    isPlainName (stem ++ ".off") = true := by
  obtain ⟨-, -, -, slash, back⟩ := isPlainName_iff.mp plain
  have long : 4 ≤ (stem ++ ".off").toList.length := by simp
  refine isPlainName_iff.mpr ⟨?_, ?_, ?_, by simp [slash], by simp [back]⟩ <;> intro same <;>
    rw [same] at long <;> simp at long

namespace Invocation

/-- An invocation that asks for one thing: its geometry file is an entry of the directory of the
study, and its only setting is a mode that is read back as the given one. -/
structure AsksFor (invocation : Invocation) (study : Study) (stem : String) (mode : List String) :
    Prop where
  stem_eq : invocation.stem = stem
  checked : invocation.checkedGeometryPath = .ok invocation.geometryPath
  path : invocation.geometryPath = Path.inside study.outputDir ++ (stem ++ ".off")
  entry : Path.parts invocation.geometryPath =
    Path.parts study.outputDir ++ [(stem ++ ".off").toList]
  absolute : Path.isAbsolute invocation.geometryPath = Path.isAbsolute study.outputDir
  setting : ∃ argument text,
    (∀ path, invocation.arguments path = ["-o", path, "-D", argument, study.source]) ∧
      argument.toList.takeWhile (· ≠ '=') = modeVariable.toList ∧
      argument.toList.dropWhile (· ≠ '=') = '=' :: text ∧
      Value.readWhole text = .ok (.ofStrings mode)

theorem checkedGeometryPath_eq_ok {invocation : Invocation} {path : String} :
    invocation.checkedGeometryPath = .ok path ↔
      Path.isPlainName invocation.stem = true ∧ path = invocation.geometryPath := by
  rw [checkedGeometryPath, staysInOutputDir]
  cases Path.isPlainName invocation.stem <;> simp [eq_comm]

end Invocation

namespace Study

variable {source outputDir : String} {study next : Study} {events : List Job.Event}

theorem invocation_asksFor {stem : String} (plain : Path.isPlainName stem = true)
    (mode : List String) : (study.invocation stem mode).AsksFor study stem mode := by
  have entry := Path.isPlainName_append_off plain
  have whole := (Path.isPlainName_iff.mp entry).2.2.2.1
  refine ⟨rfl, Invocation.checkedGeometryPath_eq_ok.mpr ⟨plain, rfl⟩, Path.join_eq whole,
    Path.parts_join entry, Path.isAbsolute_join whole,
    Invocation.defineArgument Invocation.modeVariable (.ofStrings mode),
    (Value.ofStrings mode).write, fun path => rfl, ?_⟩
  have written : (Invocation.defineArgument Invocation.modeVariable (.ofStrings mode)).toList =
      Invocation.modeVariable.toList ++ '=' :: (Value.ofStrings mode).write := by
    simp [Invocation.defineArgument, Value.render]
  have before : ∀ c ∈ Invocation.modeVariable.toList, decide (c ≠ '=') = true := by
    simp [Invocation.modeVariable]
  rw [written, List.takeWhile_append_of_pos before, List.dropWhile_append_of_pos before]
  exact ⟨by simp, by simp, Value.readWhole_write _⟩

/-- The studies that come of a new one by single statements, by extractions and by whole runs, with
any answers and whether or not they come to a good end. -/
inductive Arises (source outputDir : String) : Study → Prop
  | new : Arises source outputDir (new source outputDir)
  | statement {study : Study} (h : Arises source outputDir study) (statement : Statement) :
      Arises source outputDir (study.attempt statement)
  | inventory {study : Study} (h : Arises source outputDir study) {events : List Job.Event}
      {result : Except RunFault Study} (runs : Job.Runs study.takeInventory.run events result) :
      Arises source outputDir (study.after result)
  | objects {study : Study} (h : Arises source outputDir study) {events : List Job.Event}
      {result : Except RunFault Study} (runs : Job.Runs study.realizeObjects.run events result) :
      Arises source outputDir (study.after result)
  | run {study : Study} (h : Arises source outputDir study) {target : Progress}
      {events : List Job.Event} {outcome : Outcome}
      (runs : Job.Runs (study.run target) events outcome) : Arises source outputDir outcome.study

/-- A study of this model in this directory that keeps its names apart. -/
structure Housed (source outputDir : String) (study : Study) : Prop where
  source_eq : study.source = source
  outputDir_eq : study.outputDir = outputDir
  names : study.NamesApart

namespace Housed

theorem new (source outputDir : String) : Housed source outputDir (new source outputDir) where
  source_eq := rfl
  outputDir_eq := rfl
  names := .new source outputDir

theorem of_outline (h : Housed source outputDir study) (same : next.outline = study.outline) :
    Housed source outputDir next where
  source_eq := (congrArg (·.source) same : next.source = study.source).trans h.source_eq
  outputDir_eq :=
    (congrArg (·.outputDir) same : next.outputDir = study.outputDir).trans h.outputDir_eq
  names := h.names.of_holds_eq (holds_of_outline same)

theorem dispatch {statement : Statement} (h : Housed source outputDir study)
    (taken : study.dispatch statement = .ok next) : Housed source outputDir next := by
  have names := h.names.dispatch taken
  rcases dispatch_eq_ok.mp taken with ⟨-, rfl⟩ | ⟨d, -, -, rfl⟩
  · exact h
  · cases d <;> exact ⟨h.source_eq, h.outputDir_eq, names⟩

theorem dispatchAll {statements : List Statement} {result : Except RunFault Unit}
    (h : Housed source outputDir study)
    (taken : study.dispatchAll statements = (next, result)) : Housed source outputDir next := by
  induction statements generalizing study with
  | nil =>
    cases taken
    exact h
  | cons statement rest ih =>
    rw [Study.dispatchAll] at taken
    cases first : study.dispatch statement with
    | ok mid =>
      rw [first] at taken
      exact ih (h.dispatch first) taken
    | error fault =>
      rw [first] at taken
      cases taken
      exact h

theorem stage {stage : Stage} (h : Housed source outputDir study) (listed : stage ∈ Stage.all)
    (gets : (stage.perform study).Gets events next) : Housed source outputDir next := by
  simp only [Stage.all, List.mem_cons, List.not_mem_nil, or_false] at listed
  rcases listed with rfl | rfl
  · obtain ⟨evaluation, declared, -, -, taken, rfl⟩ := takeInventory_gets_iff.mp gets
    have dispatched := (applyInventory_eq_ok.mp (declareAll_eq_ok.mp taken)).1
    exact (h.dispatchAll dispatched).of_outline rfl
  · exact h.of_outline (outline_of_realizeObjects gets)

theorem after {stage : Stage} {result : Except RunFault Study} (h : Housed source outputDir study)
    (listed : stage ∈ Stage.all) (runs : Job.Runs (stage.perform study).run events result) :
    Housed source outputDir (study.after result) := by
  cases result with
  | ok next => exact h.stage listed runs
  | error fault => exact h

theorem runStages {target : Progress} {stages : List Stage} {outcome : Outcome}
    (runs : RunsStages target stages study events outcome)
    (listed : ∀ stage ∈ stages, stage ∈ Stage.all) (h : Housed source outputDir study) :
    Housed source outputDir outcome.study := by
  induction runs with
  | closing | failed => exact h
  | skipped _ _ ih => exact ih (fun stage member => listed stage (List.mem_cons_of_mem _ member)) h
  | interrupted _ gets => exact h.stage (listed _ List.mem_cons_self) gets
  | performed _ gets _ ih =>
    exact ih (fun stage member => listed stage (List.mem_cons_of_mem _ member))
      (h.stage (listed _ List.mem_cons_self) gets)

theorem run {target : Progress} {outcome : Outcome} (h : Housed source outputDir study)
    (runs : Job.Runs (study.run target) events outcome) :
    Housed source outputDir outcome.study := by
  rcases run_runs_iff.mp runs with ⟨-, rfl⟩ | ⟨later, ending, -, stages, rfl⟩
  · exact h
  · have housed := h.runStages stages fun _ => id
    obtain ⟨left, result⟩ := ending
    cases result with
    | ok => exact housed
    | error fault => cases fault <;> exact housed.of_outline rfl

end Housed

theorem Arises.housed (h : Arises source outputDir study) : Housed source outputDir study := by
  induction h with
  | new => exact .new source outputDir
  | @statement study _ statement ih =>
    rw [attempt]
    cases taken : study.dispatch statement with
    | ok next => exact ih.dispatch taken
    | error fault => exact ih
  | inventory _ runs ih =>
    have listed : Stage.inventory ∈ Stage.all := by simp [Stage.all]
    exact ih.after listed runs
  | objects _ runs ih =>
    have listed : Stage.objects ∈ Stage.all := by simp [Stage.all]
    exact ih.after listed runs
  | run _ runs ih => exact ih.run runs

theorem asked_takeInventory {result : Except RunFault Study}
    (runs : Job.Runs study.takeInventory.run events result) :
    Job.asked events = [study.inventoryInvocation] := by
  cases result with
  | ok next =>
    obtain ⟨_, _, rfl, -⟩ := takeInventory_gets_iff.mp runs
    rfl
  | error fault =>
    obtain ⟨_, rfl, -⟩ := takeInventory_fails_iff.mp runs
    rfl

def AsksForObject (study : Study) (invocation : Invocation) (object : ObjectKind × String) : Prop :=
  ∃ word, object.1.geometryWord = some word ∧ invocation = study.objectInvocation word object.2

theorem asked_of_answers {solids : List ((ObjectKind × String) × Polyhedron)}
    (answers : List.Forall₂ study.Answers events solids) :
    List.Forall₂ study.AsksForObject (Job.asked events) (solids.map (·.1)) := by
  induction answers with
  | nil => exact .nil
  | cons answer _ ih =>
    obtain ⟨word, evaluation, asks, rfl, -⟩ := answer
    exact .cons ⟨word, asks, rfl⟩ ih

/-- The objects are asked for one after another, each once, and a fault ends the list early. -/
theorem asked_realizeObjects {result : Except RunFault Study}
    (runs : Job.Runs study.realizeObjects.run events result) :
    ∃ objects, objects <+: study.geometricObjects ∧
      List.Forall₂ study.AsksForObject (Job.asked events) objects := by
  cases result with
  | ok next =>
    obtain ⟨solids, same, answers, -⟩ := realizeObjects_gets_iff.mp runs
    exact ⟨_, same ▸ List.prefix_rfl, asked_of_answers answers⟩
  | error fault =>
    obtain ⟨solids, kind, name, rest, word, before, answer, same, asks, answers, rfl, -⟩ :=
      realizeObjects_fails_iff.mp runs
    refine ⟨solids.map (·.1) ++ [(kind, name)], ?_, ?_⟩
    · exact ⟨rest, by rw [same, List.append_assoc, List.singleton_append]⟩
    · rw [Job.asked_append]
      exact List.rel_append (asked_of_answers answers) (.cons ⟨word, asks, rfl⟩ .nil)

theorem NamesApart.geometricObjects_nodup (names : study.NamesApart) :
    (study.geometricObjects.map (·.2)).Nodup := by
  have listed {α : Type} {t : Table α} {name : String} (member : name ∈ t.names) :
      t.contains name = true := (Table.mem_names_iff t).mp member
  have apart (kind other : ObjectKind) (different : kind ≠ other) {name : String}
      (held : study.holds kind name = true) : ¬study.holds other name = true :=
    fun held' => different (names.apart kind other name held held')
  have each : study.geometricObjects.map (·.2) =
      study.meshes.names ++ study.volumes.names ++ study.surfaces.names := by
    simp [geometricObjects, Function.comp_def]
  rw [each, List.nodup_append', List.nodup_append']
  refine ⟨⟨Table.names_nodup _, Table.names_nodup _, ?_⟩, Table.names_nodup _, ?_⟩
  · intro name mesh volume
    exact apart .mesh .volume (by simp) (listed mesh) (listed volume)
  · intro name others surface
    rcases List.mem_append.mp others with mesh | volume
    · exact apart .mesh .surface (by simp) (listed mesh) (listed surface)
    · exact apart .volume .surface (by simp) (listed volume) (listed surface)

theorem geometryPaths_of_asked {invocations : List Invocation}
    {objects : List (ObjectKind × String)}
    (asked : List.Forall₂ study.AsksForObject invocations objects) :
    invocations.map (·.geometryPath) =
      (objects.map (·.2)).map fun name => Path.join study.outputDir (name ++ ".off") := by
  induction asked with
  | nil => rfl
  | cons asks _ ih =>
    obtain ⟨word, -, rfl⟩ := asks
    rw [List.map_cons, ih]
    rfl

theorem geometryPaths_nodup {objects : List (ObjectKind × String)}
    {invocations : List Invocation} (names : study.NamesApart)
    (some_of : objects <+: study.geometricObjects)
    (asked : List.Forall₂ study.AsksForObject invocations objects) :
    (invocations.map (·.geometryPath)).Nodup := by
  have whole : ∀ name ∈ objects.map (·.2), '/' ∉ (name ++ ".off").toList := by
    intro name listed
    obtain ⟨⟨kind, _⟩, member, rfl⟩ := List.mem_map.mp listed
    have held := (mem_geometricObjects_iff.mp (some_of.subset member)).2
    have entry := Path.isPlainName_append_off (names.plain kind _ held).isPlainName
    exact (Path.isPlainName_iff.mp entry).2.2.2.1
  have distinct : (objects.map (·.2)).Nodup :=
    names.geometricObjects_nodup.sublist (some_of.map _).sublist
  rw [geometryPaths_of_asked asked]
  refine distinct.map_on fun name listed other listed' same => ?_
  exact (String.append_left_inj _).mp
    (Path.join_injective (whole name listed) (whole other listed') same)

/-- Whatever was answered so far, all that an extraction asks for goes to entries of the directory
of the study, to different ones for different objects, and each question names one object. -/
theorem invocations_confined (h : Arises source outputDir study) :
    study.source = source ∧ study.outputDir = outputDir ∧
    (∀ events result, Job.Runs study.takeInventory.run events result →
      ∃ invocation, Job.asked events = [invocation] ∧
        invocation.AsksFor study "inventory" ["inventory"]) ∧
    (∀ events result, Job.Runs study.realizeObjects.run events result →
      (∃ objects, objects <+: study.geometricObjects ∧
        List.Forall₂ (fun invocation object => ∃ word, object.1.geometryWord = some word ∧
            study.holds object.1 object.2 = true ∧
            invocation.AsksFor study object.2 [word, object.2])
          (Job.asked events) objects) ∧
      ((Job.asked events).map (·.geometryPath)).Nodup) ∧
    ∀ invocation : Invocation, (∃ path, invocation.checkedGeometryPath = .ok path) ↔
      invocation.stem ≠ "" ∧ invocation.stem ≠ "." ∧ invocation.stem ≠ ".." ∧
        '/' ∉ invocation.stem.toList ∧ '\\' ∉ invocation.stem.toList := by
  obtain ⟨from_model, from_directory, names⟩ := h.housed
  refine ⟨from_model, from_directory, fun events result runs => ?_, fun events result runs => ?_,
    fun invocation => ?_⟩
  · exact ⟨_, asked_takeInventory runs, invocation_asksFor (by decide) _⟩
  · obtain ⟨objects, some_of, asked⟩ := asked_realizeObjects runs
    refine ⟨⟨objects, some_of, ?_⟩, geometryPaths_nodup names some_of asked⟩
    have held : ∀ object ∈ objects, study.holds object.1 object.2 = true :=
      fun object member => (mem_geometricObjects_iff.mp (some_of.subset member)).2
    have each := (List.forall₂_and_left _ _).mpr ⟨held, asked.flip⟩
    refine each.flip.imp fun invocation object given => ?_
    obtain ⟨held, word, asks, rfl⟩ := given
    exact ⟨word, asks, held,
      invocation_asksFor (names.plain object.1 object.2 held).isPlainName _⟩
  · simp only [Invocation.checkedGeometryPath_eq_ok, exists_and_left, exists_eq, and_true]
    exact Path.isPlainName_iff

/-- A mesh may have the name of the inventory. It is asked for as a mesh, and the volume next to it
has a file of its own. -/
theorem invocations_confined_named_inventory :
    let study := ((new "part.scad" "/tmp").attempt
      [.text Directive.marker, .text "mesh_directive", .text "inventory"]).attempt
        [.text Directive.marker, .text "select_volume_directive", .text "half"]
    let solid : Polyhedron := ⟨[⟨0, 0, 0⟩, ⟨1, 0, 0⟩, ⟨0, 1, 0⟩], [[0, 1, 2]]⟩
    let mesh := study.objectInvocation "mesh" "inventory"
    let volume := study.objectInvocation "select_volume" "half"
    Arises "part.scad" "/tmp" study ∧
      Job.Runs study.realizeObjects.run
        [.asked mesh (.ok ⟨some solid, [], []⟩), .asked volume (.ok ⟨none, [], []⟩)]
        (.error (.configuration (.emptyObject .volume "half"))) ∧
      mesh.AsksFor study "inventory" ["mesh", "inventory"] ∧
      volume.AsksFor study "half" ["select_volume", "half"] ∧
      [mesh.geometryPath, volume.geometryPath].Nodup := by
  intro study solid mesh volume
  have objects : study.geometricObjects = [(.mesh, "inventory"), (.volume, "half")] := by rfl
  have runs : Job.Runs study.realizeObjects.run
      [.asked mesh (.ok ⟨some solid, [], []⟩), .asked volume (.ok ⟨none, [], []⟩)]
      (.error (.configuration (.emptyObject .volume "half"))) := by
    rw [realizeObjects, objects]
    exact .ask (.ok ⟨some solid, [], []⟩) (.ask (.ok ⟨none, [], []⟩) (.done _))
  have arises : Arises "part.scad" "/tmp" study := (Arises.new.statement _).statement _
  obtain ⟨-, -, -, realized, -⟩ := invocations_confined arises
  obtain ⟨⟨asked, some_of, each⟩, distinct⟩ := realized _ _ runs
  have all : asked = study.geometricObjects := some_of.eq_of_length each.length_eq.symm
  rw [all, objects] at each
  rcases each with _ | ⟨⟨_, ⟨⟩, -, asks_mesh⟩, _ | ⟨⟨_, ⟨⟩, -, asks_volume⟩, _⟩⟩
  exact ⟨arises, runs, asks_mesh, asks_volume, distinct⟩

end Study

end SolidStudy
