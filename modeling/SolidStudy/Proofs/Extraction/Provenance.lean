import Mathlib
import SolidStudy.Proofs.Evaluator.Executions
import SolidStudy.Proofs.Run.History

/-! Where the geometry of a study comes from. Whatever the programs do that an evaluator starts,
each solid of a study was left by an execution for its own object, and its faces have vertices. -/
namespace SolidStudy

open Files Evaluator

namespace Study

variable {source outputDir : String} {study next : Study} {target : Progress}
  {events : List Job.Event} {outcome : Outcome} {kind : ObjectKind} {name : String}
  {evaluator : Evaluator} {programs : Programs} {stops : Study → Bool}
  {executions : List Execution} {solid : Polyhedron}

/-- The studies that runs lead to, one run after another, with all that was executed so far. In
each run the programs do what they like; between runs the files may be changed. -/
inductive Executed (evaluator : Evaluator) (source outputDir : String) :
    List Execution → Study → Prop
  | fresh : Executed evaluator source outputDir [] (new source outputDir)
  | run {executions : List Execution} {study : Study} {outcome : Outcome} {left : Files}
      {starts : List (Command × Files)}
      (earlier : Executed evaluator source outputDir executions study) (target : Progress)
      (programs : Programs) (stops : Study → Bool) (files : Files)
      (performed : ((study.run target).perform (evaluator.watch programs stops)).run ⟨files, []⟩ =
        (outcome, ⟨left, starts⟩)) :
      Executed evaluator source outputDir (executions ++ starts.map (Execution.of programs))
        outcome.study

theorem solid?_record {d : Declaration} (admitted : study.Admits d) :
    (study.record d).solid? = study.solid? := by
  funext kind name
  have fresh (declared : String) (free : study.kindOf declared = none) :=
    get?_eq_none_of_kindOf free
  cases d with
  | analysis | load => cases kind <;> rfl
  | mesh declared | volume declared | surface declared =>
    have absent := fresh declared admitted
    cases kind <;> simp only [record, solid?, Table.get?_insert]
    split_ifs with same
    · simp [same, absent]
    · rfl

theorem solid?_recordAll_of_admits {ds : List Declaration} (admitted : study.AdmitsAll ds) :
    (study.recordAll ds).solid? = study.solid? := by
  induction ds generalizing study with
  | nil => rfl
  | cons d rest ih =>
    rw [recordAll, List.foldl_cons]
    exact (ih admitted.2).trans (solid?_record admitted.1)

theorem solid?_takeInventory (gets : study.takeInventory.Gets events next) :
    next.solid? = study.solid? := by
  obtain ⟨_, declared, -, -, taken, rfl⟩ := takeInventory_gets_iff.mp gets
  obtain ⟨ds, -, admitted, rfl, -⟩ := declareAll_eq_recordAll taken
  rw [← solid?_recordAll_of_admits admitted]
  rfl

theorem solid?_fill_eq_some {solids : List ((ObjectKind × String) × Polyhedron)}
    (found : (study.fill solids).solid? kind name = some solid) :
    ((kind, name), solid) ∈ solids ∨ study.solid? kind name = some solid := by
  induction solids generalizing study with
  | nil => exact .inr found
  | cons first rest ih =>
    rw [fill, List.foldl_cons, ← fill] at found
    rcases ih found with listed | found
    · exact .inl (List.mem_cons_of_mem _ listed)
    · by_cases same : (kind, name) = first.1
      · -- An object that is not there gets no geometry, so this one is.
        have known : ((study.setGeometry first.1.1 first.1.2 first.2).solid? kind name).isSome =
            true := by rw [found]; rfl
        obtain ⟨geometric, held⟩ := holds_of_solid? known
        rw [holds_setGeometry] at held
        rw [← same, solid?_setGeometry_self first.2 geometric held, Option.some.injEq] at found
        rw [same, ← found]
        exact .inl List.mem_cons_self
      · rw [solid?_setGeometry_other first.2 same] at found
        exact .inr found

theorem answer_of_solid? (gets : study.realizeObjects.Gets events next)
    (found : next.solid? kind name = some solid) :
    study.solid? kind name = some solid ∨
      ∃ event ∈ events, study.Answers event ((kind, name), solid) := by
  obtain ⟨solids, -, answers, rfl⟩ := realizeObjects_gets_iff.mp gets
  have filled : (study.fill solids).solid? kind name = some solid := by
    rw [← found]
    rfl
  rcases solid?_fill_eq_some filled with listed | old
  · exact .inr (exists_of_mem_right answers listed)
  · exact .inl old

/-- The programs that were started for a step are among those that were executed. -/
def Backed (evaluator : Evaluator) (programs : Programs) (executions : List Execution)
    (event : Job.Event) : Prop :=
  ∃ starts, evaluator.Accounts programs event starts ∧
    ∀ start ∈ starts, Execution.of programs start ∈ executions

theorem Housed.objectInvocation (h : Housed source outputDir study) :
    study.objectInvocation = (Study.new source outputDir).objectInvocation := by
  funext word name
  rw [Study.objectInvocation, invocation, h.source_eq, h.outputDir_eq]
  rfl

/-- What is said of a study: after an extraction of the objects all of them have geometry, and each
solid has faces and was left by an execution for its object. -/
structure Sourced (evaluator : Evaluator) (source outputDir : String)
    (executions : List Execution) (study : Study) : Prop extends
    Housed source outputDir study where
  realized : study.progress = .solidsDone →
    ∀ kind name, kind ≠ .load → study.holds kind name = true →
      (study.solid? kind name).isSome = true
  sourced : ∀ kind name solid, study.solid? kind name = some solid → solid.faces ≠ [] ∧
    ∃ word, kind.geometryWord = some word ∧ ∃ execution ∈ executions,
      execution.Yields evaluator ((new source outputDir).objectInvocation word name) solid

namespace Sourced

theorem new (evaluator : Evaluator) (source outputDir : String) :
    Sourced evaluator source outputDir [] (new source outputDir) where
  toHoused := .new source outputDir
  realized reached := by cases reached
  sourced kind name solid found := by cases kind <;> cases found

theorem append (h : Sourced evaluator source outputDir executions study) (more : List Execution) :
    Sourced evaluator source outputDir (executions ++ more) study where
  toHoused := h.toHoused
  realized := h.realized
  sourced kind name solid found := by
    obtain ⟨faces, word, asks, execution, listed, yields⟩ := h.sourced kind name solid found
    exact ⟨faces, word, asks, execution, List.mem_append_left _ listed, yields⟩

theorem marked (h : Sourced evaluator source outputDir executions study) (mark : Bool) :
    Sourced evaluator source outputDir executions { study with errored := mark } where
  toHoused := h.toHoused.of_outline rfl
  realized := h.realized
  sourced := h.sourced

theorem inventory (h : Sourced evaluator source outputDir executions study)
    (gets : study.takeInventory.Gets events next) :
    Sourced evaluator source outputDir executions next where
  toHoused :=
    have listed : Stage.inventory ∈ Stage.all := by simp [Stage.all]
    h.toHoused.stage listed gets
  realized reached := by
    rw [show next.progress = .inventoryDone from Stage.inventory_regular.reached _ _ _ gets]
      at reached
    cases reached
  sourced kind name solid found := by
    rw [solid?_takeInventory gets] at found
    exact h.sourced kind name solid found

theorem objects (h : Sourced evaluator source outputDir executions study)
    (gets : study.realizeObjects.Gets events next)
    (backed : ∀ event ∈ events, Backed evaluator programs executions event) :
    Sourced evaluator source outputDir executions next where
  toHoused :=
    have listed : Stage.objects ∈ Stage.all := by simp [Stage.all]
    h.toHoused.stage listed gets
  realized _ kind name geometric held := solid?_of_realizeObjects gets geometric held
  sourced kind name solid found := by
    rcases answer_of_solid? gets found with old | ⟨event, listed, answers⟩
    · exact h.sourced kind name solid old
    · obtain ⟨word, evaluation, asks, rfl, geometry⟩ := answers
      obtain ⟨starts, accounts, executed⟩ := backed _ listed
      obtain ⟨faces, start, started, yields⟩ := accounts.yields geometry
      rw [h.objectInvocation] at yields
      exact ⟨faces, word, asks, _, executed start started, yields⟩

theorem stage {stage : Stage} (h : Sourced evaluator source outputDir executions study)
    (listed : stage ∈ Stage.all) (gets : (stage.perform study).Gets events next)
    (backed : ∀ event ∈ events, Backed evaluator programs executions event) :
    Sourced evaluator source outputDir executions next := by
  simp only [Stage.all, List.mem_cons, List.not_mem_nil, or_false] at listed
  rcases listed with rfl | rfl
  · exact h.inventory gets
  · exact h.objects gets backed

theorem runStages {stages : List Stage} (runs : RunsStages target stages study events outcome)
    (listed : ∀ stage ∈ stages, stage ∈ Stage.all)
    (h : Sourced evaluator source outputDir executions study)
    (backed : ∀ event ∈ events, Backed evaluator programs executions event) :
    Sourced evaluator source outputDir executions outcome.study := by
  induction runs with
  | closing | failed => exact h
  | skipped _ _ ih =>
    exact ih (fun stage member => listed stage (List.mem_cons_of_mem _ member)) h backed
  | interrupted _ gets =>
    exact h.stage (listed _ List.mem_cons_self) gets fun event own => backed event (by simp [own])
  | performed _ gets _ ih =>
    have between := h.stage (listed _ List.mem_cons_self) gets fun event own =>
      backed event (by simp [own])
    exact ih (fun stage member => listed stage (List.mem_cons_of_mem _ member)) between
      fun event later => backed event (by simp [later])

theorem run (h : Sourced evaluator source outputDir executions study)
    (runs : Job.Runs (study.run target) events outcome)
    (backed : ∀ event ∈ events, Backed evaluator programs executions event) :
    Sourced evaluator source outputDir executions outcome.study := by
  rcases run_runs_iff.mp runs with ⟨-, rfl⟩ | ⟨later, ending, rfl, stages, rfl⟩
  · exact h
  · have sourced := runStages stages (fun _ => id) h fun event listed =>
      backed event (List.mem_cons_of_mem _ listed)
    obtain ⟨left, result⟩ := ending
    cases result with
    | ok => exact sourced
    | error fault => cases fault <;> first | exact sourced | exact sourced.marked true

end Sourced

theorem Executed.sourced (h : Executed evaluator source outputDir executions study) :
    Sourced evaluator source outputDir executions study := by
  induction h with
  | fresh => exact .new evaluator source outputDir
  | @run executions study outcome left starts _ target programs stops files performed ih =>
    obtain ⟨events, runs, served⟩ := Job.run_perform_iff.mp performed
    obtain ⟨pieces, accounts, same⟩ := Evaluator.exists_accounts served
    obtain rfl : starts = pieces.flatten := same
    have backed : ∀ event ∈ events, Backed evaluator programs
        (executions ++ pieces.flatten.map (Execution.of programs)) event := by
      intro event listed
      obtain ⟨piece, member, own⟩ := exists_of_mem_right accounts.flip listed
      refine ⟨piece, own, fun start started => List.mem_append_right _ ?_⟩
      exact List.mem_map_of_mem (List.mem_flatten.mpr ⟨piece, member, started⟩)
    exact (ih.append _).run runs backed

theorem RunsStages.asks_objects (h : RunsStages target [.objects] study events outcome)
    {invocation : Invocation} (asked : invocation ∈ Job.asked events) :
    ∃ word name, invocation = study.objectInvocation word name := by
  have object {own : List Job.Event} {result : Except RunFault Study}
      (runs : Job.Runs study.realizeObjects.run own result)
      (among : invocation ∈ Job.asked own) :
      ∃ word name, invocation = study.objectInvocation word name := by
    obtain ⟨objects, -, each⟩ := asked_realizeObjects runs
    obtain ⟨o, -, word, -, same⟩ := exists_of_mem_right each.flip among
    exact ⟨word, o.2, same⟩
  cases h with
  | skipped _ h =>
    cases h
    simp at asked
  | failed _ fails => exact object fails (by simpa using asked)
  | interrupted _ gets => exact object gets (by simpa using asked)
  | performed _ gets h =>
    cases h
    exact object gets (by simpa using asked)

/-- What was executed for an object was not executed for the inventory. -/
theorem not_leaves_inventory {start : Command × Files} {mid : Study} {word : String}
    {answer : Except EvaluatorFault Evaluation} {starts : List (Command × Files)}
    (accounts : evaluator.Accounts programs (.asked (mid.objectInvocation word name) answer) starts)
    (listed : start ∈ starts) :
    ¬ (Execution.of programs start).Leaves evaluator study.inventoryInvocation solid := by
  intro leaves
  have same := Evaluator.mode_eq_of_command (accounts.command listed) leaves.own
  simp at same

theorem inventory_refused (runs : Job.Runs (study.run target) events outcome)
    {pieces : List (List (Command × Files))} {start : Command × Files}
    (accounts : List.Forall₂ (evaluator.Accounts programs) events pieces)
    (listed : start ∈ pieces.flatten)
    (leaves : (Execution.of programs start).Leaves evaluator study.inventoryInvocation solid)
    (faces : solid.faces ≠ []) :
    ∃ fault, outcome.result = .error fault ∧ fault ≠ .interrupted ∧
      outcome.study = { study with errored := true } ∧ study.progress = .nothingDone := by
  obtain ⟨invocation, answer, starts, taken, own, member⟩ :=
    Evaluator.exists_asked accounts listed
  -- Neither an object nor an inventory that was accepted can have been asked for.
  have elsewhere {mid : Study} {more : List Job.Event} {ending : Outcome}
      (rest : RunsStages target [.objects] mid more ending) :
      .asked invocation answer ∉ more := by
    intro among
    obtain ⟨word, name, rfl⟩ := rest.asks_objects (Job.mem_asked among)
    exact not_leaves_inventory own member leaves
  have bare {mid : Study} {more : List Job.Event} (gets : study.takeInventory.Gets more mid) :
      .asked invocation answer ∉ more := by
    obtain ⟨evaluation, _, rfl, none, -⟩ := takeInventory_gets_iff.mp gets
    intro among
    cases List.mem_singleton.mp among
    rw [own.geometry_eq member leaves faces] at none
    cases none
  rcases run_runs_iff.mp runs with ⟨rfl, -⟩ | ⟨later, ending, rfl, stages, rfl⟩
  · simp at taken
  · cases stages with
    | skipped _ rest => exact absurd (by simpa using taken) (elsewhere rest)
    | @failed _ _ _ _ fault due fails =>
      have loud := Stage.inventory_regular.faults _ _ _ fails
      have marked := mark_study ⟨study, .error fault⟩
      exact ⟨fault, marked.2.2, loud, marked.1 fault rfl loud, inventory_due due⟩
    | interrupted _ gets => exact absurd (by simpa using taken) (bare gets)
    | performed _ gets rest =>
      have apart := not_or.mpr ⟨bare gets, elsewhere rest⟩
      exact absurd (by simpa using taken) apart

/-- Whatever the programs do, every object of a finished study has a solid with faces, all of whose
corners are there, out of a file that was left by an execution for that object alone. An inventory
that leaves a solid with faces ends its run in a fault before anything is taken in. -/
theorem solids_own_files (evaluator : Evaluator) (source outputDir : String) :
    (∀ executions study, Executed evaluator source outputDir executions study →
      study.progress = .solidsDone →
      ∀ kind name, kind ≠ .load → study.holds kind name = true →
        ∃ solid word, study.solid? kind name = some solid ∧ solid.faces ≠ [] ∧
          (∀ face ∈ solid.faces, ∀ index ∈ face, index < solid.vertices.length) ∧
          kind.geometryWord = some word ∧ ∃ execution ∈ executions,
            execution.Yields evaluator (study.objectInvocation word name) solid) ∧
    ∀ executions study target programs stops files outcome left starts,
      Executed evaluator source outputDir executions study →
      ((study.run target).perform (evaluator.watch programs stops)).run ⟨files, []⟩ =
        (outcome, ⟨left, starts⟩) →
      ∀ start ∈ starts, ∀ solid,
        (Execution.of programs start).Leaves evaluator study.inventoryInvocation solid →
        solid.faces ≠ [] →
          ∃ fault, outcome.result = .error fault ∧ fault ≠ .interrupted ∧
            outcome.study = { study with errored := true } ∧
            outcome.study.progress = .nothingDone := by
  refine ⟨fun executions study executed reached kind name geometric held => ?_, ?_⟩
  · have sourced := executed.sourced
    obtain ⟨solid, found⟩ :=
      Option.isSome_iff_exists.mp (sourced.realized reached kind name geometric held)
    obtain ⟨faces, word, asks, execution, listed, yields⟩ := sourced.sourced kind name solid found
    rw [← sourced.objectInvocation] at yields
    exact ⟨solid, word, found, faces, yields.below, asks, execution, listed, yields⟩
  · intro _ study target programs stops files outcome left starts _ performed start listed solid
      leaves faces
    obtain ⟨events, runs, served⟩ := Job.run_perform_iff.mp performed
    obtain ⟨pieces, accounts, same⟩ := Evaluator.exists_accounts served
    obtain rfl : starts = pieces.flatten := same
    obtain ⟨fault, ends, loud, left, fresh⟩ :=
      inventory_refused runs accounts listed leaves faces
    exact ⟨fault, ends, loud, left, left ▸ fresh⟩

/-- A program that lists one mesh, and writes it when it is asked for. -/
def wrapped : Programs := fun command found =>
  if "out/inventory.off" ∈ command.arguments then (.ok ⟨.exited 0, Evaluation.blockOctets⟩, found)
  else (.ok ⟨.exited 0, []⟩, found.put "out/block.off" (.file Evaluation.triangleOctets))

/-- A program that writes its geometry already when it is asked for the inventory. -/
def bare : Programs := fun _ found =>
  (.ok ⟨.exited 0, []⟩, found.put "out/inventory.off" (.file Evaluation.triangleOctets))

theorem checkedGeometryPath_inventory :
    (new "part.scad" "out").inventoryInvocation.checkedGeometryPath = .ok "out/inventory.off" := by
  decide +kernel

theorem performed_wrapped : ∃ study left starts,
    (((new "part.scad" "out").run .solidsDone).perform
      ((⟨["openscad"], none⟩ : Evaluator).watch wrapped fun _ => false)).run ⟨empty, []⟩ =
        (⟨study, .ok ()⟩, ⟨left, starts⟩) ∧
    study.progress = .solidsDone ∧ study.holds .mesh "block" = true ∧
    study.solid? .mesh "block" = some Evaluation.triangle := by
  let evaluator : Evaluator := ⟨["openscad"], none⟩
  let fresh := new "part.scad" "out"
  let listed := { fresh with
    progress := .inventoryDone
    deck := ["*STEP"]
    units := some ⟨⟨"mm", .length, 1e-3⟩, ⟨"t", .mass, 1e3⟩, ⟨"s", .time, 1⟩⟩
    meshes := ⟨[("block", ⟨.automatic, none⟩)], List.pairwise_singleton _ _⟩ }
  let meshed : Table Mesh :=
    ⟨[("block", ⟨.automatic, some Evaluation.triangle⟩)], List.pairwise_singleton _ _⟩
  let ended := { listed with
    progress := .solidsDone
    meshes := meshed
    scale := { listed with meshes := meshed }.largestScale }
  have runs : Job.Runs (fresh.run .solidsDone) [.shown fresh false,
      .logged Stage.inventory.announcement,
      .asked fresh.inventoryInvocation (.ok ⟨none, [], Evaluation.blockStatements⟩),
      .shown listed false, .logged Stage.objects.announcement,
      .asked (fresh.objectInvocation "mesh" "block") (.ok ⟨some Evaluation.triangle, [], []⟩),
      .shown ended false, .logged Stage.closing] ⟨ended, .ok ()⟩ :=
    .checkpoint false (.log (.ask _ (.checkpoint false
      (.log (.ask _ (.checkpoint false (.log (.done _))))))))
  let first : Command := ⟨"openscad", fresh.inventoryInvocation.arguments "out/inventory.off", []⟩
  let second : Command :=
    ⟨"openscad", (fresh.objectInvocation "mesh" "block").arguments "out/block.off", []⟩
  have asks : evaluator.commandFor? fresh.inventoryInvocation "out/inventory.off" = some first :=
    rfl
  have asks_again : evaluator.commandFor? (fresh.objectInvocation "mesh" "block") "out/block.off" =
    some second := rfl
  have passable : first.isPassable = true ∧ second.isPassable = true := by decide +kernel
  have mine : "out/inventory.off" ∈ first.arguments ∧ "out/inventory.off" ∉ second.arguments := by
    decide +kernel
  let clean := empty.removeFile "out/inventory.off"
  let bound := (clean.removeFile "out/inventory.off").removeFile "out/block.off"
  have ran : wrapped first clean = (.ok ⟨.exited 0, Evaluation.blockOctets⟩, clean) :=
    if_pos mine.1
  have ran_again : wrapped second bound = (.ok ⟨.exited 0, []⟩,
      bound.put "out/block.off" (.file Evaluation.triangleOctets)) := if_neg mine.2
  have absent := (cleared_removeFile "out/inventory.off" empty).absent (by simp [empty])
  have object_checked : (fresh.objectInvocation "mesh" "block").checkedGeometryPath =
      .ok "out/block.off" := by decide +kernel
  have checked : fresh.inventoryInvocation.checkedGeometryPath = .ok "out/inventory.off" :=
    checkedGeometryPath_inventory
  have listing := run_evaluate_block checked asks passable.1 ran absent (by decide +kernel) []
  have meshing := run_evaluate_triangle object_checked asks_again passable.2 ran_again
    [(first, clean)]
  have performed : ((fresh.run .solidsDone).perform
      (evaluator.watch wrapped fun _ => false)).run ⟨empty, []⟩ = (⟨ended, .ok ()⟩, _) :=
    Job.run_perform_iff.mpr ⟨_, runs, .cons rfl (.cons rfl (.cons listing (.cons rfl (.cons rfl
      (.cons meshing (.cons rfl (.cons rfl (.nil _))))))))⟩
  exact ⟨ended, _, _, performed, rfl, rfl, rfl⟩

theorem performed_bare : ∃ outcome left start,
    (((new "part.scad" "out").run .solidsDone).perform
      ((⟨["openscad"], none⟩ : Evaluator).watch bare fun _ => false)).run ⟨empty, []⟩ =
        (outcome, ⟨left, [start]⟩) ∧
    (Execution.of bare start).Leaves ⟨["openscad"], none⟩
      (new "part.scad" "out").inventoryInvocation Evaluation.triangle := by
  let evaluator : Evaluator := ⟨["openscad"], none⟩
  let fresh := new "part.scad" "out"
  let command : Command :=
    ⟨"openscad", fresh.inventoryInvocation.arguments "out/inventory.off", []⟩
  have asks : evaluator.commandFor? fresh.inventoryInvocation "out/inventory.off" = some command :=
    rfl
  have passable : command.isPassable = true := by decide +kernel
  let clean := empty.removeFile "out/inventory.off"
  have ran : bare command clean = (.ok ⟨.exited 0, []⟩,
      clean.put "out/inventory.off" (.file Evaluation.triangleOctets)) := rfl
  have checked : fresh.inventoryInvocation.checkedGeometryPath = .ok "out/inventory.off" :=
    checkedGeometryPath_inventory
  have listing := run_evaluate_triangle checked asks passable ran []
  have runs : Job.Runs (fresh.run .solidsDone) [.shown fresh false,
      .logged Stage.inventory.announcement,
      .asked fresh.inventoryInvocation (.ok ⟨some Evaluation.triangle, [], []⟩)]
      ⟨{ fresh with errored := true }, .error (.configuration .unwrappedGeometry)⟩ :=
    .checkpoint false (.log (.ask _ (.done _)))
  have path := (Invocation.checkedGeometryPath_eq_ok.mp checked).2
  have performed : ((fresh.run .solidsDone).perform
      (evaluator.watch bare fun _ => false)).run ⟨empty, []⟩ = (_, ⟨_, [(command, clean)]⟩) :=
    Job.run_perform_iff.mpr ⟨_, runs, .cons rfl (.cons rfl (.cons listing (.nil _)))⟩
  have leaves : (Execution.of bare (command, clean)).Leaves evaluator fresh.inventoryInvocation
      Evaluation.triangle :=
    ⟨path ▸ asks, _, path ▸ Evaluation.text_put_triangle clean "out/inventory.off",
      Evaluation.ofOff_triangleText⟩
  exact ⟨_, _, _, performed, leaves⟩

/-- One study gets the mesh that was written for it, and the other nothing. -/
theorem solids_own_files_block :
    let evaluator : Evaluator := ⟨["openscad"], none⟩
    let fresh := new "part.scad" "out"
    let solid := Evaluation.triangle
    (∃ study left starts,
      ((fresh.run .solidsDone).perform (evaluator.watch wrapped fun _ => false)).run ⟨empty, []⟩ =
        (⟨study, .ok ()⟩, ⟨left, starts⟩) ∧
      Executed evaluator "part.scad" "out" (starts.map (Execution.of wrapped)) study ∧
      study.progress = .solidsDone ∧ study.holds .mesh "block" = true ∧
      study.solid? .mesh "block" = some solid ∧ solid.faces ≠ [] ∧
      ∃ execution ∈ starts.map (Execution.of wrapped),
        execution.Yields evaluator (study.objectInvocation "mesh" "block") solid) ∧
    ∃ outcome left start,
      ((fresh.run .solidsDone).perform (evaluator.watch bare fun _ => false)).run ⟨empty, []⟩ =
        (outcome, ⟨left, [start]⟩) ∧
      (Execution.of bare start).Leaves evaluator fresh.inventoryInvocation solid ∧
      (∃ fault, outcome.result = .error fault) ∧ outcome.study.progress = .nothingDone := by
  intro evaluator fresh solid
  obtain ⟨finished, refused⟩ := solids_own_files evaluator "part.scad" "out"
  constructor
  · obtain ⟨study, left, starts, performed, reached, held, found⟩ := performed_wrapped
    have executed := Executed.fresh.run .solidsDone wrapped (fun _ => false) empty performed
    obtain ⟨_, word, same, faces, -, asks, execution, listed, yields⟩ :=
      finished _ _ executed reached .mesh "block" (by decide) held
    cases found.symm.trans same
    cases asks
    exact ⟨study, left, starts, performed, executed, reached, held, found, faces, execution, listed,
      yields⟩
  · obtain ⟨outcome, left, start, performed, leaves⟩ := performed_bare
    obtain ⟨fault, ends, -, -, untouched⟩ := refused _ _ _ _ _ _ _ _ _ .fresh performed _
      (List.mem_singleton_self _) solid leaves (List.cons_ne_nil _ _)
    exact ⟨outcome, left, start, performed, leaves, ⟨fault, ends⟩, untouched⟩

end Study

end SolidStudy
