import Mathlib
import SolidStudy.Proofs.CommandLine.Console
import SolidStudy.Proofs.Run.Carried

/-! What the program answers to a request. It prints the report of a study if and only if the run
reached its target; wherever else it comes to an end, it prints a fault on the other channel. -/
namespace SolidStudy

variable {World : Type}

namespace Request

variable (session : Session (StateM World)) (request : Request)

/-- The settings in force, or why there are none. Without a settings file the defaults hold. -/
inductive Configures (world : World) : Except SettingsFault Settings → World → Prop
  | absent {w : World}
      (gone : (session.pathExists request.settingsFile).run world = (false, w)) :
      Configures world (.ok .default) w
  | file {mid w : World} {text : Except HostFault (List Char)}
      (there : (session.pathExists request.settingsFile).run world = (true, mid))
      (read : (session.readText request.settingsFile).run mid = (text, w)) :
      Configures world (Settings.ofFile text) w

/-- There are settings, and the model is a file. -/
inductive Admits (world : World) : Settings → World → Prop
  | model {settings : Settings} {mid w : World}
      (configured : Configures session request world (.ok settings) mid)
      (file : (session.isFile request.model).run mid = (true, w)) : Admits world settings w

/-- A directory is made for the run. -/
inductive Places (world : World) : Settings → String → World → Prop
  | directory {settings : Settings} {parent directory : String} {mid w w' : World}
      (admitted : Admits session request world settings mid)
      (inside : (runParent session settings).run mid = (parent, w))
      (made : (session.makeDirectory parent directoryStart).run w = (.ok directory, w')) :
      Places world settings directory w'

/-- The stages of the run go like this. They are those up to the target. -/
inductive Proceeds (world : World) : Settings → Outcome → Prop
  | stages {settings : Settings} {directory : String} {outcome : Outcome} {w w' : World}
      (placed : Places session request world settings directory w)
      (carried : Stage.Carried (request.handler session.quiet settings)
        (Stage.all.filter (·.reaches ≤ request.target settings))
        (.new request.model directory) w outcome w') : Proceeds world settings outcome

/-- The study is brought to the target. -/
def Reaches (world : World) (settings : Settings) (study : Study) : Prop :=
  Proceeds session request world settings ⟨study, .ok ()⟩

/-- The ways in which a request comes to an end before its target. -/
inductive Stops (world : World) : CommandFault → Prop
  | settings {fault : SettingsFault} {w : World}
      (refused : Configures session request world (.error fault) w) : Stops world (.settings fault)
  | modelNotFound {settings : Settings} {mid w : World}
      (configured : Configures session request world (.ok settings) mid)
      (absent : (session.isFile request.model).run mid = (false, w)) :
      Stops world (.modelNotFound request.model)
  | noRunDirectory {settings : Settings} {parent path : String} {cause : HostFault}
      {mid w w' : World} (admitted : Admits session request world settings mid)
      (inside : (runParent session settings).run mid = (parent, w))
      (refused : (session.makeDirectory parent directoryStart).run w =
        (.error (cause, path), w')) : Stops world (.noRunDirectory cause path)
  | stage {settings : Settings} {reached : Study} {fault : RunFault}
      (fails : Proceeds session request world settings ⟨reached, .error fault⟩) :
      Stops world (.run fault)

variable {session : Session (StateM World)} {request : Request} {world w : World}
  {settings : Settings} {study : Study} {fault : CommandFault}

theorem run_loadSettings {result : Except SettingsFault Settings}
    (h : Configures session request world result w) :
    (request.loadSettings session.quiet).run world = (result, w) := by
  cases h with
  | absent gone =>
    have gone : (session.quiet.pathExists request.settingsFile).run world = (false, w) := gone
    rw [loadSettings, Evaluator.run_bind_of_run gone]
    rfl
  | file there read =>
    have there : (session.quiet.pathExists request.settingsFile).run world = (true, _) := there
    rw [loadSettings, Evaluator.run_bind_of_run there, if_pos rfl]
    exact Evaluator.run_bind_of_run read

theorem exists_configures (session : Session (StateM World)) (request : Request) (world : World) :
    ∃ result w, Configures session request world result w := by
  rcases found : (session.pathExists request.settingsFile).run world with ⟨there, w⟩
  cases there with
  | false => exact ⟨_, _, .absent found⟩
  | true => exact ⟨_, _, .file found rfl⟩

/-- A request reaches its target or stops before. -/
theorem reaches_or_stops (session : Session (StateM World)) (request : Request) (world : World) :
    (∃ settings study, Reaches session request world settings study) ∨
      ∃ fault, Stops session request world fault := by
  obtain ⟨settings, w, configured⟩ := exists_configures session request world
  cases settings with
  | error fault => exact .inr ⟨_, .settings configured⟩
  | ok settings =>
    rcases file : (session.isFile request.model).run w with ⟨there, w⟩
    cases there with
    | false => exact .inr ⟨_, .modelNotFound configured file⟩
    | true =>
      have admitted : Admits session request world settings w := .model configured file
      rcases inside : (runParent session settings).run w with ⟨parent, w⟩
      rcases made : (session.makeDirectory parent directoryStart).run w with
        ⟨refused | directory, w⟩
      · exact .inr ⟨_, .noRunDirectory admitted inside made⟩
      · have placed : Places session request world settings directory w :=
          .directory admitted inside made
        obtain ⟨outcome, w', carried⟩ := Stage.exists_carried
          (request.handler session.quiet settings)
          (Stage.all.filter (·.reaches ≤ request.target settings)) (.new request.model directory) w
        obtain ⟨study, result⟩ := outcome
        cases result with
        | ok => exact .inl ⟨settings, study, .stages placed carried⟩
        | error fault => exact .inr ⟨_, .stage (.stages placed carried)⟩

theorem handler_quiet (settings : Settings) : (request.handler session.quiet settings).Quiet where
  log line w := by
    simp only [handler]
    split_ifs <;> rfl
  checkpoint study w := rfl

theorem run_execute_of_admits (h : Admits session request world settings w) :
    (request.execute session.quiet).run world =
      (request.reportRun session.quiet settings).run w := by
  cases h with
  | model configured file =>
    rw [execute, Evaluator.run_bind_of_run (run_loadSettings configured)]
    exact Evaluator.run_bind_of_run file

/-- A run that is not begun, or one that ends in a fault, is reported as a fault. -/
theorem run_execute_of_proceeds {outcome : Outcome}
    (h : Proceeds session request world settings outcome) :
    ((request.execute session.quiet).run world).1 = match outcome.result with
      | .ok () => .ok (outcome.study.report.render request.format)
      | .error fault => .error (.run fault) := by
  cases h with
  | stages placed carried =>
    have ran := carried.run (handler_quiet settings)
    cases placed with
    | directory admitted inside made =>
      have inside : (runParent session.quiet settings).run _ = _ := inside
      have made : (session.quiet.makeDirectory _ directoryStart).run _ = _ := made
      rw [run_execute_of_admits admitted, reportRun, Evaluator.run_bind_of_run inside,
        Evaluator.run_bind_of_run made]
      dsimp only
      rw [runIn, Evaluator.run_bind_of_run ran, StateT.run_bind]
      obtain ⟨study, result⟩ := outcome
      cases result with
      | ok => rfl
      | error fault => cases fault <;> rfl

theorem run_execute_of_stops (h : Stops session request world fault) :
    ((request.execute session.quiet).run world).1 = .error fault := by
  cases h with
  | settings refused =>
    rw [execute, Evaluator.run_bind_of_run (run_loadSettings refused)]
    rfl
  | modelNotFound configured absent =>
    have absent : (session.quiet.isFile request.model).run _ = (false, _) := absent
    rw [execute, Evaluator.run_bind_of_run (run_loadSettings configured)]
    dsimp only
    rw [Evaluator.run_bind_of_run absent]
    rfl
  | noRunDirectory admitted inside refused =>
    have inside : (runParent session.quiet _).run _ = _ := inside
    have refused : (session.quiet.makeDirectory _ directoryStart).run _ = _ := refused
    rw [run_execute_of_admits admitted, reportRun, Evaluator.run_bind_of_run inside,
      Evaluator.run_bind_of_run refused]
    rfl
  | stage fails => exact run_execute_of_proceeds fails

theorem progress_of_reaches (h : Reaches session request world settings study) :
    study.progress = request.target settings := by
  cases h with
  | stages _ carried =>
    have listed : ∀ stage ∈ Stage.all.filter (·.reaches ≤ request.target settings),
        stage ∈ Stage.all := fun stage member => List.mem_of_mem_filter member
    rw [carried.progress rfl listed]
    rcases target : request.target settings with _ | _ | _
    · rw [Request.target] at target
      split at target
      · cases target
      · split at target <;> cases target
    · rfl
    · rfl

variable {P : Command → Prop} {c : Console World}

theorem tracks_loadSettings : Console.Tracks P (request.loadSettings session.onConsole)
    (request.loadSettings session.quiet) := by
  refine (Console.Tracks.lift _).bind fun there => ?_
  cases there with
  | false => exact .pure _
  | true =>
    refine .bind ?_ fun _ => .pure _
    exact (Console.Tracks.lift _).bind fun found => by cases found <;> exact .pure _

theorem tracks_reportRun (own : ∀ directory events outcome,
      Job.Runs ((Study.new request.model directory).run (request.target settings)) events outcome →
      ∀ invocation ∈ Job.asked events, ∀ command,
        (evaluator settings).commandFor? invocation invocation.geometryPath = some command →
          P command) :
    Console.Tracks P (request.reportRun session.onConsole settings)
      (request.reportRun session.quiet settings) := by
  have parent : Console.Tracks P (runParent session.onConsole settings)
      (runParent session.quiet settings) := by
    rw [runParent, runParent]
    refine .bind ?_ fun _ => (Console.Tracks.lift _).bind fun _ => .pure _
    cases settings.tempDir with
    | none => exact .lift _
    | some => exact .pure _
  refine parent.bind fun _ => (Console.Tracks.lift _).bind fun made => ?_
  rcases made with ⟨cause, path⟩ | directory
  · exact .pure _
  · refine (tracks_perform _ (own directory)).bind fun outcome =>
      (Console.Tracks.lift _).bind fun _ => ?_
    rcases outcome with ⟨study, fault | ⟨⟩⟩ <;> exact .pure _

theorem tracks_execute : Console.Tracks (fun _ => True) (request.execute session.onConsole)
    (request.execute session.quiet) := by
  refine tracks_loadSettings.bind fun loaded => ?_
  cases loaded with
  | error => exact .pure _
  | ok settings =>
    refine (Console.Tracks.lift _).bind fun file => ?_
    cases file with
    | false => exact .pure _
    | true => exact tracks_reportRun fun _ _ _ _ _ _ _ _ => trivial

/-- What is started under some settings belongs to the questions of a run under these settings. -/
theorem leads_execute (configured : Configures session request c.world (.ok settings) w)
    (own : ∀ directory events outcome,
      Job.Runs ((Study.new request.model directory).run (request.target settings)) events outcome →
      ∀ invocation ∈ Job.asked events, ∀ command,
        (evaluator settings).commandFor? invocation invocation.geometryPath = some command →
          P command) :
    Console.Leads P c ((request.execute session.onConsole).run c).2 := by
  obtain ⟨mid, loaded, reached, before⟩ := tracks_loadSettings c
  rw [run_loadSettings configured] at loaded reached
  have rest : Console.Tracks P
      (session.onConsole.isFile request.model >>= fun file =>
        if file then request.reportRun session.onConsole settings
        else pure (.error (.modelNotFound request.model)))
      (session.quiet.isFile request.model >>= fun file =>
        if file then request.reportRun session.quiet settings
        else pure (.error (.modelNotFound request.model))) := by
    refine (Console.Tracks.lift _).bind fun file => ?_
    cases file with
    | false => exact .pure _
    | true => exact tracks_reportRun own
  obtain ⟨c', ran, -, behind⟩ := rest mid
  rw [execute, Evaluator.run_bind_of_run loaded]
  have ends := congrArg Prod.snd ran
  exact before.trans (ends ▸ behind)

theorem asked_of_target_inventory {source outputDir : String} {events : List Job.Event}
    {outcome : Outcome}
    (runs : Job.Runs ((Study.new source outputDir).run .inventoryDone) events outcome) :
    ∀ invocation ∈ Job.asked events,
      invocation = (Study.new source outputDir).inventoryInvocation := by
  have beyond {mid : Study} {later : List Job.Event} {ending : Outcome}
      (h : Study.RunsStages .inventoryDone [.objects] mid later ending) : Job.asked later = [] := by
    have apart : ¬Stage.objects.reaches ≤ .inventoryDone := by decide
    cases h with
    | skipped _ h =>
      cases h
      rfl
    | failed due | interrupted due | performed due => exact absurd due.2 apart
  intro invocation asked
  rcases Study.run_runs_iff.mp runs with ⟨rfl, -⟩ | ⟨later, ending, rfl, stages, -⟩
  · simp at asked
  · cases stages with
    | skipped _ h => simp [beyond h] at asked
    | failed _ fails =>
      simpa [Study.asked_takeInventory fails] using asked
    | interrupted _ gets =>
      simpa [Study.asked_takeInventory gets] using asked
    | performed _ gets h =>
      simpa [Study.asked_takeInventory gets, beyond h] using asked

theorem target_eq (request : Request) (settings : Settings) : request.target settings =
    if request.action = .run ∧ settings.extractObjects = true then .solidsDone
    else .inventoryDone := by
  rw [target]
  cases request.action <;> simp

theorem run_serve_of_ok {args : List String} (parsed : ofArguments args = some request)
    {text : String} {c' : Console World}
    (ran : (request.execute session.onConsole).run c = (.ok text, c')) :
    (session.onConsole.serve args).run c = (0, { c' with printed := c'.printed ++ text }) := by
  rw [Session.serve, parsed]
  dsimp only
  rw [Evaluator.run_bind_of_run ran]
  rfl

theorem run_serve_of_error {args : List String} (parsed : ofArguments args = some request)
    {c' : Console World} (ran : (request.execute session.onConsole).run c = (.error fault, c')) :
    (session.onConsole.serve args).run c =
      (1, { c' with errors := c'.errors ++ s!"Error: {fault.message}\n" }) := by
  rw [Session.serve, parsed]
  dsimp only
  rw [Evaluator.run_bind_of_run ran]
  rfl

def onset (world : World) : Console World := ⟨world, "", "", []⟩

theorem serve_of_reaches {args : List String} (parsed : ofArguments args = some request)
    (h : Reaches session request world settings study) :
    let ended := (session.onConsole.serve args).run (onset world)
    ended.1 = 0 ∧ ended.2.printed = study.report.render request.format := by
  obtain ⟨c', ran, -, leads⟩ := tracks_execute (onset world)
  have same : ((request.execute session.quiet).run world).1 =
      .ok (study.report.render request.format) := run_execute_of_proceeds h
  rw [show ((request.execute session.quiet).run (onset world).world).1 = _ from same] at ran
  rw [run_serve_of_ok parsed ran, leads.printed]
  exact ⟨rfl, String.empty_append⟩

theorem serve_of_stops {args : List String} (parsed : ofArguments args = some request)
    (h : Stops session request world fault) :
    let ended := (session.onConsole.serve args).run (onset world)
    ended.1 = 1 ∧ ended.2.printed = "" ∧
      ∃ shown, ended.2.errors = shown ++ s!"Error: {fault.message}\n" := by
  obtain ⟨c', ran, -, leads⟩ := tracks_execute (onset world)
  have same : ((request.execute session.quiet).run world).1 = .error fault :=
    run_execute_of_stops h
  rw [show ((request.execute session.quiet).run (onset world).world).1 = _ from same] at ran
  rw [run_serve_of_error parsed ran, leads.printed]
  exact ⟨rfl, rfl, _, rfl⟩

theorem started_serve {args : List String} (parsed : ofArguments args = some request) :
    ((session.onConsole.serve args).run c).2.started =
      ((request.execute session.onConsole).run c).2.started := by
  rcases ran : (request.execute session.onConsole).run c with ⟨fault | text, c'⟩
  · rw [run_serve_of_error parsed ran]
  · rw [run_serve_of_ok parsed ran]

/-- The command is one for the inventory of the model, in some directory. -/
def AsksInventory (request : Request) (settings : Settings) (command : Command) : Prop :=
  ∃ directory, let inventory := (Study.new request.model directory).inventoryInvocation
    (evaluator settings).commandFor? inventory inventory.geometryPath = some command

theorem started_inventory {args : List String} (parsed : ofArguments args = some request)
    (configured : Configures session request world (.ok settings) w)
    (short : request.target settings = .inventoryDone) :
    ∀ command ∈ ((session.onConsole.serve args).run (onset world)).2.started,
      request.AsksInventory settings command := by
  have own : ∀ directory events outcome,
      Job.Runs ((Study.new request.model directory).run (request.target settings)) events outcome →
      ∀ invocation ∈ Job.asked events, ∀ command,
        (evaluator settings).commandFor? invocation invocation.geometryPath = some command →
          request.AsksInventory settings command := by
    intro directory events outcome runs invocation asked command asks
    rw [short] at runs
    obtain rfl := asked_of_target_inventory runs invocation asked
    exact ⟨directory, asks⟩
  have began : Configures session request (onset world).world (.ok settings) w := configured
  obtain ⟨commands, same, each⟩ := (leads_execute began own).started
  rw [started_serve parsed, same]
  exact each

/-- A request is answered with code zero if and only if its settings are there, its model is a file,
a directory can be made, and all stages up to the target come to a good end. Then the report of a
study that has reached the target is printed, and nothing else; otherwise nothing is printed, and
the other channel ends in the fault. A target that is the inventory starts nothing else. -/
theorem reports_iff_reaches (session : Session (StateM World)) (request : Request) (world : World)
    (args : List String) (parsed : ofArguments args = some request) :
    let ended := (session.onConsole.serve args).run (onset world)
    (ended.1 = 0 ↔ ∃ settings study, request.Reaches session world settings study) ∧
    (∀ settings study, request.Reaches session world settings study →
      study.progress = (if request.action = .run ∧ settings.extractObjects = true then .solidsDone
        else .inventoryDone) ∧
      ended.2.printed = match request.format with
        | .text => study.report.text
        | .json => study.report.json ++ "\n") ∧
    (ended.1 ≠ 0 → ended.1 = 1 ∧ ended.2.printed = "" ∧
      ∃ shown fault, request.Stops session world fault ∧
        ended.2.errors = shown ++ s!"Error: {fault.message}\n") ∧
    ∀ settings w, request.Configures session world (.ok settings) w →
      request.target settings = .inventoryDone → ∀ command ∈ ended.2.started,
        request.AsksInventory settings command ∧ ∀ (study : Study) word name path,
          (evaluator settings).commandFor? (study.objectInvocation word name) path ≠
            some command := by
  intro ended
  refine ⟨⟨fun zero => ?_, ?_⟩, fun settings study reaches => ⟨?_, ?_⟩, fun other => ?_, ?_⟩
  · rcases reaches_or_stops session request world with reaches | ⟨fault, stops⟩
    · exact reaches
    · have one := (serve_of_stops parsed stops).1
      rw [zero] at one
      cases one
  · rintro ⟨settings, study, reaches⟩
    exact (serve_of_reaches parsed reaches).1
  · rw [progress_of_reaches reaches, target_eq]
  · rw [(serve_of_reaches parsed reaches).2]
    cases request.format <;> rfl
  · rcases reaches_or_stops session request world with ⟨_, _, reaches⟩ | ⟨fault, stops⟩
    · exact absurd (serve_of_reaches parsed reaches).1 other
    · obtain ⟨one, silent, shown, errors⟩ := serve_of_stops parsed stops
      exact ⟨one, silent, shown, fault, stops, errors⟩
  · intro settings w configured short command listed
    obtain ⟨directory, asks⟩ := started_inventory parsed configured short command listed
    refine ⟨⟨directory, asks⟩, fun study word name path same => ?_⟩
    have modes := Evaluator.mode_eq_of_command asks same
    simp at modes

/-- The inventory of a model that is there, and of one that is not. -/
theorem reports_iff_reaches_inventory :
    let programs : Files.Programs := fun _ found =>
      (.ok ⟨.exited 0, Evaluation.blockOctets⟩, found)
    let session : Session (StateM Files) := { Files.host programs with
      pathExists := fun path files => ((files path).isSome, files)
      isFile := fun path files => (decide (files path ≠ none ∧ files path ≠ some .directory), files)
      currentDir := pure "/work"
      temporaryDir := pure "/tmp"
      makeDirectory := fun _ _ files => (.ok "/tmp/os2cx-1", files.put "/tmp/os2cx-1" .directory)
      removeTree := fun path => modify (·.removeTree path)
      print := fun _ => pure ()
      printError := fun _ => pure () }
    let request : Request := ⟨.inventory, "part.scad", .json, "os2cx.json"⟩
    let args := ["inventory", "--format", "json", "part.scad"]
    let model := Files.empty.put "part.scad" (.file [])
    let here := (session.onConsole.serve args).run (onset model)
    let gone := (session.onConsole.serve args).run (onset Files.empty)
    ofArguments args = some request ∧
      (here.1 = 0 ∧ ∃ study : Study, study.progress = .inventoryDone ∧
        here.2.printed = study.report.json ++ "\n") ∧
      gone.1 = 1 ∧ gone.2.printed = "" ∧ ∃ shown fault, request.Stops session Files.empty fault ∧
        gone.2.errors = shown ++ s!"Error: {fault.message}\n" := by
  intro programs session request args model here gone
  have parsed : ofArguments args = some request := by decide +kernel
  refine ⟨parsed, ?_, ?_⟩
  · obtain ⟨zero, reached, -⟩ := reports_iff_reaches session request model args parsed
    let fresh := Study.new "part.scad" "/tmp/os2cx-1"
    let listed := { fresh with
      progress := .inventoryDone
      deck := ["*STEP"]
      units := some ⟨⟨"mm", .length, 1e-3⟩, ⟨"t", .mass, 1e3⟩, ⟨"s", .time, 1⟩⟩
      meshes := ⟨[("block", ⟨.automatic, none⟩)], List.pairwise_singleton _ _⟩ }
    let path := "/tmp/os2cx-1/inventory.off"
    let command : Command := ⟨"openscad", fresh.inventoryInvocation.arguments path, []⟩
    let placed := model.put "/tmp/os2cx-1" .directory
    let clean := placed.removeFile path
    have checked : fresh.inventoryInvocation.checkedGeometryPath = .ok path := by decide +kernel
    have passable : command.isPassable = true := by decide +kernel
    have absent : clean path = none := by decide +kernel
    have ran : programs command clean = (.ok ⟨.exited 0, Evaluation.blockOctets⟩, clean) := rfl
    have asks : (evaluator .default).commandFor? fresh.inventoryInvocation path = some command :=
      rfl
    have listing :=
      Evaluator.run_evaluate_block checked asks passable ran absent (by decide +kernel) []
    have step : ((evaluator .default).evaluate (Files.host programs)
        fresh.inventoryInvocation).run placed = _ := Evaluator.erases_evaluate ⟨placed, []⟩
    rw [listing] at step
    have taken : fresh.takeInventory.Gets
        [.asked fresh.inventoryInvocation (.ok ⟨none, [], Evaluation.blockStatements⟩)] listed :=
      Study.takeInventory_gets_iff.mpr
        ⟨_, { listed with progress := .nothingDone }, rfl, rfl, rfl, rfl⟩
    have gets : ((Stage.inventory.perform fresh).run.perform
        (request.handler session.quiet .default)).run placed = (.ok listed, _) :=
      Job.run_perform_iff.mpr ⟨_, taken, .cons step (.nil _)⟩
    have places : request.Places session model .default "/tmp/os2cx-1" placed :=
      .directory (.model (.absent rfl) rfl) rfl rfl
    have reaches : request.Reaches session model .default listed :=
      .stages places (.performed gets (.done _ _))
    obtain ⟨progress, printed⟩ := reached _ _ reaches
    exact ⟨zero.mpr ⟨_, _, reaches⟩, listed, progress, printed⟩
  · have stops : request.Stops session Files.empty (.modelNotFound "part.scad") :=
      .modelNotFound (.absent rfl) rfl
    obtain ⟨-, -, other, -⟩ := reports_iff_reaches session request Files.empty args parsed
    have one := (serve_of_stops parsed stops).1
    obtain ⟨-, silent, fails⟩ := other fun zero => by
      rw [one] at zero
      cases zero
    exact ⟨one, silent, fails⟩

end Request

end SolidStudy
