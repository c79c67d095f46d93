import SolidStudy.CommandLine.Request
import SolidStudy.Evaluator
import SolidStudy.Report
import SolidStudy.Run

/-! The program: a request is carried out in a session, and the report of the study is printed if
the run reached its target. Geometry files lie in a directory of their own that exists only during
the run. -/
namespace SolidStudy

/-- A host with directories and channels for text. -/
structure Session (m : Type → Type) extends Host m where
  pathExists : String → m Bool
  isFile : String → m Bool
  currentDir : m String
  /-- Where temporary files are put if nothing else is said. -/
  temporaryDir : m String
  /-- Makes a directory inside another one, with a new name that begins as given. A refusal
  names the path that was tried. -/
  makeDirectory : String → String → m (Except (HostFault × String) String)
  removeTree : String → m Unit
  print : String → m Unit
  printError : String → m Unit

inductive CommandFault where
  | settings (fault : SettingsFault)
  | modelNotFound (path : String)
  | noRunDirectory (cause : HostFault) (path : String)
  | run (fault : RunFault)
  deriving DecidableEq, Repr

def CommandFault.message : CommandFault → String
  | .settings fault => s!"Internal error: {fault.message}"
  | .modelNotFound path => s!"Internal error: Model file not found: {path}"
  | .noRunDirectory cause path =>
    s!"Internal error: Failed to create temp dir: {cause.message} at path {Text.shown path}"
  | .run fault => fault.message

def Report.render (report : Report) : Format → String
  | .text => report.text
  | .json => report.json ++ "\n"

namespace Request

/-- How the names of directories of runs begin. -/
def directoryStart : String := "os2cx-"

variable {m : Type → Type} [Monad m] (session : Session m) (request : Request)

/-- Without a settings file the defaults hold. -/
def loadSettings : m (Except SettingsFault Settings) := do
  if ← session.pathExists request.settingsFile then
    return Settings.ofFile (← session.readText request.settingsFile)
  else return .ok .default

def handler (settings : Settings) : Job.Handler m where
  log line := if request.showsLog then session.printError (line ++ "\n") else pure ()
  checkpoint _ := pure false
  ask := Evaluator.evaluate ⟨settings.command, settings.libraryPath⟩ session.toHost

def runParent (settings : Settings) : m String := do
  let parent ← settings.tempDir.elim session.temporaryDir pure
  return Path.join (← session.currentDir) parent

def runIn (settings : Settings) (directory : String) : m Outcome :=
  ((Study.new request.model directory).run (request.target settings)).perform
    (request.handler session settings)

/-- The report of the study, if its run reached the target. -/
def reportRun (settings : Settings) : m (Except CommandFault String) := do
  match ← session.makeDirectory (← runParent session settings) directoryStart with
  | .error (cause, path) => return .error (.noRunDirectory cause path)
  | .ok directory =>
    let outcome ← request.runIn session settings directory
    session.removeTree directory
    match outcome.result with
    | .error fault => return .error (.run fault)
    | .ok () => return .ok (outcome.study.report.render request.format)

def execute : m (Except CommandFault String) := do
  match ← request.loadSettings session with
  | .error fault => return .error (.settings fault)
  | .ok settings =>
    if ← session.isFile request.model then request.reportRun session settings
    else return .error (.modelNotFound request.model)

end Request

def usage : String :=
  "Usage: os2cx [--config <CONFIG>] [--verbose] <inventory|run> [--format <text|json>] <SCAD>\n"

/-- Carries out the request of some arguments. The result is the exit code. -/
def Session.serve {m : Type → Type} [Monad m] (session : Session m) (args : List String) :
    m Nat := do
  match Request.ofArguments args with
  | none =>
    session.printError usage
    return 2
  | some request =>
    match ← request.execute session with
    | .ok text =>
      session.print text
      return 0
    | .error fault =>
      session.printError s!"Error: {fault.message}\n"
      return 1

end SolidStudy
