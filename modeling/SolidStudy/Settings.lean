import SolidStudy.Host
import SolidStudy.Json.Record

/-! The settings of the program, kept in a JSON file: how the evaluator is started, where the
files of a run are put, and how far a run goes. -/
namespace SolidStudy

structure Settings where
  /-- The evaluator and the arguments that come first. -/
  command : List String
  /-- Where the evaluator looks for libraries of models. -/
  libraryPath : Option String
  /-- Where the directory of a run is made. -/
  tempDir : Option String
  /-- Whether a run goes on to the geometry of the objects. -/
  extractObjects : Bool
  deriving DecidableEq, Repr

inductive SettingsFault where
  | notOpened (cause : HostFault)
  | notRead (cause : HostFault)
  | notParsed (fault : Json.Fault)
  | emptyCommand
  deriving DecidableEq, Repr

def SettingsFault.message : SettingsFault → String
  | .notOpened cause => s!"Failed to open config file: {cause.message}"
  | .notRead cause => s!"Failed to parse config file: {cause.message}"
  | .notParsed fault => s!"Failed to parse config file: {fault.message}"
  | .emptyCommand => "openscad_command must not be empty"

namespace Settings

def default : Settings where
  command := ["openscad"]
  libraryPath := none
  tempDir := none
  extractObjects := true

open Json in
def fields : List (Json.Field Settings) := [
  ⟨"openscad_command", fun settings s => do
    let (command, rest) ← readList (readTextValue "a string") s
    return ({ settings with command := command }, rest)⟩,
  ⟨"library_path", fun settings s => do
    let (path, rest) ← readOptional (readTextValue "path string") s
    return ({ settings with libraryPath := path }, rest)⟩,
  ⟨"temp_dir", fun settings s => do
    let (path, rest) ← readOptional (readTextValue "path string") s
    return ({ settings with tempDir := path }, rest)⟩,
  ⟨"extract_objects", fun settings s => do
    let (flag, rest) ← readBoolean s
    return ({ settings with extractObjects := flag }, rest)⟩]

/-- The settings of a JSON text. The command may not be empty. -/
def read (text : List Char) : Except SettingsFault Settings :=
  match Json.readWhole (Json.readRecord fields "struct SystemConfig" default) text with
  | .error fault => .error (.notParsed fault)
  | .ok settings => if settings.command = [] then .error .emptyCommand else .ok settings

/-- A directory is opened like a file, but not read, and a text has to be text. -/
def ofFile (file : Except HostFault (List Char)) : Except SettingsFault Settings :=
  match file with
  | .ok text => read text
  | .error .isADirectory => .error (.notRead .isADirectory)
  | .error .notText => .error (.notRead .notText)
  | .error cause => .error (.notOpened cause)

def document (settings : Settings) : Json.Document := .object [
  ("openscad_command", .list (settings.command.map .text)),
  ("library_path", .orNull .text settings.libraryPath),
  ("temp_dir", .orNull .text settings.tempDir),
  ("extract_objects", .boolean settings.extractObjects)]

def write (settings : Settings) : String := settings.document.compact

end Settings

end SolidStudy
