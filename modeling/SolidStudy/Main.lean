import SolidStudy.CommandLine

/-! The program on a real computer. Files are used directly. Programs are started by the caller:
each command is written to standard error, and the answer is read from standard input, first a
line that says how the program ended and then its diagnostics up to a line with a single point. -/
namespace SolidStudy.Terminal

def faultOf : IO.Error → HostFault
  | .noFileOrDirectory .. => .notFound
  | .permissionDenied .. => .permissionDenied
  | .inappropriateType .. => .isADirectory
  | _ => .notFound

def attempt {α : Type} (action : IO α) : IO (Except HostFault α) := do
  try
    return .ok (← action)
  catch e =>
    return .error (faultOf e)

def readFile (path : String) : IO (Except HostFault Text.Utf8.Octets) := do
  if Command.hasNul path then return .error .nulCharacter
  return (← attempt (IO.FS.readBinFile path)).map (·.toList)

def removeFile (path : String) : IO Unit := do
  if Command.hasNul path then return
  let _ ← attempt (IO.FS.removeFile path)

def readLine (input : IO.FS.Stream) : IO String := do
  return String.ofList (Text.dropEndWhile (· = '\n') (← input.getLine).toList)

partial def readDiagnostics (input : IO.FS.Stream) (text : String) : IO String := do
  let line ← input.getLine
  if line.isEmpty ∨ line = ".\n" then return text
  readDiagnostics input (text ++ line)

/-- The first line of an answer: `exit` or `signal` with a number; any other line refuses. -/
def statusOf (line : String) : Option ExitStatus :=
  match (Text.words line.toList).map String.ofList with
  | ["exit", code] => (Number.readCount code.toList).map .exited
  | ["signal", signal] => (Number.readCount signal.toList).map .killed
  | _ => none

def describe (command : Command) : String :=
  let bindings := command.environment.map fun (name, value) => name ++ "=" ++ value
  Value.render (.ofStrings (bindings ++ command.program :: command.arguments))

def run (command : Command) : IO (Except HostFault Ended) := do
  IO.eprintln (describe command)
  let input ← IO.getStdin
  match statusOf (← readLine input) with
  | none => return .error .notFound
  | some status => return .ok ⟨status, (← readDiagnostics input "").toUTF8.toList⟩

def isFile (path : String) : IO Bool := do
  match ← readFile path with
  | .ok _ => return true
  | .error _ => return false

def pathExists (path : String) : IO Bool := do
  match ← readFile path with
  | .error .notFound => return false
  | _ => return true

/-- The first number that makes a new name, of those from `first` on. -/
partial def makeDirectory (parent start : String) (first : Nat) :
    IO (Except (HostFault × String) String) := do
  let path := Path.join parent (start ++ toString first)
  if ← pathExists path then makeDirectory parent start (first + 1)
  else
    match ← attempt (IO.FS.createDir path) with
    | .ok () => return .ok path
    | .error cause => return .error (cause, path)

def session : Session IO where
  run := run
  contents := readFile
  removeFile := removeFile
  pathExists := pathExists
  isFile := isFile
  currentDir := do return (← IO.currentDir).toString
  temporaryDir := do return (← IO.getEnv "TMPDIR").getD "/tmp"
  makeDirectory parent start := makeDirectory parent start 0
  removeTree path := do
    let _ ← attempt (IO.FS.removeDirAll path)
  print := IO.print
  printError := IO.eprint

end SolidStudy.Terminal

def main (args : List String) : IO UInt32 := do
  return (← SolidStudy.Terminal.session.serve args).toUInt32
