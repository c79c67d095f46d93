import SolidStudy.Table
import SolidStudy.Text
import SolidStudy.Value

/-! What an evaluator is asked to do: to read one model with some variables set, and to write its
geometry into one file. One variable, the mode, says what part of the model is wanted. Paths of
files are texts whose parts are divided by slashes. -/
namespace SolidStudy

namespace Path

def isAbsolute (path : String) : Bool := path.toList.head? = some '/'

/-- A path seen from a directory. An absolute path is not changed, and no slash is added to an
empty directory or after a slash. -/
def join (directory path : String) : String :=
  if isAbsolute path then path
  else if directory.isEmpty ∨ directory.toList.getLast? = some '/' then directory ++ path
  else directory ++ "/" ++ path

/-- The parts of a path. Slashes side by side divide once, and a single dot is no part. -/
def parts (path : String) : List (List Char) :=
  (Text.splitAt (· = '/') path.toList).filter fun part => part ≠ [] && part ≠ ['.']

/-- The name of what a path leads to. There is none if the path ends one directory up. -/
def entryName? (path : String) : Option String :=
  match (parts path).getLast? with
  | none => none
  | some part => if part = ['.', '.'] then none else some (String.ofList part)

/-- Whether a name stands for one entry of a directory, whatever divides the parts of a path. -/
def isPlainName (name : String) : Bool :=
  name ≠ "" && !name.toList.any (fun c => c = '/' || c = '\\') && entryName? name = some name

def lastName (path : String) : String :=
  String.ofList (path.toList.reverse.takeWhile (· ≠ '/')).reverse

end Path

structure Invocation where
  /-- The file of the model. -/
  source : String
  outputDir : String
  /-- The name of the geometry file, without its ending. -/
  stem : String
  defines : Table Value

namespace Invocation

/-- The variable that says what part of the model is wanted. -/
def modeVariable : String := "__openscad2calculix_mode"

def new (source outputDir stem : String) : Invocation := ⟨source, outputDir, stem, .empty⟩

def withDefine (invocation : Invocation) (name : String) (value : Value) : Invocation :=
  { invocation with defines := invocation.defines.insert name value }

def withMode (invocation : Invocation) (mode : Value) : Invocation :=
  invocation.withDefine modeVariable mode

def mode? (invocation : Invocation) : Option Value := invocation.defines.get? modeVariable

def geometryPath (invocation : Invocation) : String :=
  Path.join invocation.outputDir (invocation.stem ++ ".off")

/-- Whether the geometry file lies in the output directory itself. -/
def staysInOutputDir (invocation : Invocation) : Bool := Path.isPlainName invocation.stem

def defineArgument (name : String) (value : Value) : String := name ++ "=" ++ value.render

def arguments (invocation : Invocation) (path : String) : List String :=
  ["-o", path] ++
    invocation.defines.entries.flatMap (fun (name, value) => ["-D", defineArgument name value]) ++
    [invocation.source]

end Invocation

end SolidStudy
