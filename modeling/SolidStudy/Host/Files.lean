import SolidStudy.Host
import SolidStudy.Invocation

/-! Files as a map from paths, and a host whose only state they are. A program is any change of
the files together with the way it ends. -/
namespace SolidStudy

inductive Node where
  | file (octets : Text.Utf8.Octets)
  | directory
  deriving DecidableEq, Repr

abbrev Files := String → Option Node

namespace Files

def empty : Files := fun _ => none

def put (files : Files) (path : String) (node : Node) : Files :=
  fun p => if p = path then some node else files p

/-- A file is removed; a directory stays. -/
def removeFile (files : Files) (path : String) : Files :=
  fun p => if p = path then (files p).filter (· = .directory) else files p

/-- A path with all that lies below it is removed. -/
def removeTree (files : Files) (path : String) : Files :=
  fun p => if p = path ∨ (path ++ "/").toList.isPrefixOf p.toList then none else files p

/-- No name of a file is longer than 255 octets. -/
def nameFits (path : String) : Bool := (Path.lastName path).utf8ByteSize ≤ 255

def read (files : Files) (path : String) : Except HostFault Text.Utf8.Octets :=
  match files path with
  | some (.file octets) => .ok octets
  | some .directory => .error .isADirectory
  | none => .error (if nameFits path then .notFound else .nameTooLong)

/-- What programs do to the files. -/
abbrev Programs := Command → Files → Except HostFault Ended × Files

def host (programs : Programs) : Host (StateM Files) where
  run command := programs command
  contents path := do return (← get).read path
  removeFile path := modify (·.removeFile path)

end Files

end SolidStudy
