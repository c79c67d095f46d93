import SolidStudy.Diagnostics
import SolidStudy.Host
import SolidStudy.Invocation
import SolidStudy.Polyhedron.Off

/-! What an evaluator answers to an invocation, and the ways in which it gives no answer. -/
namespace SolidStudy

inductive GeometryFault where
  | host (fault : HostFault)
  | off (fault : OffFault)
  deriving DecidableEq, Repr

def GeometryFault.message : GeometryFault → String
  | .host fault => fault.message
  | .off fault => fault.message

inductive EvaluatorFault where
  | notStarted (program : String) (cause : HostFault)
  | failed (status diagnostics : String)
  | unreadableEcho (fault : UnreadableEcho)
  | unreadableGeometry (path : String) (fault : GeometryFault)
  | invalidStem (stem : String)
  | noCommand
  deriving DecidableEq, Repr

def EvaluatorFault.message : EvaluatorFault → String
  | .notStarted program cause => s!"failed to launch {program}: {cause.message}"
  | .failed status diagnostics => s!"openscad exited with {status}:\n{diagnostics}"
  | .unreadableEcho fault => fault.message
  | .unreadableGeometry path fault => s!"failed to read geometry file {path}: {fault.message}"
  | .invalidStem stem => s!"invalid geometry file stem '{stem}'"
  | .noCommand => "no evaluator command configured"

/-- The path of the geometry file, if it lies in the output directory itself. -/
def Invocation.checkedGeometryPath (invocation : Invocation) : Except EvaluatorFault String :=
  if invocation.staysInOutputDir then .ok invocation.geometryPath
  else .error (.invalidStem invocation.stem)

structure Evaluation where
  /-- A solid with at least one face. -/
  geometry : Option Polyhedron
  warnings : List String
  statements : List Statement

namespace Evaluation

/-- The solid of a geometry file. A missing file, like one without faces, has none. -/
def geometryOf (path : String) (file : Except HostFault (List Char)) :
    Except EvaluatorFault (Option Polyhedron) :=
  match file with
  | .error .notFound => .ok none
  | .error fault => .error (.unreadableGeometry path (.host fault))
  | .ok text =>
    match Polyhedron.ofOff text with
    | .error fault => .error (.unreadableGeometry path (.off fault))
    | .ok solid => .ok (solid.filter fun solid => !solid.isEmpty)

/-- The answer of an evaluator that came to a good end. The diagnostics are read before the
geometry file, whose fault counts only if they have none. -/
def ofOutput (channel : List Char) (path : String) (file : Except HostFault (List Char)) :
    Except EvaluatorFault Evaluation :=
  match Diagnostics.read channel with
  | .error fault => .error (.unreadableEcho fault)
  | .ok diagnostics => do
    let geometry ← geometryOf path file
    return ⟨geometry, diagnostics.warnings, diagnostics.statements⟩

end Evaluation

end SolidStudy
