import SolidStudy.Evaluation

/-! The evaluator is a program that is started anew for every invocation. It writes its geometry
into a file that belongs to the invocation: whatever was there before is removed first, and the
file is removed again on every way out. -/
namespace SolidStudy

structure Evaluator where
  /-- The program and the arguments that come first. -/
  command : List String
  /-- Where the evaluator looks for libraries of models. -/
  libraryPath : Option String
  deriving DecidableEq, Repr

namespace Evaluator

/-- The variable that holds the library path. -/
def libraryVariable : String := "OPENSCADPATH"

/-- The command for an invocation that writes to the given file. -/
def commandFor? (evaluator : Evaluator) (invocation : Invocation) (path : String) :
    Option Command :=
  match evaluator.command with
  | [] => none
  | program :: leading => some {
      program := program
      arguments := leading ++ invocation.arguments path
      environment := evaluator.libraryPath.toList.map (libraryVariable, ·) }

variable {m : Type → Type} [Monad m]

def collect (evaluator : Evaluator) (host : Host m) (invocation : Invocation) (path : String) :
    m (Except EvaluatorFault Evaluation) :=
  match evaluator.commandFor? invocation path with
  | none => pure (.error .noCommand)
  | some command => do
    match ← host.start command with
    | .error cause => return .error (.notStarted command.program cause)
    | .ok ended =>
      let channel := Text.Utf8.decodeLossy ended.diagnostics
      if ended.status = .exited 0 then
        return Evaluation.ofOutput channel path (← host.readText path)
      else return .error (.failed ended.status.describe (String.ofList channel))

def evaluate (evaluator : Evaluator) (host : Host m) (invocation : Invocation) :
    m (Except EvaluatorFault Evaluation) :=
  match invocation.checkedGeometryPath with
  | .error fault => pure (.error fault)
  | .ok path => do
    host.removeFile path
    let result ← evaluator.collect host invocation path
    host.removeFile path
    return result

end Evaluator

end SolidStudy
