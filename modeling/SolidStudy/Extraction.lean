import SolidStudy.Directive
import SolidStudy.Job

/-! Getting a study out of its model. The evaluator is asked once for the inventory, the statements
that declare the objects of the study, and then once for each object that has geometry. Statements
that are no directives are passed over; an inventory is complete if its selections fit into a label
and it has an analysis. A study is changed only if all answers are good. -/
namespace SolidStudy

inductive RunFault where
  /-- A statement that is no readable directive, as it is written. -/
  | malformedStatement (statement : String) (fault : StatementFault)
  | configuration (fault : ConfigurationFault)
  | evaluator (fault : EvaluatorFault)
  | interrupted
  deriving DecidableEq, Repr

namespace RunFault

def message : RunFault → String
  | .malformedStatement statement fault => s!"in line {statement}: {fault.message}"
  | .configuration fault => fault.message
  | .evaluator fault => fault.message
  | .interrupted => "Operation aborted"

def ofDirective (statement : Statement) : DirectiveFault → RunFault
  | .malformed fault => .malformedStatement statement.render fault
  | .configuration fault => .configuration fault

end RunFault

abbrev Extraction := ExceptT RunFault Job

namespace Study

variable (study : Study)

def dispatch (statement : Statement) : Except RunFault Study :=
  match statement with
  | .text s :: values =>
    if s = Directive.marker then
      (Directive.apply study values).mapError (RunFault.ofDirective statement)
    else .ok study
  | _ => .ok study

/-- The statements in their order up to the first fault, whose predecessors stay applied. -/
def dispatchAll : Study → List Statement → Study × Except RunFault Unit
  | study, [] => (study, .ok ())
  | study, statement :: rest =>
    match study.dispatch statement with
    | .ok study => dispatchAll study rest
    | .error fault => (study, .error fault)

def checkComplete : Except RunFault Unit :=
  if study.bitCapacityExceeded then
    .error (.configuration (.tooManySelections study.selectionCount bitCapacity))
  else if study.deck = [] then .error (.configuration .missingAnalysis)
  else .ok ()

/-- The study after an inventory, and whether the inventory is accepted. -/
def applyInventory (statements : List Statement) : Study × Except RunFault Unit :=
  match study.dispatchAll statements with
  | (study, .ok ()) => (study, study.checkComplete)
  | refused => refused

def declareAll (statements : List Statement) : Except RunFault Study :=
  match study.applyInventory statements with
  | (study, .ok ()) => .ok study
  | (_, .error fault) => .error fault

def invocation (stem : String) (mode : List String) : Invocation :=
  (Invocation.new study.source study.outputDir stem).withMode (.ofStrings mode)

/-- The word that asks for the inventory, and the stem of its geometry file. -/
def inventoryWord : String := "inventory"

def inventoryInvocation : Invocation := study.invocation inventoryWord [inventoryWord]

def objectInvocation (word name : String) : Invocation := study.invocation name [word, name]

def ask (invocation : Invocation) : Extraction Evaluation := do
  match ← (Job.ask invocation .done : Job _) with
  | .ok evaluation => return evaluation
  | .error fault => throw (.evaluator fault)

/-- The study with all objects declared. A model with geometry of its own is refused. -/
def takeInventory : Extraction Study := do
  let evaluation ← ask study.inventoryInvocation
  if evaluation.geometry.isSome then throw (.configuration .unwrappedGeometry)
  let study ← study.declareAll evaluation.statements
  return { study with progress := .inventoryDone }

def fetchSolid (kind : ObjectKind) (name : String) : Extraction Polyhedron := do
  match kind.geometryWord with
  | none => throw (.configuration (.emptyObject kind name))
  | some word =>
    match (← ask (study.objectInvocation word name)).geometry with
    | none => throw (.configuration (.emptyObject kind name))
    | some solid => return solid

def fetchAll : Study → List (ObjectKind × String) → Extraction Study
  | study, [] => return study
  | study, (kind, name) :: rest => do
    let solid ← study.fetchSolid kind name
    fetchAll (study.setGeometry kind name solid) rest

def realizeObjects : Extraction Study := do
  let study ← fetchAll study study.geometricObjects
  return { study with scale := study.largestScale, progress := .solidsDone }

end Study

end SolidStudy
