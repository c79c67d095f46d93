import SolidStudy.Directive.Fault

/-! Directives: statements that begin with `Directive.marker`. Each declares one object of a
study, or its analysis. Its arguments are put through checks that turn them into the data they stand
for; a directive that is refused leaves the study as it was. -/
namespace SolidStudy

namespace Argument

def count (label : String) (expected : Nat) (args : List Value) : Except StatementFault Unit :=
  if args.length = expected then .ok ()
  else .error (.wrongArgumentCount label expected args.length)

def text : Value → Except StatementFault String
  | .text s => .ok s
  | v => .error (.unexpectedShape .text v.shape)

def number : Value → Except StatementFault Float
  | .number x => .ok x
  | v => .error (.unexpectedShape .number v.shape)

/-- The items of a vector, each put through a check of its own. -/
def vector {α : Type} (item : Value → Except StatementFault α) :
    Value → Except StatementFault (List α)
  | .vector items => items.mapM item
  | v => .error (.unexpectedShape .vector v.shape)

/-- Three numbers. A vector of another length is refused only if all its items are numbers. -/
def point (v : Value) : Except StatementFault Point := do
  match ← vector number v with
  | [x, y, z] => .ok ⟨x, y, z⟩
  | items => .error (.wrongVectorLength 3 items.length)

def isNameChar (c : Char) : Bool := c.isAlphanum || c = '_'

/-- Names become file names, so they have ASCII letters, digits and underscores only. -/
def isName (s : String) : Bool := s ≠ "" && s.toList.all isNameChar

def name (v : Value) : Except StatementFault String := do
  let s ← text v
  if isName s then .ok s else .error (.invalidName s)

/-- A name that no object of any kind has yet. -/
def newName (study : Study) (kind : ObjectKind) (v : Value) : Except DirectiveFault String := do
  let s ← name v
  match study.kindOf s with
  | some existing => .error (.configuration (.nameInUse kind existing s))
  | none => .ok s

end Argument

inductive DirectiveKind where
  | analysis
  | mesh
  | selectVolume
  | selectSurface
  | loadVolume
  deriving DecidableEq, Repr

namespace DirectiveKind

def name : DirectiveKind → String
  | .analysis => "analysis_directive"
  | .mesh => "mesh_directive"
  | .selectVolume => "select_volume_directive"
  | .selectSurface => "select_surface_directive"
  | .loadVolume => "load_volume_directive"

def label : DirectiveKind → String
  | .analysis => "analysis"
  | .mesh => "mesh"
  | .selectVolume => "select_volume"
  | .selectSurface => "select_surface"
  | .loadVolume => "load_volume"

def arity : DirectiveKind → Nat
  | .analysis => 2
  | .mesh => 1
  | .selectVolume => 1
  | .selectSurface => 3
  | .loadVolume => 3

def all : List DirectiveKind := [.analysis, .mesh, .selectVolume, .selectSurface, .loadVolume]

def named (name : String) : Option DirectiveKind := all.find? (·.name = name)

end DirectiveKind

namespace Study

variable (study : Study)

/-- The deck and the units. They can be set once only. -/
def declareAnalysis (deck units : Value) : Except DirectiveFault Study := do
  if study.deck ≠ [] ∨ study.units.isSome then throw (.configuration .multipleAnalyses)
  let deck ← Argument.vector Argument.text deck
  if deck = [] then throw (.malformed .emptyDeck)
  match ← Argument.vector Argument.text units with
  | [length, mass, time] =>
    match UnitSystem.named length mass time with
    | .ok units => return { study with deck := deck, units := some units }
    | .error fault => throw (.configuration (.badUnits fault))
  | names => throw (.configuration (.wrongUnitCount names.length))

def declareMesh (name : Value) : Except DirectiveFault Study := do
  let name ← Argument.newName study .mesh name
  return { study with meshes := study.meshes.insert name ⟨.automatic, none⟩ }

def declareVolume (name : Value) : Except DirectiveFault Study := do
  let name ← Argument.newName study .volume name
  let (bit, study) := study.allocateBit
  return { study with volumes := study.volumes.insert name ⟨bit, none⟩ }

def declareSurface (name direction tolerance : Value) : Except DirectiveFault Study := do
  let name ← Argument.newName study .surface name
  let direction ← Argument.point direction
  let tolerance ← Argument.number tolerance
  let (bit, study) := study.allocateBit
  return { study with surfaces := study.surfaces.insert name ⟨bit, direction, tolerance, none⟩ }

/-- A load acts along the third axis, on a volume that is already declared. -/
def declareLoad (name volume force : Value) : Except DirectiveFault Study := do
  let name ← Argument.newName study .load name
  let volume ← Argument.text volume
  let force ← Argument.number force
  if (study.volumeObject? volume).isNone then throw (.configuration (.missingVolume name volume))
  return { study with loads := study.loads.insert name (.onVolume volume ⟨0, 0, force⟩) }

def declare (kind : DirectiveKind) (args : List Value) : Except DirectiveFault Study :=
  match kind, args with
  | .analysis, [deck, units] => study.declareAnalysis deck units
  | .mesh, [name] => study.declareMesh name
  | .selectVolume, [name] => study.declareVolume name
  | .selectSurface, [name, direction, tolerance] => study.declareSurface name direction tolerance
  | .loadVolume, [name, volume, force] => study.declareLoad name volume force
  | kind, args => throw (.malformed (.wrongArgumentCount kind.label kind.arity args.length))

end Study

namespace Directive

/-- The first value of every directive. -/
def marker : String := "__openscad2calculix"

def isDirective : Statement → Bool
  | .text s :: _ => s = marker
  | _ => false

def apply (study : Study) : List Value → Except DirectiveFault Study
  | .text name :: args =>
    match DirectiveKind.named name with
    | none => throw (.malformed (.unknownDirective name))
    | some kind => do
      let _ ← Argument.count kind.label kind.arity args
      study.declare kind args
  | _ => throw (.malformed .missingDirective)

end Directive

end SolidStudy
