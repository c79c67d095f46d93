import SolidStudy.Directive
import SolidStudy.Extraction

/-! Directives carried out in place. Every change of the study is a step of its own, and what is
changed before a step that is refused stays changed. -/
namespace SolidStudy

/-- Steps that change a study in place, up to the first that is refused. -/
abbrev Edit (ε : Type) := EStateM ε Study

namespace Edit

variable {ε : Type}

instance : MonadLift (Except ε) (Edit ε) where
  monadLift
    | .ok a => pure a
    | .error fault => throw fault

def newName (kind : ObjectKind) (v : Value) : Edit DirectiveFault String := do
  Argument.newName (← get) kind v

def allocateBit : Edit ε UInt32 := modifyGet Study.allocateBit

def declareAnalysis (deck units : Value) : Edit DirectiveFault Unit := do
  let study ← get
  if study.deck ≠ [] ∨ study.units.isSome then throw (.configuration .multipleAnalyses)
  let deck ← Argument.vector Argument.text deck
  if deck = [] then throw (.malformed .emptyDeck)
  match ← Argument.vector Argument.text units with
  | [length, mass, time] =>
    match UnitSystem.named length mass time with
    | .ok units =>
      modify ({ · with deck := deck })
      modify ({ · with units := some units })
    | .error fault => throw (.configuration (.badUnits fault))
  | names => throw (.configuration (.wrongUnitCount names.length))

def declareMesh (name : Value) : Edit DirectiveFault Unit := do
  let name ← newName .mesh name
  modify fun study => { study with meshes := study.meshes.insert name ⟨.automatic, none⟩ }

def declareVolume (name : Value) : Edit DirectiveFault Unit := do
  let name ← newName .volume name
  let bit ← allocateBit
  modify fun study => { study with volumes := study.volumes.insert name ⟨bit, none⟩ }

/-- A bit is given out only after all arguments are checked. -/
def declareSurface (name direction tolerance : Value) : Edit DirectiveFault Unit := do
  let name ← newName .surface name
  let direction ← Argument.point direction
  let tolerance ← Argument.number tolerance
  let bit ← allocateBit
  modify fun study =>
    { study with surfaces := study.surfaces.insert name ⟨bit, direction, tolerance, none⟩ }

def declareLoad (name volume force : Value) : Edit DirectiveFault Unit := do
  let name ← newName .load name
  let volume ← Argument.text volume
  let force ← Argument.number force
  let study ← get
  if (study.volumeObject? volume).isNone then throw (.configuration (.missingVolume name volume))
  modify fun study =>
    { study with loads := study.loads.insert name (.onVolume volume ⟨0, 0, force⟩) }

def declare (kind : DirectiveKind) (args : List Value) : Edit DirectiveFault Unit :=
  match kind, args with
  | .analysis, [deck, units] => declareAnalysis deck units
  | .mesh, [name] => declareMesh name
  | .selectVolume, [name] => declareVolume name
  | .selectSurface, [name, direction, tolerance] => declareSurface name direction tolerance
  | .loadVolume, [name, volume, force] => declareLoad name volume force
  | kind, args => throw (.malformed (.wrongArgumentCount kind.label kind.arity args.length))

def apply : List Value → Edit DirectiveFault Unit
  | .text name :: args =>
    match DirectiveKind.named name with
    | none => throw (.malformed (.unknownDirective name))
    | some kind => do
      let _ ← Argument.count kind.label kind.arity args
      declare kind args
  | _ => throw (.malformed .missingDirective)

/-- One statement carried out, and whether it is a directive at all. -/
def dispatch (statement : Statement) : Edit RunFault Bool := do
  if Directive.isDirective statement then
    EStateM.adaptExcept (RunFault.ofDirective statement) (apply statement.tail)
    return true
  else return false

end Edit

end SolidStudy
