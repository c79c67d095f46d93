import SolidStudy.Study
import SolidStudy.Value

/-! Why a directive is refused. A statement may not be readable as a directive at all, or it may
break a rule about the study as a whole. -/
namespace SolidStudy

inductive StatementFault where
  | missingDirective
  | unknownDirective (name : String)
  | wrongArgumentCount (label : String) (expected found : Nat)
  | unexpectedShape (expected found : Shape)
  | wrongVectorLength (expected found : Nat)
  | invalidName (name : String)
  | emptyDeck
  deriving DecidableEq, Repr

def StatementFault.message : StatementFault → String
  | .missingDirective => "missing or malformed subdirective"
  | .unknownDirective name => s!"unknown directive: {name}"
  | .wrongArgumentCount label expected found =>
    s!"wrong number of arguments to {label}: expected {expected}, found {found}"
  | .unexpectedShape expected found => s!"expected {expected.name}, found {found.name}"
  | .wrongVectorLength expected found =>
    s!"expected vector to have {expected} elements, found {found}"
  | .invalidName name =>
    s!"invalid object name '{name}': only letters, digits and '_' are allowed"
  | .emptyDeck => "empty analysis_directive"

inductive ConfigurationFault where
  | nameInUse (kind existing : ObjectKind) (name : String)
  | missingVolume (load volume : String)
  | tooManySelections (count limit : Nat)
  | multipleAnalyses
  | missingAnalysis
  | wrongUnitCount (found : Nat)
  | badUnits (fault : UnitFault)
  | unwrappedGeometry
  | emptyObject (kind : ObjectKind) (name : String)
  deriving DecidableEq, Repr

def ConfigurationFault.message : ConfigurationFault → String
  | .nameInUse kind existing name =>
    s!"Can't declare a new {kind.name} named '{name}' because there already exists a " ++
      s!"{existing.name} named '{name}'."
  | .missingVolume load volume =>
    s!"Load '{load}' refers to volume '{volume}', which does not exist (yet)."
  | .tooManySelections count limit =>
    "There are too many os2cx_select_volume() and/or os2cx_select_surface() directives. " ++
      s!"There are {count}, but the limit is {limit}."
  | .multipleAnalyses => "Can't have multiple os2cx_analysis_...() directives in the same file."
  | .missingAnalysis => "Please specify an os2cx_analysis_...() directive."
  | .wrongUnitCount found =>
    s!"The unit system must name exactly three units (length, mass, time), not {found}."
  | .badUnits fault => s!"Invalid unit system in analysis directive: {fault.message}"
  | .unwrappedGeometry =>
    "All toplevel geometry must be wrapped in a directive such as 'os2cx_mesh()'; " ++
      "for example, 'os2cx_mesh() cube(...)' instead of 'cube(...)'. " ++
      "Your file has some toplevel geometry that isn't properly wrapped."
  | .emptyObject kind name => s!"Empty {kind.name} '{name}'."

inductive DirectiveFault where
  | malformed (fault : StatementFault)
  | configuration (fault : ConfigurationFault)
  deriving DecidableEq, Repr

def DirectiveFault.message : DirectiveFault → String
  | .malformed fault => fault.message
  | .configuration fault => fault.message

instance : MonadLift (Except StatementFault) (Except DirectiveFault) where
  monadLift
    | .ok a => .ok a
    | .error fault => .error (.malformed fault)

instance : MonadLift (Except ConfigurationFault) (Except DirectiveFault) where
  monadLift
    | .ok a => .ok a
    | .error fault => .error (.configuration fault)

end SolidStudy
