import SolidStudy.Polyhedron
import SolidStudy.Table
import SolidStudy.UnitSystem

/-! A study: what is declared about one solid model, how far it has been carried out, and the
geometry found so far. Objects of four kinds are declared by name; a name belongs to one kind
only. Selections are numbered by bits, of which bit 0 stands for the inside of a solid. -/
namespace SolidStudy

inductive Progress where
  | nothingDone
  | inventoryDone
  | solidsDone
  deriving DecidableEq, Repr

namespace Progress

def name : Progress → String
  | .nothingDone => "NothingDone"
  | .inventoryDone => "InventoryDone"
  | .solidsDone => "PolysDone"

def rank : Progress → Nat
  | .nothingDone => 0
  | .inventoryDone => 1
  | .solidsDone => 2

instance : LE Progress := ⟨fun a b => a.rank ≤ b.rank⟩

instance : LT Progress := ⟨fun a b => a.rank < b.rank⟩

instance (a b : Progress) : Decidable (a ≤ b) := inferInstanceAs (Decidable (a.rank ≤ b.rank))

instance (a b : Progress) : Decidable (a < b) := inferInstanceAs (Decidable (a.rank < b.rank))

end Progress

inductive ObjectKind where
  | mesh
  | volume
  | surface
  | load
  deriving DecidableEq, Repr

namespace ObjectKind

def name : ObjectKind → String
  | .mesh => "mesh"
  | .volume => "volume"
  | .surface => "surface"
  | .load => "load"

/-- The word that asks an evaluator for the geometry of an object. Loads have none. -/
def geometryWord : ObjectKind → Option String
  | .mesh => some "mesh"
  | .volume => some "select_volume"
  | .surface => some "select_surface"
  | .load => none

end ObjectKind

inductive Fineness where
  | automatic
  | volumeAtMost (volume : Float)
  deriving DecidableEq, Repr

structure Mesh where
  fineness : Fineness
  solid : Option Polyhedron
  deriving DecidableEq, Repr

structure VolumeSelection where
  bit : UInt32
  mask : Option Polyhedron
  deriving DecidableEq, Repr

structure SurfaceSelection where
  bit : UInt32
  direction : Point
  /-- The angle around the direction, in degrees. -/
  tolerance : Float
  mask : Option Polyhedron
  deriving DecidableEq, Repr

inductive Load where
  | onVolume (volume : String) (forceDensity : Point)
  | onSurface (surface : String) (forcePerArea : Point)
  deriving DecidableEq, Repr

def Load.target : Load → String
  | .onVolume volume _ => volume
  | .onSurface surface _ => surface

structure Material where
  youngsModulus : Float
  poissonsRatio : Float
  deriving DecidableEq, Repr

structure Study where
  /-- The file of the model. -/
  source : String
  /-- The directory for geometry files. -/
  outputDir : String
  progress : Progress
  errored : Bool
  units : Option UnitSystem
  /-- The lines handed to the solver. -/
  deck : List String
  nextBit : UInt32
  meshes : Table Mesh
  volumes : Table VolumeSelection
  surfaces : Table SurfaceSelection
  loads : Table Load
  materials : Table Material
  /-- A rough length of the model, zero until solids are known. -/
  scale : Float
  deriving DecidableEq, Repr

inductive VolumeObject where
  | mesh (mesh : Mesh)
  | selection (selection : VolumeSelection)
  deriving DecidableEq, Repr

/-- An object with geometry of its own. -/
inductive GeometricObject where
  | mesh (mesh : Mesh)
  | volume (selection : VolumeSelection)
  | surface (selection : SurfaceSelection)
  deriving DecidableEq, Repr

structure Selection where
  bit : UInt32
  kind : ObjectKind
  name : String
  mask : Option Polyhedron
  deriving DecidableEq, Repr

namespace Study

def labelBits : UInt32 := 64

/-- The bit that is never given to a selection. -/
def solidBit : UInt32 := 0

/-- The number of selections that fit into a label. -/
def bitCapacity : Nat := 63

def new (source outputDir : String) : Study where
  source := source
  outputDir := outputDir
  progress := .nothingDone
  errored := false
  units := none
  deck := []
  nextBit := solidBit + 1
  meshes := .empty
  volumes := .empty
  surfaces := .empty
  loads := .empty
  materials := .empty
  scale := 0

def kindOf (s : Study) (name : String) : Option ObjectKind :=
  if s.meshes.contains name then some .mesh
  else if s.volumes.contains name then some .volume
  else if s.surfaces.contains name then some .surface
  else if s.loads.contains name then some .load
  else none

def volumeObject? (s : Study) (name : String) : Option VolumeObject :=
  match s.meshes.get? name with
  | some mesh => some (.mesh mesh)
  | none => (s.volumes.get? name).map .selection

def surfaceObject? (s : Study) (name : String) : Option SurfaceSelection := s.surfaces.get? name

def object? (s : Study) (name : String) : Option GeometricObject :=
  match s.kindOf name with
  | some .mesh => (s.meshes.get? name).map .mesh
  | some .volume => (s.volumes.get? name).map .volume
  | some .surface => (s.surfaces.get? name).map .surface
  | _ => none

def selectionCount (s : Study) : Nat := s.volumes.size + s.surfaces.size

def bitCapacityExceeded (s : Study) : Bool := labelBits < s.nextBit

/-- A bit is given out whether or not it fits into a label. -/
def allocateBit (s : Study) : UInt32 × Study := (s.nextBit, { s with nextBit := s.nextBit + 1 })

/-- The objects with geometry: meshes, volumes and surfaces, each by name. -/
def geometricObjects (s : Study) : List (ObjectKind × String) :=
  s.meshes.names.map (ObjectKind.mesh, ·) ++ s.volumes.names.map (ObjectKind.volume, ·) ++
    s.surfaces.names.map (ObjectKind.surface, ·)

/-- The selections in the order of their bits; of equal bits volumes come first, then names
decide. -/
def selections (s : Study) : List Selection :=
  let volumes := s.volumes.entries.map fun (name, o) => Selection.mk o.bit .volume name o.mask
  let surfaces := s.surfaces.entries.map fun (name, o) => Selection.mk o.bit .surface name o.mask
  (volumes ++ surfaces).mergeSort fun a b => a.bit ≤ b.bit

/-- The geometry of one object is set; an object that is not there is passed over. -/
def setGeometry (s : Study) (kind : ObjectKind) (name : String) (solid : Polyhedron) : Study :=
  match kind with
  | .mesh => { s with meshes := s.meshes.modify name ({ · with solid := some solid }) }
  | .volume => { s with volumes := s.volumes.modify name ({ · with mask := some solid }) }
  | .surface => { s with surfaces := s.surfaces.modify name ({ · with mask := some solid }) }
  | .load => s

def largestScale (s : Study) : Float :=
  (s.meshes.entries.filterMap (·.2.solid)).foldl (fun scale solid => greater scale solid.scale) 0

end Study

end SolidStudy
