import SolidStudy.Json.Numeral
import SolidStudy.Study

/-! The saved form of a study: a compact JSON text without geometry. Opening it gives the study
back as far as its numbers survive; a number that is not finite is saved as null, which is no
number. -/
namespace SolidStudy

open Json (Document)

def Dimension.title : Dimension → String
  | .length => "Length"
  | .mass => "Mass"
  | .time => "Time"

def PhysicalUnit.document (unit : PhysicalUnit) : Document := .object [
  ("name", .text unit.name),
  ("dimension", .text unit.dimension.title),
  ("si_factor", .real unit.factor)]

def UnitSystem.document (units : UnitSystem) : Document := .object [
  ("length", units.length.document),
  ("mass", units.mass.document),
  ("time", units.time.document)]

def Point.document (p : Point) : Document := .object [
  ("x", .real p.x), ("y", .real p.y), ("z", .real p.z)]

def Fineness.document : Fineness → Document
  | .automatic => .text "Auto"
  | .volumeAtMost volume => .object [("Fixed", .real volume)]

def Mesh.document (mesh : Mesh) : Document :=
  .object [("max_tet_volume", mesh.fineness.document)]

def VolumeSelection.document (selection : VolumeSelection) : Document :=
  .object [("bit_index", .natural selection.bit.toNat)]

def SurfaceSelection.document (selection : SurfaceSelection) : Document := .object [
  ("bit_index", .natural selection.bit.toNat),
  ("direction_vector", selection.direction.document),
  ("direction_angle_tolerance", .real selection.tolerance)]

def Load.document : Load → Document
  | .onVolume volume forceDensity => .object [("Volume", .object [
      ("volume", .text volume), ("force_density", forceDensity.document)])]
  | .onSurface surface forcePerArea => .object [("Surface", .object [
      ("surface", .text surface), ("force_per_area", forcePerArea.document)])]

def Material.document (material : Material) : Document := .object [
  ("youngs_modulus", .real material.youngsModulus),
  ("poissons_ratio", .real material.poissonsRatio)]

def Table.document {α : Type} (f : α → Document) (t : Table α) : Document :=
  .object (t.entries.map fun (name, a) => (name, f a))

namespace Study

def document (s : Study) : Document := .object [
  ("scad_path", .text s.source),
  ("temp_dir", .text s.outputDir),
  ("progress", .text s.progress.name),
  ("errored", .boolean s.errored),
  ("unit_system", .orNull UnitSystem.document s.units),
  ("analysis_deck", .list (s.deck.map .text)),
  ("next_bit_index", .natural s.nextBit.toNat),
  ("mesh_objects", s.meshes.document Mesh.document),
  ("select_volume_objects", s.volumes.document VolumeSelection.document),
  ("select_surface_objects", s.surfaces.document SurfaceSelection.document),
  ("load_objects", s.loads.document Load.document),
  ("material_objects", s.materials.document Material.document),
  ("approx_scale", .real s.scale)]

def save (s : Study) : String := s.document.compact

end Study

open Json (Fault reread)

def PhysicalUnit.reopen (unit : PhysicalUnit) : Except Fault PhysicalUnit := do
  return { unit with factor := ← reread unit.factor }

def UnitSystem.reopen (units : UnitSystem) : Except Fault UnitSystem := do
  return ⟨← units.length.reopen, ← units.mass.reopen, ← units.time.reopen⟩

def Point.reopen (p : Point) : Except Fault Point := do
  return ⟨← reread p.x, ← reread p.y, ← reread p.z⟩

def Fineness.reopen : Fineness → Except Fault Fineness
  | .automatic => .ok .automatic
  | .volumeAtMost volume => do return .volumeAtMost (← reread volume)

def Mesh.reopen (mesh : Mesh) : Except Fault Mesh := do return ⟨← mesh.fineness.reopen, none⟩

def VolumeSelection.reopen (selection : VolumeSelection) : Except Fault VolumeSelection :=
  .ok { selection with mask := none }

def SurfaceSelection.reopen (selection : SurfaceSelection) : Except Fault SurfaceSelection := do
  return ⟨selection.bit, ← selection.direction.reopen, ← reread selection.tolerance, none⟩

def Load.reopen : Load → Except Fault Load
  | .onVolume volume forceDensity => do return .onVolume volume (← forceDensity.reopen)
  | .onSurface surface forcePerArea => do return .onSurface surface (← forcePerArea.reopen)

def Material.reopen (material : Material) : Except Fault Material := do
  return ⟨← reread material.youngsModulus, ← reread material.poissonsRatio⟩

/-- The data of each name are opened, the names are kept. -/
def Table.reopen {α : Type} (f : α → Except Fault α) (t : Table α) : Except Fault (Table α) := do
  return .ofList (← t.entries.mapM fun (name, a) => do return (name, ← f a))

/-- The study without its geometry, as far as its numbers survive. -/
def Study.reopen (s : Study) : Except Fault Study := do
  return { s with
    units := ← s.units.mapM UnitSystem.reopen
    meshes := ← s.meshes.reopen Mesh.reopen
    volumes := ← s.volumes.reopen VolumeSelection.reopen
    surfaces := ← s.surfaces.reopen SurfaceSelection.reopen
    loads := ← s.loads.reopen Load.reopen
    materials := ← s.materials.reopen Material.reopen
    scale := ← reread s.scale }

end SolidStudy
