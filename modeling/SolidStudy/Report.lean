import SolidStudy.Json.Document
import SolidStudy.Study

/-! What is reported about a study: its analysis and one row for each object, as text or as JSON.
Of a solid only its size is reported. -/
namespace SolidStudy

open Json (Document)

structure SolidSize where
  vertices : Nat
  faces : Nat
  deriving DecidableEq, Repr

def Polyhedron.size (p : Polyhedron) : SolidSize := ⟨p.vertices.length, p.faces.length⟩

structure MeshRow where
  name : String
  /-- The largest volume of a mesh element, if it is fixed. -/
  volumeLimit : Option Float
  solid : Option SolidSize
  deriving DecidableEq, Repr

structure SelectionRow where
  bit : Nat
  kind : ObjectKind
  name : String
  mask : Option SolidSize
  deriving DecidableEq, Repr

structure LoadRow where
  name : String
  target : String
  kind : ObjectKind
  force : Point
  deriving DecidableEq, Repr

structure Report where
  source : String
  progress : Progress
  units : Option String
  deck : List String
  meshes : List MeshRow
  /-- In the order of their bits. -/
  selections : List SelectionRow
  loads : List LoadRow
  scale : Float
  deriving DecidableEq, Repr

def Fineness.limit? : Fineness → Option Float
  | .automatic => none
  | .volumeAtMost volume => some volume

def MeshRow.of (name : String) (mesh : Mesh) : MeshRow :=
  ⟨name, mesh.fineness.limit?, mesh.solid.map Polyhedron.size⟩

def SelectionRow.of (s : Selection) : SelectionRow :=
  ⟨s.bit.toNat, s.kind, s.name, s.mask.map Polyhedron.size⟩

def LoadRow.of (name : String) (load : Load) : LoadRow :=
  match load with
  | .onVolume volume forceDensity => ⟨name, volume, .volume, forceDensity⟩
  | .onSurface surface forcePerArea => ⟨name, surface, .surface, forcePerArea⟩

def Study.report (s : Study) : Report where
  source := s.source
  progress := s.progress
  units := s.units.map UnitSystem.render
  deck := s.deck
  meshes := s.meshes.entries.map fun (name, mesh) => MeshRow.of name mesh
  selections := s.selections.map SelectionRow.of
  loads := s.loads.entries.map fun (name, load) => LoadRow.of name load
  scale := s.scale

/-- As values are written, except for the word for no number. -/
def Report.numberForm : Number.Form := { Number.plainForm with nan := ['N', 'a', 'N'] }

def Report.number (x : Float) : String := String.ofList (numberForm.write x)

def Report.padStart (width : Nat) (s : String) : String :=
  String.ofList (List.replicate (width - s.length) ' ') ++ s

def Report.padEnd (width : Nat) (s : String) : String :=
  s ++ String.ofList (List.replicate (width - s.length) ' ')

def SolidSize.suffix : Option SolidSize → String
  | none => ""
  | some size => s!" [{size.vertices} vertices, {size.faces} faces]"

def MeshRow.line (row : MeshRow) : String :=
  let limit := match row.volumeLimit with
    | none => ""
    | some volume => s!" max_tet_volume={Report.number volume}"
  s!"  {row.name}" ++ limit ++ SolidSize.suffix row.solid

def SelectionRow.line (row : SelectionRow) : String :=
  s!"  {Report.padStart 2 (toString row.bit)} {Report.padEnd 8 row.kind.name} {row.name}" ++
    SolidSize.suffix row.mask

def LoadRow.line (row : LoadRow) : String :=
  s!"  {row.name} on {row.kind.name} {row.target}: " ++
    s!"({Report.number row.force.x}, {Report.number row.force.y}, {Report.number row.force.z})"

namespace Report

def lines (r : Report) : List String :=
  [s!"Project: {r.source} ({r.progress.name})", "Units: " ++ r.units.getD "(none)", "Analysis:"] ++
    r.deck.map ("  " ++ ·) ++ "Meshes:" :: r.meshes.map MeshRow.line ++
    "Selections:" :: r.selections.map SelectionRow.line ++
    "Loads:" :: r.loads.map LoadRow.line ++
    if r.scale > 0 then [s!"Approximate scale: {number r.scale}"] else []

def text (r : Report) : String := String.join (r.lines.map (· ++ "\n"))

end Report

def SolidSize.document (size : SolidSize) : Document :=
  .object [("vertices", .natural size.vertices), ("faces", .natural size.faces)]

def ObjectKind.title : ObjectKind → String
  | .mesh => "Mesh"
  | .volume => "Volume"
  | .surface => "Surface"
  | .load => "Load"

def MeshRow.document (row : MeshRow) : Document := .object [
  ("name", .text row.name),
  ("max_tet_volume", .orNull .real row.volumeLimit),
  ("solid", .orNull SolidSize.document row.solid)]

def SelectionRow.document (row : SelectionRow) : Document := .object [
  ("bit_index", .natural row.bit),
  ("kind", .text row.kind.title),
  ("name", .text row.name),
  ("mask", .orNull SolidSize.document row.mask)]

def LoadRow.document (row : LoadRow) : Document := .object [
  ("name", .text row.name),
  ("target", .text row.target),
  ("kind", .text row.kind.name),
  ("force", .object [("x", .real row.force.x), ("y", .real row.force.y), ("z", .real row.force.z)])]

namespace Report

def document (r : Report) : Document := .object [
  ("scad_path", .text r.source),
  ("progress", .text r.progress.name),
  ("units", .orNull .text r.units),
  ("analysis_deck", .list (r.deck.map .text)),
  ("meshes", .list (r.meshes.map MeshRow.document)),
  ("selections", .list (r.selections.map SelectionRow.document)),
  ("loads", .list (r.loads.map LoadRow.document)),
  ("approx_scale", .real r.scale)]

def json (r : Report) : String := r.document.indented

end Report

end SolidStudy
