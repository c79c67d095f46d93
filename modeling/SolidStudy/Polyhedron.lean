/-! Polyhedral solids and the box around their vertices. Coordinates are doubles and may be
anything a double can be; a coordinate that is not a number is passed over wherever another one is
there. -/
namespace SolidStudy

/-- The smaller of two doubles, or the one that is a number. -/
def lesser (x y : Float) : Float :=
  if x.isNaN then y else if y.isNaN then x else if y < x then y else x

/-- The larger of two doubles, or the one that is a number. -/
def greater (x y : Float) : Float :=
  if x.isNaN then y else if y.isNaN then x else if x < y then y else x

structure Point where
  x : Float
  y : Float
  z : Float
  deriving DecidableEq, Repr

namespace Point

def zipWith (f : Float → Float → Float) (p q : Point) : Point := ⟨f p.x q.x, f p.y q.y, f p.z q.z⟩

def toList (p : Point) : List Float := [p.x, p.y, p.z]

end Point

structure Box where
  low : Point
  high : Point
  deriving DecidableEq, Repr

namespace Box

def extend (b : Box) (p : Point) : Box := ⟨b.low.zipWith lesser p, b.high.zipWith greater p⟩

def extent (b : Box) : Point := b.high.zipWith (· - ·) b.low

end Box

/-- Faces are loops of vertex positions, counted from zero. -/
structure Polyhedron where
  vertices : List Point
  faces : List (List Nat)
  deriving DecidableEq, Repr

namespace Polyhedron

def isEmpty (p : Polyhedron) : Bool := p.faces.isEmpty

def box? (p : Polyhedron) : Option Box :=
  match p.vertices with
  | [] => none
  | first :: rest => some (rest.foldl Box.extend ⟨first, first⟩)

/-- The longest side of the box, zero without vertices. -/
def scale (p : Polyhedron) : Float :=
  match p.box? with
  | none => 0
  | some box => greater (greater box.extent.x box.extent.y) box.extent.z

end Polyhedron

end SolidStudy
