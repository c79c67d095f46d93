/-! Units of length, mass and time, and the unit system of an analysis: one unit of each. -/
namespace SolidStudy

inductive Dimension where
  | length
  | mass
  | time
  deriving DecidableEq, Repr

def Dimension.name : Dimension → String
  | .length => "length"
  | .mass => "mass"
  | .time => "time"

structure PhysicalUnit where
  name : String
  dimension : Dimension
  /-- Metres, kilograms or seconds in one unit. -/
  factor : Float
  deriving DecidableEq, Repr

inductive UnitFault where
  | unknown (name : String)
  | wrongDimension (name : String) (expected found : Dimension)
  deriving DecidableEq, Repr

def UnitFault.message : UnitFault → String
  | .unknown name => s!"unknown unit '{name}'"
  | .wrongDimension name expected found =>
    s!"'{name}' is a unit of {found.name}, but a unit of {expected.name} is required here"

namespace PhysicalUnit

def known : List PhysicalUnit := [
  ⟨"m", .length, 1⟩,
  ⟨"cm", .length, 1e-2⟩,
  ⟨"mm", .length, 1e-3⟩,
  ⟨"um", .length, 1e-6⟩,
  ⟨"km", .length, 1e3⟩,
  ⟨"in", .length, 0.0254⟩,
  ⟨"ft", .length, 0.3048⟩,
  ⟨"kg", .mass, 1⟩,
  ⟨"g", .mass, 1e-3⟩,
  ⟨"mg", .mass, 1e-6⟩,
  ⟨"t", .mass, 1e3⟩,
  ⟨"lb", .mass, 0.45359237⟩,
  ⟨"s", .time, 1⟩,
  ⟨"ms", .time, 1e-3⟩,
  ⟨"us", .time, 1e-6⟩,
  ⟨"min", .time, 60⟩,
  ⟨"h", .time, 3600⟩]

def named (name : String) : Except UnitFault PhysicalUnit :=
  match known.find? (·.name = name) with
  | some unit => .ok unit
  | none => .error (.unknown name)

def ofDimension (expected : Dimension) (name : String) : Except UnitFault PhysicalUnit := do
  let unit ← named name
  if unit.dimension = expected then .ok unit
  else .error (.wrongDimension unit.name expected unit.dimension)

end PhysicalUnit

structure UnitSystem where
  length : PhysicalUnit
  mass : PhysicalUnit
  time : PhysicalUnit
  deriving DecidableEq, Repr

namespace UnitSystem

def named (length mass time : String) : Except UnitFault UnitSystem := do
  let length ← PhysicalUnit.ofDimension .length length
  let mass ← PhysicalUnit.ofDimension .mass mass
  let time ← PhysicalUnit.ofDimension .time time
  return ⟨length, mass, time⟩

def render (u : UnitSystem) : String := s!"{u.length.name}, {u.mass.name}, {u.time.name}"

end UnitSystem

end SolidStudy
