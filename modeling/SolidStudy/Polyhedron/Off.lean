import SolidStudy.Number.Numeral
import SolidStudy.Polyhedron
import SolidStudy.Text

/-! The object file format: the word `OFF`, the numbers of vertices, faces and edges, three
coordinates for each vertex, and for each face its size and as many vertex positions. Words after
the last face are not read. A document without words has no content. -/
namespace SolidStudy

inductive OffFault where
  | missingHeader
  | endOfFile (wanted : String)
  | invalidNumber (wanted found : String)
  | tooManyVertices (count : Nat)
  | vertexOutOfRange (face index count : Nat)
  deriving DecidableEq, Repr

def OffFault.message : OffFault → String
  | .missingHeader => "missing OFF header"
  | .endOfFile wanted => s!"unexpected end of file while reading {wanted}"
  | .invalidNumber wanted found => s!"invalid {wanted}: '{found}'"
  | .tooManyVertices count => s!"vertex count {count} exceeds the 32-bit index range"
  | .vertexOutOfRange face index count =>
    s!"face {face} refers to vertex {index}, but there are only {count} vertices"

namespace Off

def indexSize : Nat := 0x100000000

abbrev Words := List (List Char)

/-- A number sign begins a comment that ends with the line. -/
def words (text : List Char) : Words :=
  (Text.lines text).flatMap fun line => Text.words (line.takeWhile (· ≠ '#'))

/-- A reader takes words off the front. -/
abbrev Reader := StateT Words (Except OffFault)

def readCount (wanted : String) : Reader Nat
  | [] => .error (.endOfFile wanted)
  | word :: rest =>
    match Number.readCount word with
    | some n => .ok (n, rest)
    | none => .error (.invalidNumber wanted (String.ofList word))

def readCoordinate : Reader Float
  | [] => .error (.endOfFile "vertex")
  | word :: rest =>
    match Number.readDouble word with
    | some x => .ok (x, rest)
    | none => .error (.invalidNumber "coordinate" (String.ofList word))

def readVertex : Reader Point := do
  let x ← readCoordinate
  let y ← readCoordinate
  let z ← readCoordinate
  return ⟨x, y, z⟩

/-- Items one after another, numbered from the given number on. -/
def readItems {α : Type} (item : Nat → Reader α) (first : Nat) : Nat → Reader (List α)
  | 0 => return []
  | n + 1 => do
    let a ← item first
    let items ← readItems item (first + 1) n
    return a :: items

/-- The low 32 bits, in which positions are kept and reported. -/
def narrow (index : Nat) : Nat := index % indexSize

/-- A position of a face. It is compared before it is narrowed. -/
def readCorner (face count : Nat) : Reader Nat := do
  let index ← readCount "vertex index"
  if count ≤ index then throw (.vertexOutOfRange face (narrow index) count)
  else return narrow index

def readFace (count face : Nat) : Reader (List Nat) := do
  let size ← readCount "face size"
  readItems (fun _ => readCorner face count) 0 size

def readBody : Reader Polyhedron := do
  let vertexCount ← readCount "vertex count"
  let faceCount ← readCount "face count"
  let _ ← readCount "edge count"
  if indexSize ≤ vertexCount then throw (.tooManyVertices vertexCount)
  else
    let vertices ← readItems (fun _ => readVertex) 0 vertexCount
    let faces ← readItems (readFace vertexCount) 0 faceCount
    return ⟨vertices, faces⟩

end Off

/-- The solid of a document, none if the document has no words. -/
def Polyhedron.ofOff (text : List Char) : Except OffFault (Option Polyhedron) :=
  match Off.words text with
  | [] => .ok none
  | header :: rest =>
    if header = ['O', 'F', 'F'] then (Off.readBody.run' rest).map some else .error .missingHeader

end SolidStudy
