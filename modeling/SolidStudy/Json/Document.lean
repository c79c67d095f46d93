import SolidStudy.Number.Form

/-! JSON documents and their text, compact or laid out over lines. A double that is not finite has
no JSON form and is written as null. -/
namespace SolidStudy.Json

inductive Document where
  | null
  | boolean (b : Bool)
  | natural (n : Nat)
  | real (x : Float)
  | text (s : String)
  | list (items : List Document)
  | object (fields : List (String × Document))
  deriving Inhabited

/-- Exponents from -5 to 15 are written as places, a tie goes to the even digit. -/
def numberForm : Number.Form where
  tie := .toEven
  positional := some (-5, 15)
  pointZero := true
  nan := ['n', 'u', 'l', 'l']

def writeReal (x : Float) : List Char :=
  if Number.rankOf x < Number.infinityRank then numberForm.write x else numberForm.nan

def hexDigits (width n : Nat) : List Char :=
  let digits := Nat.toDigits 16 n
  List.replicate (width - digits.length) '0' ++ digits

/-- Quotes, backslashes and control characters are escaped, by a letter where there is one. -/
def writeChar : Char → List Char
  | '"' => ['\\', '"']
  | '\\' => ['\\', '\\']
  | '\x08' => ['\\', 'b']
  | '\x0c' => ['\\', 'f']
  | '\n' => ['\\', 'n']
  | '\r' => ['\\', 'r']
  | '\t' => ['\\', 't']
  | c => if c.toNat < 0x20 then '\\' :: 'u' :: hexDigits 4 c.toNat else [c]

def writeText (s : String) : List Char := '"' :: (s.toList.flatMap writeChar ++ ['"'])

structure Layout where
  /-- After an opening bracket or a comma, and before a closing bracket, by depth. -/
  lineBreak : Nat → List Char
  afterColon : List Char

def Layout.compact : Layout := ⟨fun _ => [], []⟩

/-- A line for each item, two blanks for each depth. -/
def Layout.indented : Layout := ⟨fun depth => '\n' :: List.replicate (2 * depth) ' ', [' ']⟩

namespace Document

mutual

def write (layout : Layout) (depth : Nat) : Document → List Char
  | .null => ['n', 'u', 'l', 'l']
  | .boolean true => ['t', 'r', 'u', 'e']
  | .boolean false => ['f', 'a', 'l', 's', 'e']
  | .natural n => Nat.toDigits 10 n
  | .real x => writeReal x
  | .text s => writeText s
  | .list [] => ['[', ']']
  | .list (item :: rest) =>
    '[' :: (layout.lineBreak (depth + 1) ++ write layout (depth + 1) item ++
      writeItems layout (depth + 1) rest ++ layout.lineBreak depth ++ [']'])
  | .object [] => ['\x7b', '\x7d']
  | .object ((name, value) :: rest) =>
    '\x7b' :: (layout.lineBreak (depth + 1) ++ writeText name ++ ':' :: layout.afterColon ++
      write layout (depth + 1) value ++ writeFields layout (depth + 1) rest ++
      layout.lineBreak depth ++ ['\x7d'])

/-- Items after the first one. -/
def writeItems (layout : Layout) (depth : Nat) : List Document → List Char
  | [] => []
  | item :: rest =>
    ',' :: (layout.lineBreak depth ++ write layout depth item ++ writeItems layout depth rest)

/-- Fields after the first one. -/
def writeFields (layout : Layout) (depth : Nat) : List (String × Document) → List Char
  | [] => []
  | (name, value) :: rest =>
    ',' :: (layout.lineBreak depth ++ writeText name ++ ':' :: layout.afterColon ++
      write layout depth value ++ writeFields layout depth rest)

end

def compact (d : Document) : String := String.ofList (d.write .compact 0)

def indented (d : Document) : String := String.ofList (d.write .indented 0)

def orNull {α : Type} (f : α → Document) : Option α → Document
  | none => .null
  | some a => f a

end Document

end SolidStudy.Json
