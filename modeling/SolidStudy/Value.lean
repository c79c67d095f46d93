import SolidStudy.Number.Form

/-! The values that an evaluator prints, and statements, which are lists of them. A value is
written in the notation it is read in. -/
namespace SolidStudy

inductive Value where
  | number (x : Float)
  | text (s : String)
  | vector (items : List Value)
  deriving Inhabited

/-- One line of evaluator output. -/
abbrev Statement := List Value

inductive Shape where
  | number
  | text
  | vector
  deriving DecidableEq, Repr

def Shape.name : Shape → String
  | .number => "number"
  | .text => "string"
  | .vector => "vector"

namespace Value

def shape : Value → Shape
  | .number _ => .number
  | .text _ => .text
  | .vector _ => .vector

def ofStrings (strings : List String) : Value := .vector (strings.map .text)

mutual

/-- Equality of structure, with the equality of doubles at the numbers. -/
def same : Value → Value → Bool
  | .number x, .number y => x == y
  | .text s, .text t => s == t
  | .vector xs, .vector ys => sameItems xs ys
  | _, _ => false

def sameItems : List Value → List Value → Bool
  | [], [] => true
  | x :: xs, y :: ys => same x y && sameItems xs ys
  | _, _ => false

end

/-- The marks that are written with a backslash, and the letter after it. -/
def escapeLetter : Char → Option Char
  | '"' => some '"'
  | '\\' => some '\\'
  | '\n' => some 'n'
  | '\t' => some 't'
  | '\r' => some 'r'
  | _ => none

def writeEscaped : List Char → List Char
  | [] => []
  | c :: rest =>
    match escapeLetter c with
    | some letter => '\\' :: letter :: writeEscaped rest
    | none => c :: writeEscaped rest

def writeText (s : String) : List Char := '"' :: (writeEscaped s.toList ++ ['"'])

mutual

def write : Value → List Char
  | .number x => Number.plainForm.write x
  | .text s => writeText s
  | .vector items => '[' :: (writeItems items ++ [']'])

def writeItems : List Value → List Char
  | [] => []
  | item :: rest => write item ++ writeFurther rest

def writeFurther : List Value → List Char
  | [] => []
  | item :: rest => ',' :: ' ' :: (write item ++ writeFurther rest)

end

def render (v : Value) : String := String.ofList v.write

end Value

namespace Statement

def write (s : Statement) : List Char := Value.writeItems s

def render (s : Statement) : String := String.ofList (write s)

def same (s t : Statement) : Bool := Value.sameItems s t

end Statement

end SolidStudy
