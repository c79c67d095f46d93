import SolidStudy.Text

/-! What is reported about a text that is not a value or statement. A fault is a trail of frames,
innermost first; each frame names what was expected and holds the text that was left there. -/
namespace SolidStudy

inductive Expected where
  | float
  | alternative
  | endOfText
  | number
  | value
  | vector
  | statement
  deriving DecidableEq, Repr

def Expected.name : Expected → String
  | .float => "Float"
  | .alternative => "Alt"
  | .endOfText => "Eof"
  | .number => "number"
  | .value => "value"
  | .vector => "vector"
  | .statement => "statement"

structure Frame where
  expected : Expected
  left : List Char
  deriving DecidableEq, Repr

structure Fault where
  /-- Whether the text was given up at once, without trying another reading. -/
  final : Bool
  trail : List Frame
  deriving DecidableEq, Repr

/-- The frames of a text at whose front no value stands. -/
def Fault.noValue (left : List Char) : List Frame :=
  [.float, .alternative, .alternative, .number, .alternative, .value].map (⟨·, left⟩)

namespace Frame

/-- The line that holds a place, the number of the line, and the number of octets before the place
in that line. -/
def locate (before left : List Char) : List Char × Nat × Nat :=
  let inLine := (before.reverse.takeWhile (· ≠ '\n')).reverse
  let line := Text.dropEndWhile Text.isBlank (inLine ++ left.takeWhile (· ≠ '\n'))
  (line, before.count '\n' + 1, (String.ofList inLine).utf8ByteSize)

/-- The line with a caret under the place. -/
def explain (text : List Char) (index : Nat) (frame : Frame) : String :=
  if text = [] then s!"{index}: in {frame.expected.name}, got empty input\n\n"
  else
    let (line, number, column) := locate (text.take (text.length - frame.left.length)) frame.left
    s!"{index}: at line {number}, in {frame.expected.name}:\n" ++ String.ofList line ++ "\n" ++
      String.ofList (List.replicate column ' ') ++ "^\n\n"

end Frame

/-- One paragraph for each frame. -/
def Fault.explain (text : List Char) (fault : Fault) : String :=
  String.join (fault.trail.zipIdx.map fun (frame, index) => frame.explain text index)

end SolidStudy
