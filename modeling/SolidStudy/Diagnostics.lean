import SolidStudy.Text
import SolidStudy.Value.Reader

/-! The diagnostic channel of an evaluator: one message a line, each after a severity. Echoes are
statements, warnings are kept as they are, and every other line is passed over. An echo that is
not a statement makes the whole channel unusable. -/
namespace SolidStudy

inductive Severity where
  | echo
  | warning
  | deprecated
  | error
  | trace
  deriving DecidableEq, Repr

namespace Severity

def tag : Severity → String
  | .echo => "ECHO:"
  | .warning => "WARNING:"
  | .deprecated => "DEPRECATED:"
  | .error => "ERROR:"
  | .trace => "TRACE:"

def all : List Severity := [.echo, .warning, .deprecated, .error, .trace]

end Severity

inductive Message where
  | statement (s : Statement)
  | warning (text : String)
  | other

structure UnreadableEcho where
  lineNumber : Nat
  line : List Char
  payload : List Char
  fault : Fault
  deriving DecidableEq, Repr

namespace UnreadableEcho

def detail (e : UnreadableEcho) : String := e.fault.explain e.payload

def message (e : UnreadableEcho) : String :=
  s!"unparsable echo on line {e.lineNumber}: " ++ String.ofList e.line ++ "\n" ++ e.detail

end UnreadableEcho

/-- The messages of a channel, in the order of its lines. -/
abbrev Diagnostics := List Message

namespace Diagnostics

def statements (d : Diagnostics) : List Statement :=
  d.filterMap fun
    | .statement s => some s
    | _ => none

def warnings (d : Diagnostics) : List String :=
  d.filterMap fun
    | .warning text => some text
    | _ => none

/-- One character of white space at most separates a message from its severity. -/
def dropBlank : List Char → List Char
  | [] => []
  | c :: rest => if Text.isBlank c then rest else c :: rest

/-- The severity at the front of a line and the message after it. -/
def classify (line : List Char) : Option (Severity × List Char) :=
  Severity.all.findSome? fun severity =>
    let tag := severity.tag.toList
    if tag.isPrefixOf line then some (severity, dropBlank (line.drop tag.length)) else none

def readLine (number : Nat) (line : List Char) : Except UnreadableEcho Message :=
  match classify line with
  | some (.echo, payload) =>
    match Statement.read payload with
    | .ok statement => .ok (.statement statement)
    | .error fault => .error ⟨number, line, payload, fault⟩
  | some (.warning, payload) => .ok (.warning (String.ofList payload))
  | some (.deprecated, payload) => .ok (.warning (String.ofList payload))
  | _ => .ok .other

def readLines : Nat → List (List Char) → Except UnreadableEcho Diagnostics
  | _, [] => .ok []
  | number, line :: rest => do
    let message ← readLine number line
    let messages ← readLines (number + 1) rest
    return message :: messages

/-- Carriage returns at the end of a line do not belong to it. -/
def read (text : List Char) : Except UnreadableEcho Diagnostics :=
  readLines 1 ((Text.lines text).map (Text.dropEndWhile (· = '\r')))

end Diagnostics

end SolidStudy
