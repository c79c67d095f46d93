import SolidStudy.Json.Reader

/-! Records in JSON: objects with known fields. A field that is left out keeps its default, fields
of other names are passed over, and no known field is given twice. A list is read as a record too,
its items being the fields in their order. -/
namespace SolidStudy.Json

/-- A field of records of a type: its name, and how its value is read into a record. -/
structure Field (α : Type) where
  name : String
  read : α → List Char → Except Fault (α × List Char)

variable {α : Type} (fields : List (Field α))

def readColon (s : List Char) : Except Fault (List Char) :=
  match Text.skipGaps s with
  | [] => .error (.endOfText .object)
  | ':' :: rest => .ok (Text.skipGaps rest)
  | _ => .error .noColon

/-- One field after the opening quote of its name; `seen` are the known names before it. -/
def readField (seen : List String) (record : α) (s : List Char) :
    Except Fault ((List String × α) × List Char) := do
  let (name, s) ← readText s
  match fields.find? (·.name = name) with
  | some field =>
    if name ∈ seen then .error (.duplicateField name)
    else
      let (record, s) ← field.read record (← readColon s)
      return ((name :: seen, record), s)
  | none => return ((seen, record), ← skipValue (← readColon s))

/-- The fields from the opening quote of a name on; their number is bounded. -/
def readFields : Nat → List String → α → List Char → Except Fault (α × List Char)
  | 0, _, _, _ => .error (.endOfText .object)
  | bound + 1, seen, record, s => do
    let ((seen, record), s) ← readField fields seen record s
    match Text.skipGaps s with
    | [] => .error (.endOfText .object)
    | '\x7d' :: rest => return (record, rest)
    | ',' :: rest =>
      match Text.skipGaps rest with
      | [] => .error (.endOfText .value)
      | '"' :: rest => readFields bound seen record rest
      | '\x7d' :: _ => .error .trailingComma
      | _ => .error .keyNotText
    | _ => .error .noCommaInObject

def readInOrder : List (Field α) → Bool → α → List Char → Except Fault (α × List Char)
  | [], _, record, s => .ok (record, s)
  | field :: fields, first, record, s => do
    match ← nextItem? first s with
    | none => return (record, s)
    | some s =>
      let (record, s) ← field.read record s
      readInOrder fields false record s

/-- A record, given the name of its type and its defaults. -/
def readRecord (wanted : String) (default : α) (s : List Char) : Except Fault (α × List Char) :=
  match s with
  | '\x7b' :: rest =>
    match Text.skipGaps rest with
    | [] => .error (.endOfText .object)
    | '\x7d' :: rest => .ok (default, rest)
    | '"' :: rest => readFields fields (rest.length + 1) [] default rest
    | _ => .error .keyNotText
  | '[' :: rest => do
    let (record, rest) ← readInOrder fields true default rest
    return (record, ← endList rest)
  | s => wrongKind wanted s

end SolidStudy.Json
