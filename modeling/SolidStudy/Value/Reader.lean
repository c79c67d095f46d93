import SolidStudy.Number.Numeral
import SolidStudy.Value
import SolidStudy.Value.Fault

/-! Reading values and statements. A value begins at the front of the text; what follows it is
handed back. A text that does not begin with a value is refused without a trace of how far it was
read, except that a numeral with an exponent mark and no exponent makes the whole text faulty. -/
namespace SolidStudy

inductive Reading (α : Type) where
  | found (a : α) (rest : List Char)
  | absent
  | broken (trail : List Frame)

def Reading.prepend {α : Type} (a : α) : Reading (List α) → Reading (List α)
  | .found as rest => .found (a :: as) rest
  | r => r

namespace Value

def escaped : Char → Option Char
  | '"' => some '"'
  | '\\' => some '\\'
  | 'n' => some '\n'
  | 't' => some '\t'
  | 'r' => some '\r'
  | _ => none

def readEscaped : List Char → Option (List Char × List Char)
  | [] => none
  | '"' :: rest => some ([], rest)
  | ['\\'] => none
  | '\\' :: letter :: rest => do
    let c ← escaped letter
    let (s, rest) ← readEscaped rest
    return (c :: s, rest)
  | c :: rest => do
    let (s, rest) ← readEscaped rest
    return (c :: s, rest)

/-- Numbers that are not finite are words: first `-inf`, `inf` and `nan` as they are written, and,
where no numeral stands, `nan` and `inf` in any case. -/
def readNumber (s : List Char) : Reading Value :=
  match s with
  | '-' :: 'i' :: 'n' :: 'f' :: rest =>
    .found (.number (Number.ofRank true Number.infinityRank)) rest
  | 'i' :: 'n' :: 'f' :: rest => .found (.number Number.infinity) rest
  | 'n' :: 'a' :: 'n' :: rest => .found (.number Number.notANumber) rest
  | s =>
    match Number.scan s with
    | .found numeral rest => .found (.number numeral.toFloat) rest
    | .brokenExponent => .broken [⟨.float, s⟩, ⟨.number, s⟩, ⟨.value, s⟩]
    | .absent =>
      match Number.dropWord? ['n', 'a', 'n'] s, Number.dropWord? ['i', 'n', 'f'] s with
      | some rest, _ => .found (.number Number.notANumber) rest
      | none, some rest => .found (.number Number.infinity) rest
      | none, none => .absent

/-- The values after the first one of a list, at most as many as given. A comma that no value
follows is left in the text. -/
def readFurther {α : Type} (read : List Char → Reading α) : Nat → List Char → Reading (List α)
  | 0, s => .found [] s
  | bound + 1, s =>
    match Text.skipGaps s with
    | ',' :: rest =>
      match read (Text.skipGaps rest) with
      | .found item rest => .prepend item (readFurther read bound rest)
      | .absent => .found [] s
      | .broken trail => .broken trail
    | _ => .found [] s

/-- Values separated by commas, as many as there are, perhaps none. The bound is for those after
the first one. -/
def readItems {α : Type} (read : List Char → Reading α) (bound : Nat) (s : List Char) :
    Reading (List α) :=
  match read s with
  | .found item rest => .prepend item (readFurther read bound rest)
  | .absent => .found [] s
  | .broken trail => .broken trail

/-- A value at the front of the text. Less than `size` vectors lie around its innermost part, and
no vector has more than `size` items. -/
def readWithin : Nat → List Char → Reading Value
  | 0, _ => .absent
  | size + 1, s =>
    match s with
    | '"' :: rest =>
      match readEscaped rest with
      | some (chars, rest) => .found (.text (String.ofList chars)) rest
      | none => .absent
    | '[' :: rest =>
      match readItems (readWithin size) size (Text.skipGaps rest) with
      | .found items rest =>
        match Text.skipGaps rest with
        | ']' :: rest => .found (.vector items) rest
        | _ => .absent
      | .absent => .absent
      | .broken trail => .broken (trail ++ [⟨.vector, s⟩, ⟨.value, s⟩])
    | s => readNumber s

/-- Each vector and each item takes a character, so the length of the text bounds them. -/
def readFront (s : List Char) : Reading Value := readWithin (s.length + 1) s

def read (s : List Char) : Except Fault (Value × List Char) :=
  match readFront s with
  | .found v rest => .ok (v, rest)
  | .absent => .error ⟨false, Fault.noValue s⟩
  | .broken trail => .error ⟨true, trail⟩

/-- A text that is one value, with gaps around it. -/
def readWhole (s : List Char) : Except Fault Value :=
  match readFront (Text.skipGaps s) with
  | .found v rest =>
    match Text.skipGaps rest with
    | [] => .ok v
    | left => .error ⟨false, [⟨.endOfText, left⟩]⟩
  | .absent => .error ⟨false, Fault.noValue (Text.skipGaps s)⟩
  | .broken trail => .error ⟨true, trail⟩

end Value

/-- A text that is a list of values separated by commas, with gaps around them. -/
def Statement.read (s : List Char) : Except Fault Statement :=
  match Value.readItems (Value.readWithin (s.length + 1)) s.length (Text.skipGaps s) with
  | .found items rest =>
    match Text.skipGaps rest with
    | [] => .ok items
    | left => .error ⟨false, [⟨.endOfText, left⟩, ⟨.statement, s⟩]⟩
  | .absent => .error ⟨false, [⟨.endOfText, Text.skipGaps s⟩, ⟨.statement, s⟩]⟩
  | .broken trail => .error ⟨true, trail ++ [⟨.statement, s⟩]⟩

end SolidStudy
