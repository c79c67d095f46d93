import SolidStudy.Json.Numeral
import SolidStudy.Text

/-! Reading JSON from the front of a text. A reader hands back what follows the part it read.
Values that nobody asks for are passed over: their notation is checked, but not the size of their
numerals nor the pairing of their surrogates. -/
namespace SolidStudy.Json

def hexDigit? (c : Char) : Option Nat :=
  if c.isDigit then some (c.toNat - '0'.toNat)
  else if 'a' ≤ c ∧ c ≤ 'f' then some (c.toNat - 'a'.toNat + 10)
  else if 'A' ≤ c ∧ c ≤ 'F' then some (c.toNat - 'A'.toNat + 10)
  else none

/-- The number of four hexadecimal digits. The four octets that have to hold them are missing only
if the text ends before them. -/
def readCode (s : List Char) : Except Fault (Nat × List Char) :=
  match s with
  | a :: b :: c :: d :: rest =>
    match hexDigit? a, hexDigit? b, hexDigit? c, hexDigit? d with
    | some a, some b, some c, some d => .ok (((a * 16 + b) * 16 + c) * 16 + d, rest)
    | _, _, _, _ => .error .invalidEscape
  | _ =>
    if (String.ofList s).utf8ByteSize < 4 then .error (.endOfText .text) else .error .invalidEscape

def isLeading (code : Nat) : Bool := 0xD800 ≤ code && code ≤ 0xDBFF

def isTrailing (code : Nat) : Bool := 0xDC00 ≤ code && code ≤ 0xDFFF

/-- The second code of a pair, after the first one. -/
def readTrailing (s : List Char) : Except Fault (Nat × List Char) :=
  match s with
  | [] | ['\\'] => .error (.endOfText .text)
  | '\\' :: 'u' :: rest => do
    let (code, rest) ← readCode rest
    if isTrailing code then .ok (code, rest) else .error .unpairedSurrogate
  | _ => .error .brokenPair

/-- The character of an escape by its code. Codes beyond four digits are written as a pair. -/
def readCoded (s : List Char) : Except Fault (Char × List Char) := do
  let (code, rest) ← readCode s
  if isTrailing code then .error .unpairedSurrogate
  else if isLeading code then
    let (second, rest) ← readTrailing rest
    return (Char.ofNat (0x10000 + (code - 0xD800) * 0x400 + (second - 0xDC00)), rest)
  else return (Char.ofNat code, rest)

def escaped? : Char → Option Char
  | '"' => some '"'
  | '\\' => some '\\'
  | '/' => some '/'
  | 'b' => some '\x08'
  | 'f' => some '\x0c'
  | 'n' => some '\n'
  | 'r' => some '\r'
  | 't' => some '\t'
  | _ => none

/-- One character of a text in any spelling, none at the quote that ends the text. -/
def readElement (s : List Char) : Except Fault (Option Char × List Char) :=
  match s with
  | [] | ['\\'] => .error (.endOfText .text)
  | '"' :: rest => .ok (none, rest)
  | '\\' :: 'u' :: rest => do
    let (c, rest) ← readCoded rest
    return (some c, rest)
  | '\\' :: letter :: rest =>
    match escaped? letter with
    | some c => .ok (some c, rest)
    | none => .error .invalidEscape
  | c :: rest => if c.toNat < 0x20 then .error .controlCharacter else .ok (some c, rest)

/-- As `readElement`, without asking what the character is. -/
def skipElement (s : List Char) : Except Fault (Option Unit × List Char) :=
  match s with
  | '\\' :: 'u' :: rest => do
    let (_, rest) ← readCode rest
    return (some (), rest)
  | s => do
    let (c, rest) ← readElement s
    return (c.map fun _ => (), rest)

def readElements : Nat → List Char → Except Fault (List Char × List Char)
  | 0, _ => .error (.endOfText .text)
  | bound + 1, s => do
    match ← readElement s with
    | (none, rest) => return ([], rest)
    | (some c, rest) =>
      let (chars, rest) ← readElements bound rest
      return (c :: chars, rest)

def skipElements : Nat → List Char → Except Fault (List Char)
  | 0, _ => .error (.endOfText .text)
  | bound + 1, s => do
    match ← skipElement s with
    | (none, rest) => return rest
    | (some _, rest) => skipElements bound rest

/-- A text after its opening quote; its length bounds the number of its characters. -/
def readText (s : List Char) : Except Fault (String × List Char) := do
  let (chars, rest) ← readElements (s.length + 1) s
  return (String.ofList chars, rest)

def skipText (s : List Char) : Except Fault (List Char) := skipElements (s.length + 1) s

def readLetters : List Char → List Char → Except Fault (List Char)
  | [], rest => .ok rest
  | _ :: _, [] => .error (.endOfText .value)
  | letter :: letters, c :: rest =>
    if c = letter then readLetters letters rest else .error .brokenWord

/-- The word that a first letter begins, and its value. -/
def word? : Char → Option (List Char × Found)
  | 'n' => some (['u', 'l', 'l'], .null)
  | 't' => some (['r', 'u', 'e'], .boolean true)
  | 'f' => some (['a', 'l', 's', 'e'], .boolean false)
  | _ => none

def skipDigits (s : List Char) : Except Fault (List Char) :=
  match Number.spanDigits s with
  | ([], _) => .error .invalidNumber
  | (_, rest) => .ok rest

def skipExponent : List Char → Except Fault (List Char)
  | '+' :: rest | '-' :: rest => skipDigits rest
  | s => skipDigits s

def skipScale : List Char → Except Fault (List Char)
  | 'e' :: rest | 'E' :: rest => skipExponent rest
  | s => .ok s

def skipAfterWhole : List Char → Except Fault (List Char)
  | '.' :: rest => do skipScale (← skipDigits rest)
  | s => skipScale s

/-- A numeral of any size, after its sign. -/
def skipNumeral : List Char → Except Fault (List Char)
  | '0' :: c :: rest => if c.isDigit then .error .invalidNumber else skipAfterWhole (c :: rest)
  | s => do skipAfterWhole (← skipDigits s)

/-- Passes over at most as many items as given and what follows them in a list. -/
def skipItems (skip : List Char → Except Fault (List Char)) :
    Nat → List Char → Except Fault (List Char)
  | 0, _ => .error (.endOfText .list)
  | bound + 1, s => do
    match Text.skipGaps (← skip s) with
    | [] => .error (.endOfText .list)
    | ']' :: rest => .ok rest
    | ',' :: rest => skipItems skip bound (Text.skipGaps rest)
    | _ => .error .noCommaInList

/-- Passes over at most as many fields as given and what follows them in an object. -/
def skipFields (skip : List Char → Except Fault (List Char)) :
    Nat → List Char → Except Fault (List Char)
  | 0, _ => .error (.endOfText .object)
  | bound + 1, s =>
    match s with
    | [] => .error (.endOfText .object)
    | '"' :: rest => do
      match Text.skipGaps (← skipText rest) with
      | [] => .error (.endOfText .object)
      | ':' :: rest =>
        match Text.skipGaps (← skip (Text.skipGaps rest)) with
        | [] => .error (.endOfText .object)
        | '\x7d' :: rest => .ok rest
        | ',' :: rest => skipFields skip bound (Text.skipGaps rest)
        | _ => .error .noCommaInObject
      | _ => .error .noColon
    | _ => .error .keyNotText

/-- Passes over the value at the front. Less than `size` lists and objects lie around its innermost
part, and none of them has more than `size` items or fields. -/
def skipWithin : Nat → List Char → Except Fault (List Char)
  | 0, _ => .error (.endOfText .value)
  | size + 1, s =>
    match s with
    | [] => .error (.endOfText .value)
    | '"' :: rest => skipText rest
    | '-' :: rest => skipNumeral rest
    | '[' :: rest =>
      match Text.skipGaps rest with
      | [] => .error (.endOfText .list)
      | ']' :: rest => .ok rest
      | s => skipItems (skipWithin size) size s
    | '\x7b' :: rest =>
      match Text.skipGaps rest with
      | '\x7d' :: rest => .ok rest
      | s => skipFields (skipWithin size) size s
    | c :: rest =>
      match word? c with
      | some (letters, _) => readLetters letters rest
      | none => if c.isDigit then skipNumeral s else .error .noValue

/-- Passes over one value. Each list, object, item and field takes a character, so the length of the
text bounds them. -/
def skipValue (s : List Char) : Except Fault (List Char) := skipWithin (s.length + 1) s

/-- The fault of a value at the front that is not of the wanted kind. Its own faults come first.
-/
def wrongKind {α : Type} (wanted : String) (s : List Char) : Except Fault α :=
  match s with
  | [] => .error (.endOfText .value)
  | '[' :: _ => .error (.wrongKind .list wanted)
  | '\x7b' :: _ => .error (.wrongKind .object wanted)
  | '"' :: rest => do
    let (s, _) ← readText rest
    .error (.wrongKind (.text s) wanted)
  | c :: rest =>
    match word? c with
    | some (letters, found) => do
      let _ ← readLetters letters rest
      .error (.wrongKind found wanted)
    | none =>
      if c = '-' ∨ c.isDigit then do
        let (numeral, _) ← readNumeral s
        .error (.wrongKind numeral.found wanted)
      else .error .noValue

def readTextValue (wanted : String) (s : List Char) : Except Fault (String × List Char) :=
  match s with
  | '"' :: rest => readText rest
  | s => wrongKind wanted s

def readBoolean (s : List Char) : Except Fault (Bool × List Char) :=
  match s with
  | 't' :: rest => do return (true, ← readLetters ['r', 'u', 'e'] rest)
  | 'f' :: rest => do return (false, ← readLetters ['a', 'l', 's', 'e'] rest)
  | s => wrongKind "a boolean" s

def readOptional {α : Type} (read : List Char → Except Fault (α × List Char)) (s : List Char) :
    Except Fault (Option α × List Char) :=
  match s with
  | 'n' :: rest => do return (none, ← readLetters ['u', 'l', 'l'] rest)
  | s => do
    let (a, rest) ← read s
    return (some a, rest)

/-- The place of the next item of a list, none at the end of the list. -/
def nextItem? (first : Bool) (s : List Char) : Except Fault (Option (List Char)) :=
  match first, Text.skipGaps s with
  | _, [] => .error (.endOfText .list)
  | _, ']' :: _ => .ok none
  | true, s => .ok (some s)
  | false, ',' :: rest =>
    match Text.skipGaps rest with
    | [] => .error (.endOfText .value)
    | ']' :: _ => .error .trailingComma
    | s => .ok (some s)
  | false, _ => .error .noCommaInList

def endList (s : List Char) : Except Fault (List Char) :=
  match Text.skipGaps s with
  | [] => .error (.endOfText .list)
  | ']' :: rest => .ok rest
  | ',' :: rest =>
    match Text.skipGaps rest with
    | ']' :: _ => .error .trailingComma
    | _ => .error .trailingCharacters
  | _ => .error .trailingCharacters

def readItems {α : Type} (read : List Char → Except Fault (α × List Char)) :
    Nat → Bool → List Char → Except Fault (List α × List Char)
  | 0, _, _ => .error (.endOfText .list)
  | bound + 1, first, s => do
    match ← nextItem? first s with
    | none => return ([], s)
    | some s =>
      let (a, s) ← read s
      let (as, s) ← readItems read bound false s
      return (a :: as, s)

/-- A list of values of one kind; the length of the text bounds their number. -/
def readList {α : Type} (read : List Char → Except Fault (α × List Char)) (s : List Char) :
    Except Fault (List α × List Char) :=
  match s with
  | '[' :: rest => do
    let (items, rest) ← readItems read (rest.length + 1) true rest
    return (items, ← endList rest)
  | s => wrongKind "a sequence" s

/-- A text that is one value, with gaps around it. -/
def readWhole {α : Type} (read : List Char → Except Fault (α × List Char)) (s : List Char) :
    Except Fault α := do
  let (a, rest) ← read (Text.skipGaps s)
  if Text.skipGaps rest = [] then .ok a else .error .trailingCharacters

end SolidStudy.Json
