import SolidStudy.Json.Document
import SolidStudy.Text

/-! Why a JSON text is refused. The first fault in the order of the text is the one reported,
whether it breaks the notation or has the wrong kind of value. -/
namespace SolidStudy.Json

/-- What a text can end in the middle of. -/
inductive Part where
  | value
  | list
  | object
  | text
  deriving DecidableEq, Repr

def Part.name : Part → String
  | .value => "a value"
  | .list => "a list"
  | .object => "an object"
  | .text => "a string"

/-- The value that stands where another kind is wanted. -/
inductive Found where
  | null
  | boolean (b : Bool)
  | integer (n : Int)
  | real (x : Float)
  | text (s : String)
  | list
  | object
  deriving DecidableEq, Repr

def Found.describe : Found → String
  | .null => "null"
  | .boolean b => s!"boolean `{b}`"
  | .integer n => s!"integer `{n}`"
  | .real x => "floating point `" ++ String.ofList (writeReal x) ++ "`"
  | .text s => "string " ++ Text.shown s
  | .list => "sequence"
  | .object => "map"

inductive Fault where
  | endOfText (part : Part)
  | noValue
  /-- A word that begins like `true`, `false` or `null`. -/
  | brokenWord
  | keyNotText
  | noColon
  | noCommaInObject
  | noCommaInList
  | trailingComma
  | trailingCharacters
  | invalidNumber
  | numberOutOfRange
  | invalidEscape
  | controlCharacter
  | unpairedSurrogate
  | brokenPair
  | wrongKind (found : Found) (wanted : String)
  | duplicateField (name : String)
  deriving DecidableEq, Repr

/-- What is wrong, without the place: the line and the column that a report puts behind it, as in
"EOF while parsing a value at line 1 column 0", are left out. -/
def Fault.message : Fault → String
  | .endOfText part => s!"EOF while parsing {part.name}"
  | .noValue => "expected value"
  | .brokenWord => "expected ident"
  | .keyNotText => "key must be a string"
  | .noColon => "expected `:`"
  | .noCommaInObject => "expected `,` or `\x7d`"
  | .noCommaInList => "expected `,` or `]`"
  | .trailingComma => "trailing comma"
  | .trailingCharacters => "trailing characters"
  | .invalidNumber => "invalid number"
  | .numberOutOfRange => "number out of range"
  | .invalidEscape => "invalid escape"
  | .controlCharacter =>
    "control character (\\u0000-\\u001F) found while parsing a string"
  | .unpairedSurrogate => "lone leading surrogate in hex escape"
  | .brokenPair => "unexpected end of hex escape"
  | .wrongKind found wanted => s!"invalid type: {found.describe}, expected {wanted}"
  | .duplicateField name => s!"duplicate field `{name}`"

end SolidStudy.Json
