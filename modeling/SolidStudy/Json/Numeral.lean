import SolidStudy.Json.Fault
import SolidStudy.Number.Numeral

/-! JSON numerals. A whole number of 64 bits is an integer; any other numeral is a double that is
found by one scaling: the significand, as far as it fits into 64 bits, is rounded to a double and
then multiplied or divided by a power of ten. Such a double may differ in its last bit from the
one nearest to the numeral. -/
namespace SolidStudy.Json

inductive Numeral where
  | integer (n : Int)
  | real (x : Float)
  deriving DecidableEq, Repr

def Numeral.toFloat : Numeral → Float
  | .integer (.ofNat n) => (Number.Decimal.mk n 0).toFloat false
  | .integer (.negSucc n) => (Number.Decimal.mk (n + 1) 0).toFloat true
  | .real x => x

def Numeral.found : Numeral → Found
  | .integer n => .integer n
  | .real x => .real x

def powerOfTen (exponent : Nat) : Float := (Number.Decimal.mk 1 exponent).toFloat false

def largestPower : Nat := 308

/-- Division by `10 ^ exponent`, by the largest power of ten as often as it takes. -/
def scaleDown : Nat → Float → Nat → Float
  | 0, x, exponent => x / powerOfTen exponent
  | steps + 1, x, exponent =>
    if exponent ≤ largestPower then x / powerOfTen exponent
    else if x == 0 then x
    else scaleDown steps (x / powerOfTen largestPower) (exponent - largestPower)

def scale (significand : Nat) : Int → Except Fault Float
  | .ofNat exponent =>
    let x := (Number.Decimal.mk significand 0).toFloat false
    if exponent ≤ largestPower then
      let y := x * powerOfTen exponent
      if y.isInf then .error .numberOutOfRange else .ok y
    else if significand = 0 then .ok x
    else .error .numberOutOfRange
  | .negSucc exponent =>
    .ok (scaleDown (exponent + 1) ((Number.Decimal.mk significand 0).toFloat false) (exponent + 1))

def real (negative : Bool) (significand : Nat) (exponent : Int) : Except Fault Numeral := do
  let x ← scale significand exponent
  return .real (if negative then -x else x)

/-- The digits at the front are added to a significand until one does not fit into 64 bits. The
significand, how many digits were added, and what is left. -/
def takeDigits (significand : Nat) : List Char → Nat × Nat × List Char
  | [] => (significand, 0, [])
  | c :: rest =>
    let longer := significand * 10 + (c.toNat - '0'.toNat)
    if c.isDigit ∧ longer < Number.wordSize then
      let (significand, count, left) := takeDigits longer rest
      (significand, count + 1, left)
    else (significand, 0, c :: rest)

def readExponent (negative : Bool) (significand : Nat) (exponent : Int) (s : List Char) :
    Except Fault (Numeral × List Char) :=
  let (minus, s) := match s with
    | '+' :: rest => (false, rest)
    | '-' :: rest => (true, rest)
    | _ => (false, s)
  match Number.spanDigits s with
  | ([], []) => .error (.endOfText .value)
  | ([], _) => .error .invalidNumber
  | (digits, rest) => do
    let size : Int := Nat.ofDigitChars 10 digits 0
    return (← real negative significand (if minus then exponent - size else exponent + size), rest)

/-- The end of a numeral that is not an integer: an exponent or nothing more. -/
def readScale (negative : Bool) (significand : Nat) (exponent : Int) (s : List Char) :
    Except Fault (Numeral × List Char) :=
  match s with
  | 'e' :: rest | 'E' :: rest => readExponent negative significand exponent rest
  | _ => do return (← real negative significand exponent, s)

/-- The digits after the point. At least one is wanted; digits that do not fit are passed over. -/
def readFraction (negative : Bool) (significand : Nat) (exponent : Int) (s : List Char) :
    Except Fault (Numeral × List Char) :=
  let (significand, count, left) := takeDigits significand s
  match count, left with
  | 0, [] => .error (.endOfText .value)
  | 0, c :: rest =>
    if c.isDigit then readScale negative significand exponent (rest.dropWhile Char.isDigit)
    else .error .invalidNumber
  | count + 1, left =>
    readScale negative significand (exponent - (count + 1)) (left.dropWhile Char.isDigit)

/-- A whole number without sign, and with a minus sign if it is at least `-2 ^ 63`. -/
def wholeNumeral (negative : Bool) (significand : Nat) : Except Fault Numeral :=
  if ¬ negative then .ok (.integer significand)
  else if significand = 0 ∨ Number.signBit < significand then real true significand 0
  else .ok (.integer (-significand))

/-- A numeral after its sign. Whole digits that do not fit count as powers of ten. -/
def readUnsigned (negative : Bool) : List Char → Except Fault (Numeral × List Char)
  | [] => .error (.endOfText .value)
  | '0' :: c :: rest =>
    if c.isDigit then .error .invalidNumber else readAfterWhole negative 0 0 (c :: rest)
  | s =>
    let (significand, count, left) := takeDigits 0 s
    if count = 0 then .error .invalidNumber
    else
      let (dropped, rest) := Number.spanDigits left
      readAfterWhole negative significand dropped.length rest
where
  readAfterWhole (negative : Bool) (significand dropped : Nat) (s : List Char) :
      Except Fault (Numeral × List Char) :=
    match s with
    | '.' :: rest => readFraction negative significand dropped rest
    | 'e' :: rest | 'E' :: rest => readExponent negative significand dropped rest
    | _ => do
      if dropped = 0 then return (← wholeNumeral negative significand, s)
      else return (← real negative significand dropped, s)

def readNumeral : List Char → Except Fault (Numeral × List Char)
  | '-' :: rest => readUnsigned true rest
  | s => readUnsigned false s

/-- The double that is found when a written double is read again. -/
def reread (x : Float) : Except Fault Float :=
  if Number.rankOf x < Number.infinityRank then do
    let (numeral, _) ← readNumeral (writeReal x)
    return numeral.toFloat
  else .error (.wrongKind .null "f64")

end SolidStudy.Json
