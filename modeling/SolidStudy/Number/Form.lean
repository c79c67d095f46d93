import SolidStudy.Number.Shortest

/-! How a double is written. A `Form` holds every decision of one output format; the digits are
always the fewest that read back. -/
namespace SolidStudy.Number

structure Form where
  tie : Tie
  /-- The exponents of the leading digit that are written without an exponent, if not all are. -/
  positional : Option (Int × Int)
  /-- Whether a whole number ends in `.0`. -/
  pointZero : Bool
  nan : List Char
  deriving DecidableEq, Repr

def Decimal.leading (d : Decimal) : Int := d.exponent + (Nat.toDigits 10 d.digits).length - 1

/-- Digits around a decimal point, with as many zeros as the exponent asks for. -/
def Decimal.positional (pointZero : Bool) (d : Decimal) : List Char :=
  let digits := Nat.toDigits 10 d.digits
  match d.exponent with
  | .ofNat e => digits ++ List.replicate e '0' ++ if pointZero then ['.', '0'] else []
  | .negSucc e =>
    let places := e + 1
    if places < digits.length then
      digits.take (digits.length - places) ++ '.' :: digits.drop (digits.length - places)
    else
      '0' :: '.' :: (List.replicate (places - digits.length) '0' ++ digits)

/-- One digit before the point and a signed exponent of ten. -/
def Decimal.scientific (d : Decimal) : List Char :=
  let digits := Nat.toDigits 10 d.digits
  let fraction := if digits.length = 1 then [] else '.' :: digits.drop 1
  let sign := if d.leading < 0 then '-' else '+'
  digits.take 1 ++ fraction ++ 'e' :: sign :: Nat.toDigits 10 d.leading.natAbs

def Form.writeDecimal (form : Form) (d : Decimal) : List Char :=
  match form.positional with
  | none => d.positional form.pointZero
  | some (low, high) =>
    if low ≤ d.leading ∧ d.leading ≤ high then d.positional form.pointZero else d.scientific

def Form.write (form : Form) (x : Float) : List Char :=
  if x.isNaN then form.nan
  else
    let sign := if isNegative x then ['-'] else []
    if rankOf x = infinityRank then sign ++ ['i', 'n', 'f']
    else sign ++ form.writeDecimal (shortest form.tie (rankOf x))

/-- Never an exponent and no `.0`; a tie goes to the larger digit. -/
def plainForm : Form where
  tie := .up
  positional := none
  pointZero := false
  nan := ['n', 'a', 'n']

end SolidStudy.Number
