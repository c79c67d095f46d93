import SolidStudy.Number.Nearest

/-! The decimal that names a finite double with the fewest digits. Of the decimals that are read
back as the double, those on the coarsest power of ten have the fewest digits, and of these the
nearest to the double is taken. -/
namespace SolidStudy.Number

/-- Which of two decimals equally near to the double is taken. -/
inductive Tie where
  | toEven
  | up
  deriving DecidableEq, Repr

/-- The value of a rank in multiples of `10 ^ exponent`, as a numerator and a denominator. -/
def inPowersOfTen (rank : Nat) : Int → Nat × Nat
  | .ofNat e => (unitsOfRank rank, Nat.pow 10 e <<< unitExponent)
  | .negSucc e => (unitsOfRank rank * Nat.pow 10 (e + 1), 1 <<< unitExponent)

/-- Of the multiples of `10 ^ exponent` just below and just above the value, the nearest that is
read back. -/
def onGrid (tie : Tie) (rank : Nat) (exponent : Int) : Option Decimal :=
  let (num, den) := inPowersOfTen rank exponent
  let below : Decimal := ⟨num / den, exponent⟩
  let above : Decimal := ⟨num / den + 1, exponent⟩
  match decide (below.rank = rank), decide (above.rank = rank) with
  | false, false => none
  | true, false => some below
  | false, true => some above
  | true, true =>
    match compare (2 * num) ((2 * below.digits + 1) * den), tie with
    | .lt, _ => some below
    | .gt, _ => some above
    | .eq, .up => some above
    | .eq, .toEven => some (if below.digits % 2 = 0 then below else above)

def exactDecimal (rank : Nat) : Decimal :=
  ⟨unitsOfRank rank * Nat.pow 5 unitExponent, -unitExponent⟩

/-- The first grid with a hit, going down from `10 ^ exponent`. -/
def searchGrids (tie : Tie) (rank : Nat) : Nat → Int → Decimal
  | 0, _ => exactDecimal rank
  | steps + 1, exponent =>
    match onGrid tie rank exponent with
    | some d => d
    | none => searchGrids tie rank steps (exponent - 1)

/-- A power of ten above the value, at most two above its leading digit. -/
def coarsestExponent (rank : Nat) : Int :=
  ((unitsOfRank rank).log2 - unitExponent : Int) * 30103 / 100000 + 2

/-- Seventeen digits always suffice, so twenty grids are enough. -/
def shortest (tie : Tie) (rank : Nat) : Decimal :=
  if rank = 0 then ⟨0, 0⟩ else searchGrids tie rank 20 (coarsestExponent rank)

end SolidStudy.Number
