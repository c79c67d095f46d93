/-! Doubles without sign as ranks. The rank of a double is its bit pattern less the sign bit, so
zero has rank 0, the ranks follow the order of the values, and the finite doubles are exactly the
ranks below `infinityRank`. Every finite double is a whole number of units of `2 ^ -1074`. A
quotient or a decimal is rounded to the nearest rank, a tie to the even one. -/
namespace SolidStudy.Number

def unitExponent : Nat := 1074

def infinityRank : Nat := 0x7FF0000000000000

/-- The number of ranks from one power of two to the next, and the first rank that has as many
bits as a double can keep. -/
def octave : Nat := 0x10000000000000

/-- The bit that is set in the pattern of a negative double. -/
def signBit : Nat := 0x8000000000000000

/-- The whole number of units that a finite rank stands for. -/
def unitsOfRank (rank : Nat) : Nat :=
  if rank < octave then rank
  else (octave + rank % octave) <<< (rank / octave - 1)

/-- The natural nearest to `num / den`, the even one of two that are equally near. -/
def divNearest (num den : Nat) : Nat :=
  let quotient := num / den
  match compare (2 * (num % den)) den with
  | .lt => quotient
  | .gt => quotient + 1
  | .eq => quotient + quotient % 2

/-- Fifty-three leading bits of the quotient are kept, or all bits down to one unit. -/
def rankOfQuotient (num den : Nat) : Nat :=
  let units := num <<< unitExponent
  let dropped := (units / den).log2 - 52
  min (dropped * octave + divNearest units (den <<< dropped)) infinityRank

/-- The number `digits * 10 ^ exponent`. -/
structure Decimal where
  digits : Nat
  exponent : Int
  deriving DecidableEq, Repr

/-- Powers of ten beyond `10 ^ 400` are not formed: such a decimal is infinite or zero by its size
alone. -/
def Decimal.rank (d : Decimal) : Nat :=
  if d.digits = 0 then 0
  else if 400 < d.exponent then infinityRank
  else if d.exponent < -(400 + d.digits.log2 : Int) then 0
  else match d.exponent with
    | .ofNat e => rankOfQuotient (d.digits * Nat.pow 10 e) 1
    | .negSucc e => rankOfQuotient d.digits (Nat.pow 10 (e + 1))

def ofRank (negative : Bool) (rank : Nat) : Float :=
  Float.ofBits (UInt64.ofNat ((if negative then signBit else 0) + rank))

def rankOf (x : Float) : Nat := x.toBits.toNat % signBit

def isNegative (x : Float) : Bool := signBit ≤ x.toBits.toNat

def infinity : Float := ofRank false infinityRank

def notANumber : Float := ofRank false 0x7FF8000000000000

def Decimal.toFloat (negative : Bool) (d : Decimal) : Float := ofRank negative d.rank

end SolidStudy.Number
