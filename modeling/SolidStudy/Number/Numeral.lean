import SolidStudy.Number.Nearest

/-! Numerals of decimal notation: an optional sign, ASCII digits with an optional point, and an
optional exponent. `scan` reads one at the front of a text, `readDouble` and `readCount` read a
whole word. -/
namespace SolidStudy.Number

structure Numeral where
  negative : Bool
  whole : List Char
  fraction : List Char
  exponent : Int
  deriving DecidableEq, Repr

def Numeral.decimal (n : Numeral) : Decimal :=
  ⟨Nat.ofDigitChars 10 (n.whole ++ n.fraction) 0, n.exponent - n.fraction.length⟩

def Numeral.toFloat (n : Numeral) : Float := n.decimal.toFloat n.negative

def spanDigits (s : List Char) : List Char × List Char :=
  (s.takeWhile Char.isDigit, s.dropWhile Char.isDigit)

theorem length_spanDigits (s : List Char) :
    (spanDigits s).1.length + (spanDigits s).2.length = s.length := by
  rw [spanDigits, ← List.length_append, List.takeWhile_append_dropWhile]

/-- A sign at the front, true for minus. -/
def readSign : List Char → Bool × List Char
  | '-' :: rest => (true, rest)
  | '+' :: rest => (false, rest)
  | s => (false, s)

theorem length_readSign_le (s : List Char) : (readSign s).2.length ≤ s.length := by
  unfold readSign
  split <;> simp

/-- Whole digits and digits after the point, of which at least one kind is present. A point after
whole digits need not be followed by a digit. -/
def readMantissa (s : List Char) : Option (List Char × List Char × List Char) :=
  match spanDigits s with
  | ([], '.' :: rest) =>
    match spanDigits rest with
    | ([], _) => none
    | (fraction, rest) => some ([], fraction, rest)
  | ([], _) => none
  | (whole, '.' :: rest) => some (whole, spanDigits rest)
  | (whole, rest) => some (whole, [], rest)

theorem length_of_readMantissa {s whole fraction rest : List Char}
    (h : readMantissa s = some (whole, fraction, rest)) : rest.length < s.length := by
  have all := length_spanDigits s
  unfold readMantissa at h
  split at h
  · rename_i tail front
    have later := length_spanDigits tail
    simp only [front, List.length_cons, List.length_nil] at all
    split at h
    · simp at h
    · rename_i found
      simp only [found] at later
      simp only [Option.some.injEq, Prod.mk.injEq] at h
      obtain ⟨rfl, rfl, rfl⟩ := h
      omega
  · simp at h
  · rename_i digits tail front span
    have later := length_spanDigits tail
    simp only [span, List.length_cons] at all
    simp only [Option.some.injEq, Prod.mk.injEq] at h
    obtain ⟨rfl, h⟩ := h
    simp only [h] at later
    omega
  · rename_i digits tail present front span
    simp only [span] at all
    simp only [Option.some.injEq, Prod.mk.injEq] at h
    obtain ⟨rfl, rfl, rfl⟩ := h
    have := List.length_pos_iff.mpr present
    omega

inductive Scan where
  | found (numeral : Numeral) (rest : List Char)
  | absent
  /-- An exponent mark without digits. -/
  | brokenExponent
  deriving DecidableEq, Repr

def scanExponent (negative : Bool) (whole fraction : List Char) : List Char → Scan
  | [] => .found ⟨negative, whole, fraction, 0⟩ []
  | c :: rest =>
    if c = 'e' ∨ c = 'E' then
      let (minus, afterSign) := readSign rest
      match spanDigits afterSign with
      | ([], _) => .brokenExponent
      | (digits, rest) =>
        let size : Int := Nat.ofDigitChars 10 digits 0
        .found ⟨negative, whole, fraction, if minus then -size else size⟩ rest
    else .found ⟨negative, whole, fraction, 0⟩ (c :: rest)

theorem length_of_scanExponent {negative : Bool} {whole fraction s rest : List Char}
    {numeral : Numeral} (h : scanExponent negative whole fraction s = .found numeral rest) :
    rest.length ≤ s.length := by
  cases s with
  | nil => simp_all [scanExponent]
  | cons c s =>
    have sign := length_readSign_le s
    have digits := length_spanDigits (readSign s).2
    simp only [scanExponent] at h
    split at h
    · split at h
      · simp at h
      · rename_i found
        simp only [Scan.found.injEq] at h
        simp only [found, h.2] at digits
        simp only [List.length_cons]
        omega
    · simp_all

def scan (s : List Char) : Scan :=
  let (negative, afterSign) := readSign s
  match readMantissa afterSign with
  | none => .absent
  | some (whole, fraction, rest) => scanExponent negative whole fraction rest

theorem length_of_scan {s rest : List Char} {numeral : Numeral}
    (h : scan s = .found numeral rest) : rest.length < s.length := by
  have sign := length_readSign_le s
  simp only [scan] at h
  split at h
  · simp at h
  · rename_i mantissa
    have := length_of_readMantissa mantissa
    have := length_of_scanExponent h
    omega

/-- The lowercase word at the front in any case, and what follows it. -/
def dropWord? : List Char → List Char → Option (List Char)
  | [], rest => some rest
  | _ :: _, [] => none
  | w :: word, c :: rest => if c.toLower = w then dropWord? word rest else none

theorem length_of_dropWord? {word s rest : List Char} (h : dropWord? word s = some rest) :
    rest.length + word.length = s.length := by
  induction word generalizing s with
  | nil => simp_all [dropWord?]
  | cons w word ih =>
    cases s with
    | nil => simp [dropWord?] at h
    | cons c s =>
      simp only [dropWord?, Option.ite_none_right_eq_some] at h
      have := ih h.2
      simp only [List.length_cons]
      omega

/-- A whole word as a double: a numeral, or `inf`, `infinity` or `nan` in any case after an
optional sign. -/
def readDouble (word : List Char) : Option Float :=
  match scan word with
  | .found numeral [] => some numeral.toFloat
  | _ =>
    let (negative, name) := readSign word
    if name.map Char.toLower ∈ ["inf".toList, "infinity".toList] then
      some (ofRank negative infinityRank)
    else if name.map Char.toLower = "nan".toList then some notANumber
    else none

/-- The number of different words of 64 bits. -/
def wordSize : Nat := 0x10000000000000000

/-- A whole word as a count of 64 bits, with at most one plus sign. -/
def readCount (word : List Char) : Option Nat :=
  let digits := match word with
    | '+' :: rest => rest
    | _ => word
  if digits ≠ [] ∧ digits.all Char.isDigit then
    let n := Nat.ofDigitChars 10 digits 0
    if n < wordSize then some n else none
  else none

end SolidStudy.Number
