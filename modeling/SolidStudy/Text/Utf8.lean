/-! Text as octets. The octets are read one at a time: a character is begun by an octet that says
how many follow, and the range of the octet right after it excludes every code that is no
character and every spelling that is longer than it has to be. -/
namespace SolidStudy.Text.Utf8

abbrev Octets := List UInt8

/-- A character that is not complete. The next octet has to lie between `low` and `high`. -/
structure Pending where
  code : Nat
  /-- How many octets are still to come. -/
  owed : Nat
  low : Nat
  high : Nat
  deriving DecidableEq, Repr

inductive Lead where
  | complete (c : Char)
  | pending (p : Pending)
  | invalid
  deriving DecidableEq, Repr

def tailLow : Nat := 0x80

def tailHigh : Nat := 0xBF

def lead (octet : Nat) : Lead :=
  if octet ≤ 0x7F then .complete (Char.ofNat octet)
  else if 0xC2 ≤ octet ∧ octet ≤ 0xDF then .pending ⟨octet - 0xC0, 1, tailLow, tailHigh⟩
  else if octet = 0xE0 then .pending ⟨0, 2, 0xA0, tailHigh⟩
  else if octet = 0xED then .pending ⟨0xD, 2, tailLow, 0x9F⟩
  else if 0xE1 ≤ octet ∧ octet ≤ 0xEF then .pending ⟨octet - 0xE0, 2, tailLow, tailHigh⟩
  else if octet = 0xF0 then .pending ⟨0, 3, 0x90, tailHigh⟩
  else if octet = 0xF4 then .pending ⟨4, 3, tailLow, 0x8F⟩
  else if 0xF1 ≤ octet ∧ octet ≤ 0xF3 then .pending ⟨octet - 0xF0, 3, tailLow, tailHigh⟩
  else .invalid

/-- A pending character with one more octet, none if the octet does not continue it. -/
def Pending.advance? (p : Pending) (octet : Nat) : Option Lead :=
  if p.low ≤ octet ∧ octet ≤ p.high then
    let code := p.code * 64 + (octet - 0x80)
    if p.owed = 1 then some (.complete (Char.ofNat code))
    else some (.pending ⟨code, p.owed - 1, tailLow, tailHigh⟩)
  else none

/-- The character that stands for octets that are none. -/
def replacement : Char := '\ufffd'

/-- What an octet adds to the text, and the character it leaves pending. -/
def Lead.emit : Lead → List Char × Option Pending
  | .complete c => ([c], none)
  | .pending p => ([], some p)
  | .invalid => ([replacement], none)

/-- An octet that does not continue a character ends it and is read again as a first octet. -/
def step (pending : Option Pending) (octet : UInt8) : List Char × Option Pending :=
  match pending with
  | none => (lead octet.toNat).emit
  | some p =>
    match p.advance? octet.toNat with
    | some next => next.emit
    | none =>
      let (chars, pending) := (lead octet.toNat).emit
      (replacement :: chars, pending)

def decodeFrom (pending : Option Pending) : Octets → List Char
  | [] => if pending.isSome then [replacement] else []
  | octet :: rest =>
    let (chars, pending) := step pending octet
    chars ++ decodeFrom pending rest

/-- Every octet is read. A beginning of a character that is not completed gives one replacement
character, as does an octet that begins none. -/
def decodeLossy (octets : Octets) : List Char := decodeFrom none octets

def decodeExactFrom (pending : Option Pending) : Octets → Option (List Char)
  | [] => if pending.isSome then none else some []
  | octet :: rest =>
    let next := match pending with
      | none => lead octet.toNat
      | some p => (p.advance? octet.toNat).getD .invalid
    match next with
    | .complete c => (decodeExactFrom none rest).map (c :: ·)
    | .pending p => decodeExactFrom (some p) rest
    | .invalid => none

/-- The text of octets that are nothing but characters. -/
def decode? (octets : Octets) : Option (List Char) := decodeExactFrom none octets

def encode (s : List Char) : Octets := (String.ofList s).toUTF8.toList

end SolidStudy.Text.Utf8
