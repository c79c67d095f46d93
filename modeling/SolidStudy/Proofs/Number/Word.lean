import Mathlib
import SolidStudy.Proofs.Number.Grammar

/-! Whole words that are read as numbers: counts of 64 bits, and doubles. -/
namespace SolidStudy.Number

variable {word name : List Char} {n : Nat} {x : Float} {negative : Bool}

/-- Digits with at most one plus sign, for a count of 64 bits. -/
inductive CountText : List Char → Nat → Prop
  | digits {sign digits : List Char} (unsigned : sign = [] ∨ sign = ['+']) (some : digits ≠ [])
      (size : Digits digits) (fits : Nat.ofDigitChars 10 digits 0 < wordSize) :
      CountText (sign ++ digits) (Nat.ofDigitChars 10 digits 0)

/-- The names of doubles that no numeral stands for, in any case. -/
inductive NameText : List Char → Bool → Float → Prop
  | infinity {name : List Char} {negative : Bool}
      (spelled : name.map Char.toLower ∈ ["inf".toList, "infinity".toList]) :
      NameText name negative (ofRank negative infinityRank)
  | notANumber {name : List Char} {negative : Bool}
      (spelled : name.map Char.toLower = "nan".toList) : NameText name negative notANumber

inductive DoubleText : List Char → Float → Prop
  | numeral {word : List Char} {numeral : Numeral} (h : NumeralText word numeral) :
      DoubleText word numeral.toFloat
  | name {sign name : List Char} {negative : Bool} {x : Float} (signed : SignText sign negative)
      (h : NameText name negative x) : DoubleText (sign ++ name) x

theorem readCount_plus {digits : List Char} : readCount ('+' :: digits) = some n ↔
    digits ≠ [] ∧ Digits digits ∧ Nat.ofDigitChars 10 digits 0 < wordSize ∧
      Nat.ofDigitChars 10 digits 0 = n := by
  simp [readCount, Digits, and_assoc]

theorem readCount_bare {digits : List Char} (bare : ∀ rest, digits ≠ '+' :: rest) :
    readCount digits = some n ↔ digits ≠ [] ∧ Digits digits ∧
      Nat.ofDigitChars 10 digits 0 < wordSize ∧ Nat.ofDigitChars 10 digits 0 = n := by
  rw [readCount]
  · simp [Digits, and_assoc]
  · exact bare

theorem readCount_eq_some_iff : readCount word = some n ↔ CountText word n := by
  constructor
  · intro h
    by_cases signed : ∃ digits, word = '+' :: digits
    · obtain ⟨digits, rfl⟩ := signed
      obtain ⟨some, size, fits, rfl⟩ := readCount_plus.mp h
      exact .digits (.inr rfl) some size fits
    · obtain ⟨some, size, fits, rfl⟩ := (readCount_bare (not_exists.mp signed)).mp h
      exact .digits (.inl rfl) some size fits
  · intro h
    cases h with
    | @digits sign digits unsigned some size fits =>
      rcases unsigned with rfl | rfl
      · have bare : ∀ rest, digits ≠ '+' :: rest := by
          rintro rest rfl
          have plus := size '+' List.mem_cons_self
          contradiction
        exact (readCount_bare bare).mpr ⟨some, size, fits, rfl⟩
      · exact readCount_plus.mpr ⟨some, size, fits, rfl⟩

theorem NameText.exists_cons (h : NameText name negative x) :
    ∃ c rest, name = c :: rest ∧ c ∈ ['i', 'I', 'n', 'N'] := by
  have first {w : Char} {word : List Char} (spelled : name.map Char.toLower = w :: word) :
      ∃ c rest, name = c :: rest ∧ (c = w ∨ c = w.toUpper) := by
    obtain ⟨c, rest, rfl, lower, -⟩ := List.map_eq_cons_iff.mp spelled
    exact ⟨c, rest, rfl, eq_of_toLower lower⟩
  cases h with
  | infinity spelled =>
    rcases List.mem_pair.mp spelled with spelled | spelled <;>
      obtain ⟨c, rest, rfl, rfl | rfl⟩ := first spelled <;> exact ⟨_, rest, rfl, by decide⟩
  | notANumber spelled =>
    obtain ⟨c, rest, rfl, rfl | rfl⟩ := first spelled <;> exact ⟨_, rest, rfl, by decide⟩

/-- A name does not begin as a numeral does. -/
theorem NameText.unsigned (h : NameText name negative x) :
    ∀ c ∈ name.head?, c ≠ '-' ∧ c ≠ '+' := by
  obtain ⟨c, rest, rfl, listed⟩ := h.exists_cons
  rintro d ⟨⟩
  constructor <;> rintro rfl <;> revert listed <;> decide

theorem NameText.scan_absent {sign : List Char} (h : NameText name negative x)
    (signed : SignText sign negative) : scan (sign ++ name) = .absent := by
  rw [scan, readSign_append signed h.unsigned]
  obtain ⟨c, rest, rfl, listed⟩ := h.exists_cons
  simp only [List.mem_cons, List.not_mem_nil, or_false] at listed
  rcases listed with rfl | rfl | rfl | rfl <;> simp [readMantissa, spanDigits]

theorem readDouble_eq_some_iff : readDouble word = some x ↔ DoubleText word x := by
  constructor
  · intro h
    unfold readDouble at h
    split at h
    · rename_i numeral found
      obtain ⟨front, rfl, written⟩ := scan_spec found
      cases h
      rw [List.append_nil]
      exact .numeral written
    · cases read : readSign word with
      | mk negative name =>
        obtain ⟨sign, rfl, signed⟩ := readSign_spec read
        simp only [read] at h
        split_ifs at h with infinite undefined
        · cases h
          exact .name signed (.infinity infinite)
        · cases h
          exact .name signed (.notANumber undefined)
  · intro h
    cases h with
    | @numeral _ numeral written =>
      have found : scan word = .found numeral [] := by
        have alone := scan_append written (r := []) (by simp [EndsNumeral])
        rwa [List.append_nil] at alone
      rw [readDouble, found]
    | name signed named =>
      rw [readDouble, named.scan_absent signed]
      simp only [readSign_append signed named.unsigned]
      cases named with
      | infinity spelled => rw [if_pos spelled]
      | notANumber spelled =>
        rw [if_neg (by rw [spelled]; decide), if_pos spelled]

end SolidStudy.Number
