import Mathlib
import SolidStudy.Number.Numeral

/-! The grammar of numerals. Whatever `scan` finds at the front of a text is a numeral of the
grammar, and it finds every numeral that stands in front of a text that cannot prolong it. -/
namespace SolidStudy.Number

variable {s front whole fraction rest r : List Char} {negative : Bool} {exponent : Int}
  {numeral : Numeral}

def Digits (s : List Char) : Prop :=
  ∀ c ∈ s, c.isDigit = true

inductive SignText : List Char → Bool → Prop
  | absent : SignText [] false
  | plus : SignText ['+'] false
  | minus : SignText ['-'] true

inductive MantissaText : List Char → List Char → List Char → Prop
  | whole {whole : List Char} (some : whole ≠ []) (digits : Digits whole) :
      MantissaText whole whole []
  | point {whole fraction : List Char} (some : whole ≠ []) (digits : Digits whole)
      (places : Digits fraction) : MantissaText (whole ++ '.' :: fraction) whole fraction
  | fraction {fraction : List Char} (some : fraction ≠ []) (places : Digits fraction) :
      MantissaText ('.' :: fraction) [] fraction

inductive ExponentText : List Char → Int → Prop
  | absent : ExponentText [] 0
  | present {mark : Char} {sign digits : List Char} {negative : Bool}
      (marked : mark = 'e' ∨ mark = 'E') (signed : SignText sign negative) (some : digits ≠ [])
      (size : Digits digits) :
      ExponentText (mark :: (sign ++ digits))
        (if negative then -(Nat.ofDigitChars 10 digits 0 : Int) else Nat.ofDigitChars 10 digits 0)

inductive NumeralText : List Char → Numeral → Prop
  | parts {sign mantissa power whole fraction : List Char} {negative : Bool} {exponent : Int}
      (signed : SignText sign negative) (digits : MantissaText mantissa whole fraction)
      (scaled : ExponentText power exponent) :
      NumeralText (sign ++ (mantissa ++ power)) ⟨negative, whole, fraction, exponent⟩

def NumeralChar (c : Char) : Prop :=
  c.isDigit = true ∨ c ∈ ['+', '-', '.', 'e', 'E']

instance (c : Char) : Decidable (NumeralChar c) :=
  inferInstanceAs (Decidable (c.isDigit = true ∨ c ∈ ['+', '-', '.', 'e', 'E']))

theorem Digits.chars (h : Digits s) : ∀ c ∈ s, NumeralChar c :=
  fun c hc => .inl (h c hc)

theorem SignText.chars (h : SignText s negative) : ∀ c ∈ s, NumeralChar c := by
  cases h <;> simp [NumeralChar]

theorem MantissaText.chars (h : MantissaText s whole fraction) : ∀ c ∈ s, NumeralChar c := by
  have point : NumeralChar '.' := .inr (by decide)
  cases h with
  | whole _ digits => exact digits.chars
  | point _ digits places =>
    exact List.forall_mem_append.mpr ⟨digits.chars, List.forall_mem_cons.mpr ⟨point, places.chars⟩⟩
  | fraction _ places => exact List.forall_mem_cons.mpr ⟨point, places.chars⟩

theorem ExponentText.chars (h : ExponentText s exponent) : ∀ c ∈ s, NumeralChar c := by
  cases h with
  | absent => simp
  | @present mark _ _ _ marked signed _ size =>
    have letter : NumeralChar mark := .inr (by rcases marked with rfl | rfl <;> decide)
    exact List.forall_mem_cons.mpr ⟨letter, List.forall_mem_append.mpr ⟨signed.chars, size.chars⟩⟩

theorem NumeralText.chars (h : NumeralText s numeral) : ∀ c ∈ s, NumeralChar c := by
  cases h with
  | parts signed digits scaled =>
    exact List.forall_mem_append.mpr
      ⟨signed.chars, List.forall_mem_append.mpr ⟨digits.chars, scaled.chars⟩⟩
theorem spanDigits_spec {digits : List Char} (h : spanDigits s = (digits, rest)) :
    s = digits ++ rest ∧ Digits digits := by
  obtain ⟨rfl, rfl⟩ := Prod.mk.inj h
  exact ⟨List.takeWhile_append_dropWhile.symm, fun c hc => List.mem_takeWhile_imp hc⟩

theorem readSign_spec (h : readSign s = (negative, rest)) :
    ∃ sign, s = sign ++ rest ∧ SignText sign negative := by
  unfold readSign at h
  split at h <;> obtain ⟨rfl, rfl⟩ := Prod.mk.inj h
  · exact ⟨_, rfl, .minus⟩
  · exact ⟨_, rfl, .plus⟩
  · exact ⟨_, rfl, .absent⟩

theorem readMantissa_spec (h : readMantissa s = some (whole, fraction, rest)) :
    ∃ front, s = front ++ rest ∧ MantissaText front whole fraction := by
  unfold readMantissa at h
  split at h
  · rename_i tail point
    obtain ⟨rfl, -⟩ := spanDigits_spec point
    split at h
    · cases h
    · rename_i digits left present places
      obtain ⟨rfl, digits⟩ := spanDigits_spec places
      cases h
      exact ⟨'.' :: fraction, rfl, .fraction present digits⟩
  · cases h
  · rename_i digits tail present point
    obtain ⟨rfl, digits⟩ := spanDigits_spec point
    obtain ⟨rfl, after⟩ := Prod.mk.inj (Option.some.inj h)
    obtain ⟨rfl, places⟩ := spanDigits_spec after
    exact ⟨_, by simp, .point present digits places⟩
  · rename_i digits left present _ point
    obtain ⟨rfl, digits⟩ := spanDigits_spec point
    cases h
    exact ⟨whole, rfl, .whole present digits⟩

theorem scanExponent_spec (h : scanExponent negative whole fraction s = .found numeral rest) :
    ∃ front exponent, s = front ++ rest ∧ ExponentText front exponent ∧
      numeral = ⟨negative, whole, fraction, exponent⟩ := by
  cases s with
  | nil =>
    cases h
    exact ⟨[], 0, rfl, .absent, rfl⟩
  | cons c tail =>
    rw [scanExponent] at h
    by_cases marked : c = 'e' ∨ c = 'E'
    · cases sign : readSign tail with
      | mk minus afterSign =>
        obtain ⟨signText, rfl, signed⟩ := readSign_spec sign
        simp only [if_pos marked, sign] at h
        split at h
        · cases h
        · rename_i digits left present span
          obtain ⟨rfl, size⟩ := spanDigits_spec span
          cases h
          exact ⟨_, _, by simp, .present marked signed present size, rfl⟩
    · rw [if_neg marked] at h
      cases h
      exact ⟨[], 0, rfl, .absent, rfl⟩

theorem scan_spec (h : scan s = .found numeral rest) :
    ∃ front, s = front ++ rest ∧ NumeralText front numeral := by
  cases sign : readSign s with
  | mk negative afterSign =>
    obtain ⟨signText, rfl, signed⟩ := readSign_spec sign
    simp only [scan, sign] at h
    split at h
    · cases h
    · rename_i whole fraction left found
      obtain ⟨mantissa, rfl, digits⟩ := readMantissa_spec found
      obtain ⟨power, exponent, rfl, scaled, rfl⟩ := scanExponent_spec h
      exact ⟨_, by simp, .parts signed digits scaled⟩

/-- A text that cannot prolong digits with a point in front of it. -/
def EndsMantissa (r : List Char) : Prop :=
  ∀ c ∈ r.head?, c.isDigit = false ∧ c ≠ '.'

/-- A text that cannot prolong a numeral in front of it. -/
def EndsNumeral (r : List Char) : Prop :=
  ∀ c ∈ r.head?, c.isDigit = false ∧ c ≠ '.' ∧ c ≠ 'e' ∧ c ≠ 'E'

theorem EndsNumeral.endsMantissa (hr : EndsNumeral r) : EndsMantissa r :=
  fun c hc => ⟨(hr c hc).1, (hr c hc).2.1⟩

theorem spanDigits_append {digits r : List Char} (hd : Digits digits)
    (hr : ∀ c ∈ r.head?, c.isDigit = false) : spanDigits (digits ++ r) = (digits, r) := by
  rw [spanDigits, List.takeWhile_append_of_pos hd, List.dropWhile_append_of_pos hd]
  cases r with
  | nil => simp
  | cons c r => simp [hr c rfl]

theorem readSign_append {sign : List Char} (h : SignText sign negative)
    (unsigned : ∀ c ∈ s.head?, c ≠ '-' ∧ c ≠ '+') : readSign (sign ++ s) = (negative, s) := by
  cases h with
  | plus | minus => rfl
  | absent =>
    rw [List.nil_append, readSign]
    · rintro rest rfl
      exact (unsigned _ rfl).1 rfl
    · rintro rest rfl
      exact (unsigned _ rfl).2 rfl

theorem not_sign_of_isDigit {c : Char} (hc : c.isDigit = true) : c ≠ '-' ∧ c ≠ '+' := by
  constructor <;> rintro rfl <;> cases hc

theorem Digits.unsigned {digits : List Char} (hd : Digits digits) (some : digits ≠ []) :
    ∀ c ∈ (digits ++ r).head?, c ≠ '-' ∧ c ≠ '+' := by
  obtain ⟨first, rest, rfl⟩ := List.exists_cons_of_ne_nil some
  rintro c ⟨⟩
  exact not_sign_of_isDigit (hd first List.mem_cons_self)

theorem MantissaText.unsigned (h : MantissaText front whole fraction) :
    ∀ c ∈ (front ++ r).head?, c ≠ '-' ∧ c ≠ '+' := by
  cases h with
  | whole some digits => exact digits.unsigned some
  | point some digits =>
    rw [List.append_assoc]
    exact digits.unsigned some
  | fraction =>
    rintro c ⟨⟩
    decide

theorem readMantissa_append (h : MantissaText front whole fraction) (hr : EndsMantissa r) :
    readMantissa (front ++ r) = some (whole, fraction, r) := by
  have stops : ∀ c ∈ r.head?, c.isDigit = false := fun c hc => (hr c hc).1
  cases h with
  | whole some digits =>
    rw [readMantissa, spanDigits_append digits stops]
    obtain ⟨first, rest, rfl⟩ := List.exists_cons_of_ne_nil some
    cases r with
    | nil => rfl
    | cons c r =>
      have point : c ≠ '.' := (hr c rfl).2
      split <;> simp_all
  | point some digits places =>
    have point : ∀ c ∈ ('.' :: (fraction ++ r)).head?, c.isDigit = false := by simp
    rw [List.append_assoc, List.cons_append, readMantissa, spanDigits_append digits point]
    obtain ⟨first, rest, rfl⟩ := List.exists_cons_of_ne_nil some
    simp [spanDigits_append places stops]
  | fraction some places =>
    have none : Digits [] := by simp [Digits]
    have point : spanDigits ('.' :: (fraction ++ r)) = ([], '.' :: (fraction ++ r)) :=
      spanDigits_append none (by simp)
    obtain ⟨first, rest, rfl⟩ := List.exists_cons_of_ne_nil some
    rw [List.cons_append, readMantissa, point]
    simp only
    rw [spanDigits_append places stops]

theorem scanExponent_append (h : ExponentText front exponent) (hr : EndsNumeral r) :
    scanExponent negative whole fraction (front ++ r) =
      .found ⟨negative, whole, fraction, exponent⟩ r := by
  cases h with
  | absent =>
    cases r with
    | nil => rfl
    | cons c r =>
      obtain ⟨-, -, lower, upper⟩ := hr c rfl
      simp [scanExponent, lower, upper]
  | @present mark sign digits minus marked signed some size =>
    have split := readSign_append signed (size.unsigned some (r := r))
    have span := spanDigits_append size fun c hc => (hr c hc).1
    obtain ⟨first, rest, rfl⟩ := List.exists_cons_of_ne_nil some
    rw [List.cons_append, List.append_assoc, scanExponent, if_pos marked, split]
    simp only
    rw [span]

theorem ExponentText.endsMantissa (h : ExponentText front exponent) (hr : EndsNumeral r) :
    EndsMantissa (front ++ r) := by
  cases h with
  | absent => exact hr.endsMantissa
  | present marked =>
    rintro c ⟨⟩
    rcases marked with rfl | rfl <;> decide

theorem scan_append (h : NumeralText front numeral) (hr : EndsNumeral r) :
    scan (front ++ r) = .found numeral r := by
  cases h with
  | parts signed digits scaled =>
    rw [List.append_assoc, List.append_assoc, scan, readSign_append signed digits.unsigned]
    simp only
    rw [readMantissa_append digits (scaled.endsMantissa hr)]
    exact scanExponent_append scaled hr

/-- A letter is one of the two cases of its lowercase letter. -/
theorem eq_of_toLower {c w : Char} (h : c.toLower = w) : c = w ∨ c = w.toUpper := by
  by_cases upper : c.isUpper = true
  · have same := c.toUpper_toLower_eq_toUpper
    rw [h, Char.toUpper_eq_of_not_isLower (Char.not_isLower_of_isUpper upper)] at same
    exact .inr same.symm
  · rw [Char.toLower_eq_of_not_isUpper upper] at h
    exact .inl h

end SolidStudy.Number
