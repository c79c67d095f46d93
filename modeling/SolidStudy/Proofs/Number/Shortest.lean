import Mathlib
import SolidStudy.Number.Form
import SolidStudy.Proofs.Number.Grammar
import SolidStudy.Proofs.Number.Rank

/-! Reading back a written double. The shortest decimal of a finite rank has that rank, and the text
of a decimal in any form is a numeral of the same rank. -/
namespace SolidStudy.Number

theorem log2_mul_pow_five {units : Nat} (hu : units ≠ 0) (n : Nat) :
    2 * n ≤ (units * 5 ^ n).log2 := by
  have pow : 5 ^ n ≠ 0 := by positivity
  rw [Nat.le_log2 (Nat.mul_ne_zero hu pow)]
  calc
    2 ^ (2 * n) = 4 ^ n := by rw [pow_mul]; rfl
    _ ≤ 5 ^ n := Nat.pow_le_pow_left (by omega) n
    _ ≤ units * 5 ^ n := Nat.le_mul_of_pos_left _ (Nat.pos_of_ne_zero hu)

/-- A decimal with places is the quotient by a power of ten, unless it is too small. -/
theorem rank_of_places {digits places : Nat} (hd : digits ≠ 0) (hp : 0 < places)
    (hl : places ≤ 400 + digits.log2) :
    Decimal.rank ⟨digits, -places⟩ = rankOfQuotient digits (10 ^ places) := by
  obtain ⟨k, rfl⟩ := Nat.exists_eq_succ_of_ne_zero hp.ne'
  have high : ¬ (400 : Int) < -(k.succ : Nat) := by omega
  have low : ¬ (-(k.succ : Nat) : Int) < -(400 + digits.log2 : Int) := by omega
  rw [Decimal.rank, if_neg hd, if_neg high, if_neg low]
  rfl

theorem rank_exactDecimal {rank : Nat} (hr : rank < infinityRank) :
    (exactDecimal rank).rank = rank := by
  by_cases zero : unitsOfRank rank = 0
  · obtain ⟨bits, shift, units, sum, size⟩ := unitsOfRank_cases rank
    rw [units, Nat.shiftLeft_eq] at zero
    have none := (Nat.mul_eq_zero.mp zero).resolve_right (Nat.two_pow_pos shift).ne'
    have least : rank = 0 := by
      unfold octave at *
      omega
    rw [least, exactDecimal, Decimal.rank, if_pos (by simp [unitsOfRank, octave])]
  · have log := log2_mul_pow_five zero unitExponent
    have digits : unitsOfRank rank * 5 ^ unitExponent ≠ 0 :=
      Nat.mul_ne_zero zero (by positivity)
    have places : 0 < unitExponent := by decide
    rw [exactDecimal, Nat.pow_eq, rank_of_places digits places (by omega)]
    refine rankOfQuotient_exact (by positivity) hr ?_
    rw [Nat.shiftLeft_eq, Nat.mul_assoc, ← Nat.mul_pow]

theorem rank_of_onGrid {tie : Tie} {rank : Nat} {exponent : Int} {d : Decimal}
    (h : onGrid tie rank exponent = some d) : d.rank = rank := by
  unfold onGrid at h
  simp only at h
  split at h
  · contradiction
  · rename_i below _
    cases h
    exact of_decide_eq_true below
  · rename_i above
    cases h
    exact of_decide_eq_true above
  · rename_i below above
    rw [decide_eq_true_iff] at below above
    split at h
    · cases h
      exact below
    · cases h
      exact above
    · cases h
      exact above
    · split_ifs at h <;> cases h
      · exact below
      · exact above

theorem rank_searchGrids (tie : Tie) {rank : Nat} (hr : rank < infinityRank) (steps : Nat)
    (exponent : Int) : (searchGrids tie rank steps exponent).rank = rank := by
  induction steps generalizing exponent with
  | zero => exact rank_exactDecimal hr
  | succ steps ih =>
    rw [searchGrids]
    split
    · next found => exact rank_of_onGrid found
    · exact ih (exponent - 1)

theorem rank_shortest (tie : Tie) {rank : Nat} (hr : rank < infinityRank) :
    (shortest tie rank).rank = rank := by
  unfold shortest
  split_ifs with zero
  · exact zero.symm
  · exact rank_searchGrids tie hr 20 (coarsestExponent rank)

/-- Digits around a point, or without one, that name a decimal of the rank. -/
structure Spells (text whole fraction : List Char) (rank : Nat) : Prop where
  present : whole ≠ []
  digits : ∀ c ∈ whole ++ fraction, c.isDigit = true
  written : text = whole ++ (if fraction = [] then [] else '.' :: fraction)
  names : Decimal.rank ⟨Nat.ofDigitChars 10 (whole ++ fraction) 0, -fraction.length⟩ = rank

theorem isDigit_of_mem_zeros {n c : Nat} {d : Char}
    (h : d ∈ List.replicate n '0' ++ Nat.toDigits 10 c) : d.isDigit = true := by
  rcases List.mem_append.mp h with h | h
  · rw [List.eq_of_mem_replicate h]
    rfl
  · exact Nat.isDigit_of_mem_toDigits (by omega) (by omega) h

/-- Zeros at the end of a whole number stand for its power of ten. -/
theorem rank_of_zeros {digits e : Nat} (hr : Decimal.rank ⟨digits, e⟩ < infinityRank) :
    Decimal.rank ⟨digits * 10 ^ e, 0⟩ = Decimal.rank ⟨digits, e⟩ := by
  by_cases zero : digits = 0
  · simp [Decimal.rank, zero]
  · have high : ¬ 400 < (e : Int) := by
      intro large
      rw [Decimal.rank, if_neg zero, if_pos large] at hr
      exact lt_irrefl _ hr
    have shifted : digits * 10 ^ e ≠ 0 := Nat.mul_ne_zero zero (by positivity)
    have low : ¬ (e : Int) < -(400 + digits.log2 : Int) := by omega
    have least : ¬ (0 : Int) < -(400 + (digits * 10 ^ e).log2 : Int) := by omega
    have unit : ¬ (400 : Int) < 0 := by omega
    rw [Decimal.rank, if_neg shifted, if_neg unit, if_neg least, Decimal.rank, if_neg zero,
      if_neg high, if_neg low]
    simp

theorem spells_whole {digits e : Nat} (hr : Decimal.rank ⟨digits, e⟩ < infinityRank) :
    Spells (Decimal.positional false ⟨digits, .ofNat e⟩)
      (Nat.toDigits 10 digits ++ List.replicate e '0') [] (Decimal.rank ⟨digits, e⟩) where
  present := by simp [Nat.toDigits_ne_nil]
  digits := by
    intro c hc
    rw [List.append_nil] at hc
    rcases List.mem_append.mp hc with hc | hc
    · exact Nat.isDigit_of_mem_toDigits (by omega) (by omega) hc
    · exact isDigit_of_mem_zeros (c := 0) (List.mem_append_left _ hc)
  written := by simp [Decimal.positional]
  names := by
    rw [List.append_nil, Nat.ofDigitChars_append, Nat.ofDigitChars_ten_toDigits,
      Nat.ofDigitChars_replicate_zero, Nat.mul_comm]
    exact rank_of_zeros hr

theorem divNearest_mul_mul (num den : Nat) {k : Nat} (hk : 0 < k) :
    divNearest (num * k) (den * k) = divNearest num den := by
  have same : compare (2 * (num % den * k)) (den * k) = compare (2 * (num % den)) den := by
    rw [← Nat.mul_assoc]
    simp only [Nat.compare_eq_ite_lt, Nat.mul_lt_mul_right hk]
  simp only [divNearest, Nat.mul_div_mul_right _ _ hk, Nat.mul_mod_mul_right, same]

/-- A quotient is rounded by its value alone. -/
theorem rankOfQuotient_mul_mul (num den : Nat) {k : Nat} (hk : 0 < k) :
    rankOfQuotient (num * k) (den * k) = rankOfQuotient num den := by
  have shifted (n shift : Nat) : (n * k) <<< shift = (n <<< shift) * k := by
    rw [Nat.shiftLeft_eq, Nat.shiftLeft_eq, Nat.mul_right_comm]
  simp only [rankOfQuotient, shifted, Nat.mul_div_mul_right _ _ hk, divNearest_mul_mul _ _ hk]

theorem rank_of_tenths (n : Nat) : Decimal.rank ⟨n * 10, -1⟩ = Decimal.rank ⟨n, 0⟩ := by
  by_cases zero : n = 0
  · simp [Decimal.rank, zero]
  · have tenths : n * 10 ≠ 0 := Nat.mul_ne_zero zero (by decide)
    have low : ¬ (0 : Int) < -(400 + n.log2 : Int) := by omega
    have high : ¬ (400 : Int) < 0 := by omega
    have places := rank_of_places tenths Nat.one_pos (by omega)
    rw [Nat.cast_one] at places
    rw [places, Decimal.rank, if_neg zero, if_neg high, if_neg low]
    simpa using rankOfQuotient_mul_mul n 1 (k := 10) (by decide)

theorem spells_point {digits e : Nat} (hr : Decimal.rank ⟨digits, e⟩ < infinityRank) :
    Spells (Decimal.positional true ⟨digits, .ofNat e⟩)
      (Nat.toDigits 10 digits ++ List.replicate e '0') ['0'] (Decimal.rank ⟨digits, e⟩) where
  present := by simp [Nat.toDigits_ne_nil]
  digits := by
    intro c hc
    simp only [List.mem_append, List.mem_singleton] at hc
    rcases hc with (hc | hc) | rfl
    · exact Nat.isDigit_of_mem_toDigits (by omega) (by omega) hc
    · exact isDigit_of_mem_zeros (c := 0) (List.mem_append_left _ hc)
    · rfl
  written := by simp [Decimal.positional]
  names := by
    have tenfold (n : Nat) : Nat.ofDigitChars 10 ['0'] n = n * 10 := by
      simp [Nat.ofDigitChars, Nat.mul_comm]
    rw [Nat.ofDigitChars_append, Nat.ofDigitChars_append, Nat.ofDigitChars_ten_toDigits,
      Nat.ofDigitChars_replicate_zero, tenfold, ← rank_of_zeros hr]
    simpa [Nat.mul_comm] using rank_of_tenths (digits * 10 ^ e)

theorem spells_inside {pointZero : Bool} {digits e : Nat}
    (he : e + 1 < (Nat.toDigits 10 digits).length) :
    Spells (Decimal.positional pointZero ⟨digits, .negSucc e⟩)
      ((Nat.toDigits 10 digits).take ((Nat.toDigits 10 digits).length - (e + 1)))
      ((Nat.toDigits 10 digits).drop ((Nat.toDigits 10 digits).length - (e + 1)))
      (Decimal.rank ⟨digits, .negSucc e⟩) where
  present := by
    have := Nat.toDigits_ne_nil (n := digits) (b := 10)
    simp only [ne_eq, List.take_eq_nil_iff, not_or]
    exact ⟨by omega, this⟩
  digits := by
    intro c hc
    rw [List.take_append_drop] at hc
    exact Nat.isDigit_of_mem_toDigits (by omega) (by omega) hc
  written := by
    have some :
        ¬ (Nat.toDigits 10 digits).drop ((Nat.toDigits 10 digits).length - (e + 1)) = [] := by
      rw [List.drop_eq_nil_iff]
      omega
    rw [if_neg some]
    exact if_pos he
  names := by
    rw [List.take_append_drop, Nat.ofDigitChars_ten_toDigits, List.length_drop]
    congr 2
    omega

theorem spells_below {pointZero : Bool} {digits e : Nat}
    (he : ¬ e + 1 < (Nat.toDigits 10 digits).length) :
    Spells (Decimal.positional pointZero ⟨digits, .negSucc e⟩) ['0']
      (List.replicate (e + 1 - (Nat.toDigits 10 digits).length) '0' ++ Nat.toDigits 10 digits)
      (Decimal.rank ⟨digits, .negSucc e⟩) where
  present := by simp
  digits := by
    intro c hc
    rcases List.mem_cons.mp hc with rfl | hc
    · rfl
    · exact isDigit_of_mem_zeros hc
  written := by
    rw [if_neg (by simp [Nat.toDigits_ne_nil])]
    exact if_neg he
  names := by
    have zero : Nat.ofDigitChars 10 ['0'] 0 = 0 := rfl
    rw [Nat.ofDigitChars_append, zero, Nat.ofDigitChars_append, Nat.ofDigitChars_replicate_zero,
      Nat.mul_zero, Nat.ofDigitChars_ten_toDigits, List.length_append, List.length_replicate]
    congr 2
    omega

theorem positional_spells (pointZero : Bool) {d : Decimal} (hd : d.rank < infinityRank) :
    ∃ whole fraction, Spells (d.positional pointZero) whole fraction d.rank := by
  obtain ⟨digits, exponent⟩ := d
  cases exponent with
  | ofNat e =>
    cases pointZero with
    | true => exact ⟨_, _, spells_point hd⟩
    | false => exact ⟨_, _, spells_whole hd⟩
  | negSucc e =>
    by_cases he : e + 1 < (Nat.toDigits 10 digits).length
    · exact ⟨_, _, spells_inside he⟩
    · exact ⟨_, _, spells_below he⟩

inductive UnsignedText : List Char → Nat → Prop
  | parts {mantissa power whole fraction : List Char} {exponent : Int}
      (digits : MantissaText mantissa whole fraction) (scaled : ExponentText power exponent) :
      UnsignedText (mantissa ++ power)
        (Decimal.rank ⟨Nat.ofDigitChars 10 (whole ++ fraction) 0, exponent - fraction.length⟩)

theorem unsignedText_of_spells {text whole fraction : List Char} {rank : Nat}
    (h : Spells text whole fraction rank) : UnsignedText text rank := by
  have front : Digits whole := fun c hc => h.digits c (by simp [hc])
  have places : Digits fraction := fun c hc => h.digits c (by simp [hc])
  have mantissa : MantissaText text whole fraction := by
    rw [h.written]
    split_ifs with none
    · rw [none, List.append_nil]
      exact .whole h.present front
    · exact .point h.present front places
  have parts := UnsignedText.parts mantissa .absent
  rwa [List.append_nil, zero_sub, h.names] at parts

theorem exponentText_signed (exponent : Int) :
    ExponentText ('e' :: (if exponent < 0 then '-' else '+') :: Nat.toDigits 10 exponent.natAbs)
      exponent := by
  have some : Nat.toDigits 10 exponent.natAbs ≠ [] := Nat.toDigits_ne_nil
  have size : Digits (Nat.toDigits 10 exponent.natAbs) :=
    fun c hc => Nat.isDigit_of_mem_toDigits (by omega) (by omega) hc
  have value := Nat.ofDigitChars_ten_toDigits (n := exponent.natAbs)
  split_ifs with negative
  · have text := ExponentText.present (.inl rfl) .minus some size
    rwa [value, if_pos rfl, Int.ofNat_natAbs_of_nonpos negative.le, neg_neg] at text
  · have text := ExponentText.present (.inl rfl) .plus some size
    rwa [value, if_neg Bool.false_ne_true, Int.natAbs_of_nonneg (not_lt.mp negative)] at text

theorem unsignedText_scientific (d : Decimal) : UnsignedText d.scientific d.rank := by
  obtain ⟨digits, exponent⟩ := d
  have listed : Digits (Nat.toDigits 10 digits) :=
    fun c hc => Nat.isDigit_of_mem_toDigits (by omega) (by omega) hc
  obtain ⟨first, rest, split⟩ :=
    List.exists_cons_of_ne_nil (Nat.toDigits_ne_nil (n := digits) (b := 10))
  have value : Nat.ofDigitChars 10 ([first] ++ rest) 0 = digits := by
    rw [List.singleton_append, ← split, Nat.ofDigitChars_ten_toDigits]
  have front : Digits [first] := fun c hc => listed c (by simp_all)
  have places : Digits rest := fun c hc => listed c (by simp [split, hc])
  have mantissa : MantissaText ([first] ++ if rest = [] then [] else '.' :: rest) [first] rest := by
    split_ifs with none
    · rw [none, List.append_nil]
      exact .whole (List.cons_ne_nil _ _) front
    · exact .point (List.cons_ne_nil _ _) front places
  have parts :=
    UnsignedText.parts mantissa (exponentText_signed (Decimal.leading ⟨digits, exponent⟩))
  have shift : Decimal.leading ⟨digits, exponent⟩ - rest.length = exponent := by
    simp only [Decimal.leading, split, List.length_cons]
    omega
  rw [value, shift] at parts
  have written : Decimal.scientific ⟨digits, exponent⟩ =
      ([first] ++ if rest = [] then [] else '.' :: rest) ++ 'e' ::
        (if Decimal.leading ⟨digits, exponent⟩ < 0 then '-' else '+') ::
          Nat.toDigits 10 (Decimal.leading ⟨digits, exponent⟩).natAbs := by
    simp [Decimal.scientific, split]
  rwa [written]

theorem unsignedText_writeDecimal (form : Form) {d : Decimal} (hd : d.rank < infinityRank) :
    UnsignedText (form.writeDecimal d) d.rank := by
  obtain ⟨_, _, spells⟩ := positional_spells form.pointZero hd
  have positional := unsignedText_of_spells spells
  rw [Form.writeDecimal]
  split
  · exact positional
  · split_ifs
    · exact positional
    · exact unsignedText_scientific d

theorem numeralText_write (form : Form) {x : Float} (hn : x.isNaN = false)
    (hi : rankOf x ≠ infinityRank) :
    ∃ numeral, NumeralText (form.write x) numeral ∧ numeral.toFloat = x := by
  have finite := rankOf_lt hn hi
  have rank := rank_shortest form.tie finite
  have unsigned :=
    unsignedText_writeDecimal form (d := shortest form.tie (rankOf x)) (by rwa [rank])
  have signed : SignText (if isNegative x then ['-'] else []) (isNegative x) := by
    cases isNegative x with
    | true => exact .minus
    | false => exact .absent
  rw [Form.write, hn, if_neg Bool.false_ne_true, if_neg hi]
  rw [rank] at unsigned
  generalize form.writeDecimal (shortest form.tie (rankOf x)) = text at unsigned
  generalize named : rankOf x = r at unsigned
  cases unsigned with
  | parts digits scaled =>
    refine ⟨_, .parts signed digits scaled, ?_⟩
    rw [Numeral.toFloat, Decimal.toFloat, Numeral.decimal, ← named, ofRank_rankOf]

end SolidStudy.Number
