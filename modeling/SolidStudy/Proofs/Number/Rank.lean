import Mathlib
import SolidStudy.Number.Nearest

/-! Doubles and their ranks. A double is its sign and its rank, all NaN being one double; a finite
rank is recovered from every quotient that has exactly its value. -/
namespace SolidStudy.Number

open Float.Model Float.Model.UnpackedFloat

/-- The sign bit and the other bits make up the pattern again. -/
theorem ofRank_rankOf (x : Float) : ofRank (isNegative x) (rankOf x) = x := by
  have hlt := x.toBits.toNat_lt
  have bits : (if isNegative x then signBit else 0) + rankOf x = x.toBits.toNat := by
    unfold isNegative rankOf signBit
    split_ifs with sign <;> simp only [decide_eq_true_eq] at sign <;> omega
  rw [ofRank, bits, UInt64.ofNat_toNat, Float.ofBits_toBits]

theorem nan_eq_notANumber : Float.nan = notANumber := by decide

theorem eq_notANumber {x : Float} (h : x.isNaN = true) : x = notANumber := by
  rw [Float.isNaN_eq_decide_eq_nan, decide_eq_true_eq, nan_eq_notANumber] at h
  exact h

theorem toNat_unpackMantissa (b : BitVec Format.binary64.numBits) :
    (unpackMantissa b).toNat = b.toNat % octave := by
  simp only [unpackMantissa, BitVec.toNat_cast, BitVec.extractLsb_toNat]
  rfl

theorem toNat_unpackExponent (b : BitVec Format.binary64.numBits) :
    (unpackExponent b).toNat = b.toNat / octave % 2048 := by
  simp only [unpackExponent, BitVec.toNat_cast, BitVec.extractLsb_toNat,
    Nat.shiftRight_eq_div_pow]
  rfl

/-- Beyond the rank of infinity there are only NaN patterns, and a double keeps but one of them. -/
theorem rankOf_le {x : Float} (h : x.isNaN = false) : rankOf x ≤ infinityRank := by
  by_contra above
  simp only [rankOf, signBit, infinityRank] at above
  have exponent : @unpackExponent Format.binary64 x.toBits.toBitVec = -1#11 := by
    apply BitVec.eq_of_toNat_eq
    rw [toNat_unpackExponent, UInt64.toNat_toBitVec, octave]
    change _ = 2047
    omega
  have mantissa : @unpackMantissa Format.binary64 x.toBits.toBitVec ≠ 0#52 := by
    intro zero
    have none := congrArg BitVec.toNat zero
    rw [toNat_unpackMantissa, UInt64.toNat_toBitVec, octave] at none
    change _ = 0 at none
    omega
  have pattern := x.toModel.valid.eq_packedNaN exponent mantissa
  have isNaN : x.isNaN = true := (isNaN_unpack_iff_of_valid x.toModel.valid).mpr pattern
  rw [h] at isNaN
  exact absurd isNaN Bool.false_ne_true

theorem rankOf_lt {x : Float} (h : x.isNaN = false) (hx : rankOf x ≠ infinityRank) :
    rankOf x < infinityRank := lt_of_le_of_ne (rankOf_le h) hx

theorem divNearest_mul (q : Nat) {den : Nat} (hd : 0 < den) : divNearest (q * den) den = q := by
  have least : compare (2 * (q * den % den)) den = .lt := by
    rw [Nat.mul_mod_left, Nat.mul_zero]
    exact Nat.compare_eq_lt.mpr hd
  simp only [divNearest, least]
  exact Nat.mul_div_cancel q hd

/-- The leading bits of a finite rank and how far they are shifted up. -/
theorem unitsOfRank_cases (rank : Nat) :
    ∃ bits shift, unitsOfRank rank = bits <<< shift ∧ shift * octave + bits = rank ∧
      (shift = 0 ∧ bits < octave ∨ octave ≤ bits ∧ bits < 2 * octave) := by
  by_cases small : rank < octave
  · exact ⟨rank, 0, by simp [unitsOfRank, small], by simp, Or.inl ⟨rfl, small⟩⟩
  · refine ⟨octave + rank % octave, rank / octave - 1, by simp [unitsOfRank, small], ?_, Or.inr ?_⟩
    · unfold octave at *
      omega
    · unfold octave
      omega

theorem log2_bits {bits shift : Nat} (hb : octave ≤ bits ∧ bits < 2 * octave) :
    (bits <<< shift).log2 - 52 = shift := by
  unfold octave at hb
  have hpow : 0 < 2 ^ shift := Nat.two_pow_pos shift
  have log : (bits <<< shift).log2 = 52 + shift := by
    rw [Nat.shiftLeft_eq, Nat.log2_eq_iff (Nat.mul_ne_zero (by omega) hpow.ne')]
    constructor
    · rw [Nat.pow_add]
      exact Nat.mul_le_mul_right _ (by omega)
    · rw [show 52 + shift + 1 = 53 + shift by omega, Nat.pow_add]
      exact Nat.mul_lt_mul_of_pos_right (by omega) hpow
  omega

/-- A quotient of exactly the value of a rank is rounded to that rank. -/
theorem rankOfQuotient_exact {num den rank : Nat} (hd : 0 < den) (hr : rank < infinityRank)
    (value : num <<< unitExponent = unitsOfRank rank * den) : rankOfQuotient num den = rank := by
  obtain ⟨bits, shift, units, sum, size⟩ := unitsOfRank_cases rank
  have whole : unitsOfRank rank * den / den = unitsOfRank rank := Nat.mul_div_cancel _ hd
  have dropped : (unitsOfRank rank).log2 - 52 = shift := by
    rw [units]
    rcases size with ⟨rfl, low⟩ | high
    · rcases Nat.eq_zero_or_pos bits with rfl | pos
      · rfl
      · have := (Nat.log2_lt (k := 52) pos.ne').mpr (by unfold octave at low; omega)
        rw [Nat.shiftLeft_zero]
        omega
    · exact log2_bits high
  have rounded : divNearest (unitsOfRank rank * den) (den <<< shift) = bits := by
    have regroup : unitsOfRank rank * den = bits * (den <<< shift) := by
      rw [units, Nat.shiftLeft_eq, Nat.shiftLeft_eq]
      ring
    rw [regroup]
    exact divNearest_mul bits (by rw [Nat.shiftLeft_eq]; positivity)
  simp only [rankOfQuotient, value, whole, dropped, rounded, sum]
  exact min_eq_left hr.le

end SolidStudy.Number
