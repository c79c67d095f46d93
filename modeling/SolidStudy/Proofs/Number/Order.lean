import Mathlib
import SolidStudy.Proofs.Number.Rank

/-! The order of doubles. The readable ones, which are those that are numbers, are ordered linearly
but for the sign of zero; a double that is not readable is below and above none. -/
namespace SolidStudy.Number

open Float.Model Float.Model.UnpackedFloat

variable {u v : UnpackedFloat} {x y z : Float}

/-- Where an unpacked double stands: its side of zero, then its exponent, then its mantissa. -/
def place : UnpackedFloat → ℤ ×ₗ ℤ ×ₗ ℤ
  | .infinity .negative => toLex (-2, toLex (0, 0))
  | .finite .negative mantissa exponent _ => toLex (-1, toLex (-exponent, -mantissa))
  | .zero _ | .notANumber => toLex (0, toLex (0, 0))
  | .finite .positive mantissa exponent _ => toLex (1, toLex (exponent, mantissa))
  | .infinity .positive => toLex (2, toLex (0, 0))

theorem compare_eq_lt_iff (hu : u.isNaN = false) (hv : v.isNaN = false) :
    u.compare v = some .lt ↔ place u < place v := by
  have sides : compare Sign.negative Sign.positive = .lt := rfl
  rcases u with (_ | _) | _ | _ | ⟨_ | _, _, _, _⟩ <;>
    rcases v with (_ | _) | _ | _ | ⟨_ | _, _, _, _⟩ <;>
    simp_all [UnpackedFloat.compare, UnpackedFloat.isNaN, place, Prod.Lex.lt_iff,
      Ordering.then_eq_lt, Ordering.swap_then, Int.compare_eq_lt, Int.compare_eq_gt,
      Nat.compare_eq_lt, Nat.compare_eq_gt]

theorem compare_eq_eq_iff (hu : u.isNaN = false) (hv : v.isNaN = false) :
    u.compare v = some .eq ↔ place u = place v := by
  have side (s : Sign) : compare s s = .eq := by cases s <;> rfl
  rcases u with (_ | _) | _ | _ | ⟨_ | _, _, _, _⟩ <;>
    rcases v with (_ | _) | _ | _ | ⟨_ | _, _, _, _⟩ <;>
    simp_all [UnpackedFloat.compare, UnpackedFloat.isNaN, place, Ordering.then_eq_eq]

theorem notANumber_compare (u : UnpackedFloat) : UnpackedFloat.notANumber.compare u = none := rfl

theorem compare_notANumber (u : UnpackedFloat) : u.compare .notANumber = none := by
  cases u <;> rfl

theorem lt_iff_compare : x < y ↔ x.toModel.unpack.compare y.toModel.unpack = some .lt := by
  have spelled : (x < y) = (x.lt y = true) := rfl
  rw [spelled, Float.lt, decide_eq_true_iff]
  change (UnpackedFloat.lt _ _ = true) ↔ _
  rw [UnpackedFloat.lt, beq_iff_eq]

theorem le_iff_compare : x ≤ y ↔ x.toModel.unpack.compare y.toModel.unpack = some .lt ∨
    x.toModel.unpack.compare y.toModel.unpack = some .eq := by
  have spelled : (x ≤ y) = (x.le y = true) := rfl
  rw [spelled, Float.le, decide_eq_true_iff]
  change (x.toModel.unpack.compare y.toModel.unpack).any (·.isLE) = true ↔ _
  rcases x.toModel.unpack.compare y.toModel.unpack with _ | (_ | _ | _) <;> simp

theorem beq_iff_compare :
    (x == y) = true ↔ x.toModel.unpack.compare y.toModel.unpack = some .eq := by
  have spelled : (x == y) = (x.toModel.unpack.compare y.toModel.unpack == some .eq) := rfl
  rw [spelled, beq_iff_eq]

theorem readable_of_compare (h : x.toModel.unpack.compare y.toModel.unpack ≠ none) :
    x.isNaN = false ∧ y.isNaN = false := by
  have unread {w : Float} (nan : ¬ w.isNaN = false) : w.toModel.unpack = .notANumber :=
    isNaN_iff.mp (Bool.of_not_eq_false nan)
  constructor
  · by_contra nan
    exact h (by rw [unread nan, notANumber_compare])
  · by_contra nan
    exact h (by rw [unread nan, compare_notANumber])

theorem readable_of_le (h : x ≤ y) : x.isNaN = false ∧ y.isNaN = false := by
  refine readable_of_compare ?_
  rcases le_iff_compare.mp h with compared | compared <;> simp [compared]

/-- Where a double stands among the readable ones. -/
def level (x : Float) : ℤ ×ₗ ℤ ×ₗ ℤ := place x.toModel.unpack

theorem lt_iff_level (hx : x.isNaN = false) (hy : y.isNaN = false) : x < y ↔ level x < level y :=
  lt_iff_compare.trans (compare_eq_lt_iff hx hy)

theorem le_iff_level (hx : x.isNaN = false) (hy : y.isNaN = false) : x ≤ y ↔ level x ≤ level y := by
  rw [le_iff_compare, compare_eq_lt_iff hx hy, compare_eq_eq_iff hx hy, le_iff_lt_or_eq]
  rfl

theorem beq_iff_level (hx : x.isNaN = false) (hy : y.isNaN = false) :
    (x == y) = true ↔ level x = level y :=
  beq_iff_compare.trans (compare_eq_eq_iff hx hy)

theorem le_refl (hx : x.isNaN = false) : x ≤ x :=
  (le_iff_level hx hx).mpr le_rfl

theorem le_of_lt (h : x < y) : x ≤ y :=
  le_iff_compare.mpr (.inl (lt_iff_compare.mp h))

theorem le_of_not_lt (hx : x.isNaN = false) (hy : y.isNaN = false) (h : ¬ y < x) : x ≤ y := by
  rw [lt_iff_level hy hx, not_lt] at h
  exact (le_iff_level hx hy).mpr h

theorem le_trans (h : x ≤ y) (h' : y ≤ z) : x ≤ z := by
  obtain ⟨hx, hy⟩ := readable_of_le h
  have hz := (readable_of_le h').2
  rw [le_iff_level hx hy] at h
  rw [le_iff_level hy hz] at h'
  exact (le_iff_level hx hz).mpr (h.trans h')

theorem lt_of_lt_of_le (h : x < y) (h' : y ≤ z) : x < z := by
  obtain ⟨hx, hy⟩ := readable_of_le (le_of_lt h)
  have hz := (readable_of_le h').2
  rw [lt_iff_level hx hy] at h
  rw [le_iff_level hy hz] at h'
  exact (lt_iff_level hx hz).mpr (h.trans_le h')

/-- Doubles on both sides of each other differ in the sign of zero at most. -/
theorem beq_of_le (h : x ≤ y) (h' : y ≤ x) : (x == y) = true := by
  obtain ⟨hx, hy⟩ := readable_of_le h
  rw [le_iff_level hx hy] at h
  rw [le_iff_level hy hx] at h'
  exact (beq_iff_level hx hy).mpr (le_antisymm h h')

end SolidStudy.Number
