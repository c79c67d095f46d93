import SolidStudy.Json.Reader
import SolidStudy.Proofs.Fallible

/-! Rules of passing over values that do not mention sizes. Whatever is passed over takes characters
from the text, so the length of a text is size enough for it, and a larger size changes nothing. -/
namespace SolidStudy.Json

theorem length_of_readCode {s rest : List Char} {code : Nat} (h : readCode s = .ok (code, rest)) :
    rest.length < s.length := by
  unfold readCode at h
  split at h
  · split at h <;> grind
  · split at h <;> simp at h

theorem length_of_readTrailing {s rest : List Char} {code : Nat}
    (h : readTrailing s = .ok (code, rest)) : rest.length < s.length := by
  unfold readTrailing at h
  split at h
  · simp at h
  · simp at h
  · obtain ⟨⟨code, left⟩, found, h⟩ := bind_eq_ok.mp h
    have := length_of_readCode found
    grind
  · simp at h

theorem length_of_readCoded {s rest : List Char} {c : Char} (h : readCoded s = .ok (c, rest)) :
    rest.length < s.length := by
  obtain ⟨⟨code, left⟩, found, h⟩ := bind_eq_ok.mp h
  have := length_of_readCode found
  dsimp only at h
  split at h
  · simp at h
  · split at h
    · obtain ⟨⟨second, left⟩, paired, h⟩ := bind_eq_ok.mp h
      have := length_of_readTrailing paired
      simp only [pure, Except.pure, Except.ok.injEq, Prod.mk.injEq] at h
      grind
    · simp only [pure, Except.pure, Except.ok.injEq, Prod.mk.injEq] at h
      grind

theorem length_of_readElement {s rest : List Char} {c : Option Char}
    (h : readElement s = .ok (c, rest)) : rest.length < s.length := by
  unfold readElement at h
  split at h
  · simp at h
  · simp at h
  · grind
  · obtain ⟨⟨c, left⟩, found, h⟩ := bind_eq_ok.mp h
    have := length_of_readCoded found
    simp only [pure, Except.pure, Except.ok.injEq, Prod.mk.injEq] at h
    grind
  · split at h <;> grind
  · grind

theorem length_of_skipElement {s rest : List Char} {c : Option Unit}
    (h : skipElement s = .ok (c, rest)) : rest.length < s.length := by
  unfold skipElement at h
  split at h
  · obtain ⟨⟨c, left⟩, found, h⟩ := bind_eq_ok.mp h
    have := length_of_readCode found
    simp only [pure, Except.pure, Except.ok.injEq, Prod.mk.injEq] at h
    grind
  · obtain ⟨⟨c, left⟩, found, h⟩ := bind_eq_ok.mp h
    have := length_of_readElement found
    simp only [pure, Except.pure, Except.ok.injEq, Prod.mk.injEq] at h
    grind

theorem length_of_skipElements {bound : Nat} {s rest : List Char}
    (h : skipElements bound s = .ok rest) : rest.length < s.length := by
  induction bound generalizing s with
  | zero => simp [skipElements] at h
  | succ bound ih =>
    obtain ⟨⟨c, left⟩, found, h⟩ := bind_eq_ok.mp h
    have := length_of_skipElement found
    cases c with
    | none => simp_all [pure, Except.pure]
    | some =>
      have := ih h
      omega

theorem length_of_readLetters {letters s rest : List Char} (h : readLetters letters s = .ok rest) :
    rest.length ≤ s.length := by
  fun_induction readLetters letters s with
  | case1 => simp_all
  | case2 => simp at h
  | case3 letters c tail ih => grind
  | case4 => simp at h

theorem length_of_skipDigits {s rest : List Char} (h : skipDigits s = .ok rest) :
    rest.length < s.length := by
  have all := Number.length_spanDigits s
  unfold skipDigits at h
  split at h
  · simp at h
  · rename_i present span
    have := List.length_pos_iff.mpr present
    simp only [span] at all
    simp only [Except.ok.injEq] at h
    subst h
    omega

theorem length_of_skipExponent {s rest : List Char} (h : skipExponent s = .ok rest) :
    rest.length < s.length := by
  unfold skipExponent at h
  split at h
  · exact Nat.lt_succ_of_lt (length_of_skipDigits h)
  · exact Nat.lt_succ_of_lt (length_of_skipDigits h)
  · exact length_of_skipDigits h

theorem length_of_skipScale {s rest : List Char} (h : skipScale s = .ok rest) :
    rest.length ≤ s.length := by
  unfold skipScale at h
  split at h
  · exact Nat.le_succ_of_le (Nat.le_of_lt (length_of_skipExponent h))
  · exact Nat.le_succ_of_le (Nat.le_of_lt (length_of_skipExponent h))
  · grind

theorem length_of_skipAfterWhole {s rest : List Char} (h : skipAfterWhole s = .ok rest) :
    rest.length ≤ s.length := by
  unfold skipAfterWhole at h
  split at h
  · obtain ⟨left, found, h⟩ := bind_eq_ok.mp h
    have := length_of_skipDigits found
    have := length_of_skipScale h
    grind
  · exact length_of_skipScale h

theorem length_of_skipNumeral {s rest : List Char} (h : skipNumeral s = .ok rest) :
    rest.length < s.length := by
  unfold skipNumeral at h
  split at h
  · split at h
    · simp at h
    · have := length_of_skipAfterWhole h
      grind
  · obtain ⟨left, found, h⟩ := bind_eq_ok.mp h
    have := length_of_skipDigits found
    have := length_of_skipAfterWhole h
    omega

variable {skip skip' : List Char → Except Fault (List Char)}

/-- Whatever is passed over takes at least one character. -/
def Shortens (skip : List Char → Except Fault (List Char)) : Prop :=
  ∀ s rest, skip s = .ok rest → rest.length < s.length

theorem length_of_skipItems (shortens : Shortens skip) {bound : Nat} {s rest : List Char}
    (h : skipItems skip bound s = .ok rest) : rest.length < s.length := by
  induction bound generalizing s with
  | zero => simp [skipItems] at h
  | succ bound ih =>
    obtain ⟨left, found, h⟩ := bind_eq_ok.mp h
    have := shortens _ _ found
    have gaps := Text.length_skipGaps_le left
    split at h
    · simp at h
    · rename_i closing
      simp only [closing, List.length_cons] at gaps
      grind
    · rename_i tail comma
      have := ih h
      have := Text.length_skipGaps_le tail
      simp only [comma, List.length_cons] at gaps
      omega
    · simp at h

theorem length_of_skipFields (shortens : Shortens skip) {bound : Nat} {s rest : List Char}
    (h : skipFields skip bound s = .ok rest) : rest.length < s.length := by
  induction bound generalizing s with
  | zero => simp [skipFields] at h
  | succ bound ih =>
    unfold skipFields at h
    split at h
    · simp at h
    · rename_i tail
      obtain ⟨left, name, h⟩ := bind_eq_ok.mp h
      have := length_of_skipElements name
      have gaps := Text.length_skipGaps_le left
      split at h
      · simp at h
      · rename_i tail colon
        have := Text.length_skipGaps_le tail
        obtain ⟨left, found, h⟩ := bind_eq_ok.mp h
        have := shortens _ _ found
        have after := Text.length_skipGaps_le left
        simp only [colon, List.length_cons] at gaps ⊢
        split at h
        · simp at h
        · rename_i closing
          simp only [closing, List.length_cons] at after
          grind
        · rename_i tail comma
          have := ih h
          have := Text.length_skipGaps_le tail
          simp only [comma, List.length_cons] at after
          omega
        · simp at h
      · simp at h
    · simp at h

theorem skipWithin_shortens (size : Nat) : Shortens (skipWithin size) := by
  induction size with
  | zero => simp [Shortens, skipWithin]
  | succ size ih =>
    intro s rest h
    unfold skipWithin at h
    split at h
    · simp at h
    · have := length_of_skipElements h
      grind
    · have := length_of_skipNumeral h
      grind
    · rename_i tail
      have gaps := Text.length_skipGaps_le tail
      split at h
      · simp at h
      · rename_i closing
        simp only [closing, List.length_cons] at gaps
        grind
      · have := length_of_skipItems ih h
        grind
    · rename_i tail
      have gaps := Text.length_skipGaps_le tail
      split at h
      · rename_i closing
        simp only [closing, List.length_cons] at gaps
        grind
      · have := length_of_skipFields ih h
        grind
    · split at h
      · have := length_of_readLetters h
        grind
      · split at h
        · exact length_of_skipNumeral h
        · simp at h

theorem skipItems_congr (shortens : Shortens skip) {n : Nat}
    (agree : ∀ t, t.length < n → skip t = skip' t) {bound : Nat} (bound' : Nat) {s : List Char}
    (small : s.length < n) (enough : s.length < bound) (enough' : s.length < bound') :
    skipItems skip bound s = skipItems skip' bound' s := by
  induction bound generalizing s bound' with
  | zero => simp at enough
  | succ bound ih =>
    cases bound' with
    | zero => simp at enough'
    | succ bound' =>
      simp only [skipItems, ← agree s small]
      cases found : skip s with
      | error => rfl
      | ok left =>
        have := shortens _ _ found
        have gaps := Text.length_skipGaps_le left
        simp only [bind, Except.bind]
        split
        · rfl
        · rfl
        · rename_i tail comma
          have := Text.length_skipGaps_le tail
          simp only [comma, List.length_cons] at gaps
          exact ih bound' (by omega) (by omega) (by omega)
        · rfl

theorem skipFields_congr (shortens : Shortens skip) {n : Nat}
    (agree : ∀ t, t.length < n → skip t = skip' t) {bound : Nat} (bound' : Nat) {s : List Char}
    (small : s.length < n) (enough : s.length < bound) (enough' : s.length < bound') :
    skipFields skip bound s = skipFields skip' bound' s := by
  induction bound generalizing s bound' with
  | zero => simp at enough
  | succ bound ih =>
    cases bound' with
    | zero => simp at enough'
    | succ bound' =>
      simp only [skipFields]
      split
      · rfl
      · rename_i tail
        simp only [List.length_cons] at small enough enough'
        cases name : skipText tail with
        | error => rfl
        | ok left =>
          have := length_of_skipElements name
          have gaps := Text.length_skipGaps_le left
          simp only [bind, Except.bind]
          split
          · rfl
          · rename_i tail colon
            have later := Text.length_skipGaps_le tail
            simp only [colon, List.length_cons] at gaps
            rw [← agree _ (by omega)]
            cases found : skip (Text.skipGaps tail) with
            | error => rfl
            | ok left =>
              have := shortens _ _ found
              have gaps := Text.length_skipGaps_le left
              dsimp only
              split
              · rfl
              · rfl
              · rename_i tail comma
                have := Text.length_skipGaps_le tail
                simp only [comma, List.length_cons] at gaps
                exact ih bound' (by omega) (by omega) (by omega)
              · rfl
          · rfl
      · rfl

/-- The size does not matter once it is beyond the length of the text. -/
theorem skipWithin_congr {size size' : Nat} {s : List Char} (enough : s.length < size)
    (enough' : s.length < size') : skipWithin size s = skipWithin size' s := by
  induction size generalizing s size' with
  | zero => simp at enough
  | succ size ih =>
    cases size' with
    | zero => simp at enough'
    | succ size' =>
      have agree (t : List Char) (small : t.length < min size size') :
          skipWithin size t = skipWithin size' t := ih (by omega) (by omega)
      simp only [skipWithin]
      split
      · rfl
      · rfl
      · rfl
      · rename_i tail
        have := Text.length_skipGaps_le tail
        simp only [List.length_cons] at enough enough'
        split
        · rfl
        · rfl
        · exact skipItems_congr (skipWithin_shortens size) agree size' (by omega) (by omega)
            (by omega)
      · rename_i tail
        have := Text.length_skipGaps_le tail
        simp only [List.length_cons] at enough enough'
        split
        · rfl
        · exact skipFields_congr (skipWithin_shortens size) agree size' (by omega) (by omega)
            (by omega)
      · rfl

theorem skipWithin_eq_skipValue {size : Nat} {s : List Char} (enough : s.length < size) :
    skipWithin size s = skipValue s :=
  skipWithin_congr enough (Nat.lt_succ_self _)

end SolidStudy.Json
