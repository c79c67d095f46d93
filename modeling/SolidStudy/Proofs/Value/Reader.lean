import SolidStudy.Value.Reader

/-! Rules of reading that do not mention sizes. Whatever is read takes characters from the text, so
the length of a text is size enough for it, and a larger size changes nothing. -/
namespace SolidStudy

namespace Value

theorem length_of_readEscaped {s chars rest : List Char}
    (h : readEscaped s = some (chars, rest)) : rest.length < s.length := by
  fun_induction readEscaped s generalizing chars rest with
  | case1 => simp at h
  | case2 => simp_all
  | case3 => simp at h
  | case4 letter tail ih =>
    simp only [Option.bind_eq_bind, Option.bind_eq_some_iff] at h
    obtain ⟨c, -, ⟨s, left⟩, found, h⟩ := h
    have := ih found
    simp_all
    omega
  | case5 c tail _ _ _ ih =>
    simp only [Option.bind_eq_bind, Option.bind_eq_some_iff] at h
    obtain ⟨⟨s, left⟩, found, h⟩ := h
    have := ih found
    simp_all
    omega

theorem length_of_readNumber {s rest : List Char} {v : Value}
    (h : readNumber s = .found v rest) : rest.length < s.length := by
  unfold readNumber at h
  split at h
  · grind
  · grind
  · grind
  · split at h
    · rename_i found
      have := Number.length_of_scan found
      grind
    · simp at h
    · split at h
      · rename_i found
        have := Number.length_of_dropWord? found
        grind
      · rename_i found
        have := Number.length_of_dropWord? found
        grind
      · simp at h

variable {α : Type} {read read' : List Char → Reading α}

/-- Whatever is read takes at least one character. -/
def Shortens (read : List Char → Reading α) : Prop :=
  ∀ s a rest, read s = .found a rest → rest.length < s.length

theorem length_of_readFurther (shortens : Shortens read) {bound : Nat} {s rest : List Char}
    {items : List α} (h : readFurther read bound s = .found items rest) :
    rest.length ≤ s.length := by
  fun_induction readFurther read bound s generalizing items rest with
  | case1 => simp_all
  | case2 bound s tail comma item left found ih =>
    cases further : readFurther read bound left with
    | found =>
      simp only [further, Reading.prepend, Reading.found.injEq] at h ih
      have := shortens _ _ _ found
      have := ih ⟨rfl, h.2⟩
      have := Text.length_skipGaps_le s
      have := Text.length_skipGaps_le tail
      simp_all
      omega
    | absent => simp [further, Reading.prepend] at h
    | broken => simp [further, Reading.prepend] at h
  | case3 => simp_all
  | case4 => simp at h
  | case5 => simp_all

theorem length_of_readItems (shortens : Shortens read) {bound : Nat} {s rest : List Char}
    {items : List α} (h : readItems read bound s = .found items rest) :
    rest.length ≤ s.length := by
  unfold readItems at h
  split at h
  · rename_i item left found
    cases further : readFurther read bound left with
    | found =>
      simp only [further, Reading.prepend, Reading.found.injEq] at h
      have := shortens _ _ _ found
      have := length_of_readFurther shortens further
      grind
    | absent => simp [further, Reading.prepend] at h
    | broken => simp [further, Reading.prepend] at h
  · simp_all
  · simp at h

theorem readWithin_shortens (size : Nat) : Shortens (readWithin size) := by
  induction size with
  | zero => simp [Shortens, readWithin]
  | succ size ih =>
    intro s v rest h
    unfold readWithin at h
    split at h
    · split at h
      · rename_i found
        have := length_of_readEscaped found
        grind
      · simp at h
    · rename_i tail
      split at h
      · rename_i items left found
        split at h
        · rename_i closing
          have := length_of_readItems ih found
          have := Text.length_skipGaps_le tail
          have := Text.length_skipGaps_le left
          grind
        · simp at h
      · simp at h
      · simp at h
    · exact length_of_readNumber h

theorem readFurther_congr (shortens : Shortens read) {n : Nat}
    (agree : ∀ t, t.length < n → read t = read' t) {bound : Nat} (bound' : Nat)
    {s : List Char}
    (small : s.length ≤ n) (enough : s.length ≤ bound) (enough' : s.length ≤ bound') :
    readFurther read bound s = readFurther read' bound' s := by
  induction bound generalizing s bound' with
  | zero =>
    have : s = [] := List.length_eq_zero_iff.mp (Nat.le_zero.mp enough)
    subst this
    cases bound' <;> simp [readFurther, Text.skipGaps]
  | succ bound ih =>
    have gaps := Text.length_skipGaps_le s
    cases bound' with
    | zero =>
      have : s = [] := List.length_eq_zero_iff.mp (Nat.le_zero.mp enough')
      subst this
      simp [readFurther, Text.skipGaps]
    | succ bound' =>
      simp only [readFurther]
      split
      · rename_i tail comma
        have later := Text.length_skipGaps_le tail
        simp only [comma, List.length_cons] at gaps
        rw [← agree _ (by omega)]
        split
        · rename_i item left found
          have := shortens _ _ _ found
          rw [ih bound' (by omega) (by omega) (by omega)]
        · rfl
        · rfl
      · rfl

theorem readItems_congr (shortens : Shortens read) {n : Nat}
    (agree : ∀ t, t.length < n → read t = read' t) {bound : Nat} (bound' : Nat)
    {s : List Char}
    (small : s.length < n) (enough : s.length ≤ bound) (enough' : s.length ≤ bound') :
    readItems read bound s = readItems read' bound' s := by
  simp only [readItems, ← agree s small]
  split
  · rename_i item left found
    have := shortens _ _ _ found
    rw [readFurther_congr shortens agree bound' (by omega) (by omega) (by omega)]
  · rfl
  · rfl

/-- The size does not matter once it is beyond the length of the text. -/
theorem readWithin_congr {size size' : Nat} {s : List Char} (enough : s.length < size)
    (enough' : s.length < size') : readWithin size s = readWithin size' s := by
  induction size generalizing s size' with
  | zero => simp at enough
  | succ size ih =>
    cases size' with
    | zero => simp at enough'
    | succ size' =>
      simp only [readWithin]
      split
      · rfl
      · rename_i tail
        have := Text.length_skipGaps_le tail
        simp only [List.length_cons] at enough enough'
        have agree (t : List Char) (small : t.length < tail.length + 1) :
            readWithin size t = readWithin size' t := ih (by omega) (by omega)
        rw [readItems_congr (readWithin_shortens size) agree size' (by omega)
          (by omega) (by omega)]
      · rfl

theorem readWithin_eq_readFront {size : Nat} {s : List Char} (enough : s.length < size) :
    readWithin size s = readFront s :=
  readWithin_congr enough (Nat.lt_succ_self _)

theorem readFront_vector (s : List Char) :
    readFront ('[' :: s) =
      match readItems readFront s.length (Text.skipGaps s) with
      | .found items rest =>
        match Text.skipGaps rest with
        | ']' :: rest => .found (.vector items) rest
        | _ => .absent
      | .absent => .absent
      | .broken trail => .broken (trail ++ [⟨.vector, '[' :: s⟩, ⟨.value, '[' :: s⟩]) := by
  have := Text.length_skipGaps_le s
  have agree (t : List Char) (small : t.length < s.length + 1) :
      readWithin (s.length + 1) t = readFront t := readWithin_eq_readFront small
  have enough : (Text.skipGaps s).length ≤ s.length + 1 := by omega
  rw [← readItems_congr (readWithin_shortens _) agree s.length (by omega) enough this]
  rfl

end Value

theorem Statement.read_eq (s : List Char) :
    Statement.read s =
      match Value.readItems Value.readFront s.length (Text.skipGaps s) with
      | .found items rest =>
        match Text.skipGaps rest with
        | [] => .ok items
        | left => .error ⟨false, [⟨.endOfText, left⟩, ⟨.statement, s⟩]⟩
      | .absent => .error ⟨false, [⟨.endOfText, Text.skipGaps s⟩, ⟨.statement, s⟩]⟩
      | .broken trail => .error ⟨true, trail ++ [⟨.statement, s⟩]⟩ := by
  have := Text.length_skipGaps_le s
  have agree (t : List Char) (small : t.length < s.length + 1) :
      Value.readWithin (s.length + 1) t = Value.readFront t := Value.readWithin_eq_readFront small
  rw [← Value.readItems_congr (Value.readWithin_shortens _) agree s.length (by omega) this this]
  rfl

end SolidStudy
