import Mathlib
import SolidStudy.Proofs.Value.Grammar

/-! Texts of the grammar are read. Every choice of the reader is the right one in front of a text at
which a value may end, so nothing that it takes for a value keeps a statement from being read. -/
namespace SolidStudy

/-- A text in front of which a value may end: it is empty, or begins with a gap, a comma or a
closing bracket. -/
def Separated (r : List Char) : Prop :=
  ∀ c ∈ r.head?, c ∈ [' ', '\t', '\r', '\n', ',', ']']

theorem Separated.endsNumeral {r : List Char} (hr : Separated r) : Number.EndsNumeral r := by
  intro c hc
  have separator := hr c hc
  simp only [List.mem_cons, List.not_mem_nil, or_false] at separator
  rcases separator with rfl | rfl | rfl | rfl | rfl | rfl <;> decide

/-- A text at which a list of values ends. -/
def Closes (r : List Char) : Prop :=
  ∀ c ∈ r.head?, c = ']'

namespace Value

variable {front r chars word : List Char} {x : Float} {v : Value} {items : List Value}

theorem skipGaps_append {before : List Char} (gaps : Gaps before) (s : List Char) :
    Text.skipGaps (before ++ s) = Text.skipGaps s :=
  List.dropWhile_append_of_pos fun c hc => isGap_iff.mpr (gaps c hc)

theorem skipGaps_of_closes (hr : Closes r) : Text.skipGaps r = r := by
  cases r with
  | nil => rfl
  | cons c r => rw [hr c rfl]; rfl

theorem separated_of_closes (hr : Closes (Text.skipGaps r)) : Separated r := by
  cases r with
  | nil => simp [Separated]
  | cons c r =>
    rintro d ⟨⟩
    by_cases gap : Text.isGap c = true
    · exact List.mem_append_left [',', ']'] (isGap_iff.mp gap)
    · rw [Text.skipGaps, List.dropWhile_cons_of_neg gap] at hr
      simp [hr c rfl]

theorem readEscaped_append (h : BodyText front chars) :
    readEscaped (front ++ '"' :: r) = some (chars, r) := by
  induction h with
  | nil => rfl
  | plain quote slash _ ih =>
    rw [List.cons_append, readEscaped, ih]
    · rfl
    · exact quote
    · exact fun same _ => slash same
    · exact fun _ _ same _ => slash same
  | escape listed _ ih =>
    rw [List.cons_append, List.cons_append, readEscaped, escaped_eq_some_iff.mpr listed, ih]
    rfl

/-- Where a numeral is found none of the words is. -/
theorem readNumber_of_scan {s rest : List Char} {numeral : Number.Numeral}
    (h : Number.scan s = .found numeral rest) :
    readNumber s = .found (.number numeral.toFloat) rest := by
  unfold readNumber
  split
  · simp [Number.scan, Number.readSign, Number.readMantissa, Number.spanDigits] at h
  · simp [Number.scan, Number.readSign, Number.readMantissa, Number.spanDigits] at h
  · simp [Number.scan, Number.readSign, Number.readMantissa, Number.spanDigits] at h
  · rw [h]

theorem readNumber_append (h : NumberText front x) (hr : Separated r) :
    readNumber (front ++ r) = .found (.number x) r := by
  have spelling {a b c : Char} (spelled : front.map Char.toLower = [a, b, c]) :
      ∃ a' b' c', front = [a', b', c'] ∧ (a' = a ∨ a' = a.toUpper) ∧
        (b' = b ∨ b' = b.toUpper) ∧ (c' = c ∨ c' = c.toUpper) := by
    obtain ⟨a', rest, rfl, first, spelled⟩ := List.map_eq_cons_iff.mp spelled
    obtain ⟨b', rest, rfl, second, spelled⟩ := List.map_eq_cons_iff.mp spelled
    obtain ⟨c', rest, rfl, third, spelled⟩ := List.map_eq_cons_iff.mp spelled
    cases List.map_eq_nil_iff.mp spelled
    exact ⟨a', b', c', rfl, Number.eq_of_toLower first, Number.eq_of_toLower second,
      Number.eq_of_toLower third⟩
  cases h with
  | negativeInfinity => rfl
  | infinity spelled =>
    obtain ⟨a, b, c, rfl, rfl | rfl, rfl | rfl, rfl | rfl⟩ := spelling spelled <;> rfl
  | notANumber spelled =>
    obtain ⟨a, b, c, rfl, rfl | rfl, rfl | rfl, rfl | rfl⟩ := spelling spelled <;> rfl
  | numeral h => exact readNumber_of_scan (Number.scan_append h hr.endsNumeral)

theorem readFront_of_readNumber {s rest : List Char} {v : Value}
    (h : readNumber s = .found v rest) : readFront s = .found v rest := by
  unfold readFront readWithin
  split
  · simp [readNumber, Number.scan, Number.readSign, Number.readMantissa, Number.spanDigits,
      Number.dropWord?] at h
  · simp [readNumber, Number.scan, Number.readSign, Number.readMantissa, Number.spanDigits,
      Number.dropWord?] at h
  · exact h

theorem readFront_gap {c : Char} (hc : Text.isGap c = true) (s : List Char) :
    readFront (c :: s) = .absent := by
  simp only [Text.isGap, Bool.or_eq_true, decide_eq_true_eq] at hc
  rcases hc with ((rfl | rfl) | rfl) | rfl <;>
    simp [readFront, readWithin, readNumber, Number.scan, Number.readSign, Number.readMantissa,
      Number.spanDigits, Number.dropWord?]

theorem readFront_of_closes (hr : Closes r) : readFront r = .absent := by
  cases r with
  | nil => rfl
  | cons c r =>
    rw [hr c rfl]
    simp [readFront, readWithin, readNumber, Number.scan, Number.readSign, Number.readMantissa,
      Number.spanDigits, Number.dropWord?]

theorem skipGaps_of_readFront {s rest : List Char} (h : readFront s = .found v rest) :
    Text.skipGaps s = s := by
  cases s with
  | nil => rfl
  | cons c s =>
    refine List.dropWhile_cons_of_neg ?_
    intro gap
    rw [readFront_gap gap] at h
    simp at h

theorem FurtherText.separated (h : FurtherText front items) (hr : Separated r) :
    Separated (front ++ r) := by
  cases h with
  | none => exact hr
  | @some before _ _ _ _ _ ended =>
    cases before with
    | nil =>
      rintro c ⟨⟩
      decide
    | cons c before =>
      rintro d ⟨⟩
      exact List.mem_append_left [',', ']'] (ended c List.mem_cons_self)

theorem FurtherText.length_le {s : List Char} {items : List Value} (h : FurtherText s items) :
    items.length ≤ s.length := by
  cases h with
  | none => exact Nat.zero_le _
  | some _ _ _ further =>
    have := further.length_le
    simp only [List.length_cons, List.length_append]
    omega

theorem ItemsText.length_le (h : ItemsText front items) : items.length ≤ front.length + 1 := by
  cases h with
  | none => exact Nat.zero_le _
  | some _ further =>
    have := further.length_le
    simp only [List.length_cons, List.length_append]
    omega

mutual

theorem readFront_append {front r : List Char} {v : Value} (h : ValueText front v)
    (hr : Separated r) : readFront (front ++ r) = .found v r := by
  cases h with
  | number number => exact readFront_of_readNumber (readNumber_append number hr)
  | @text s chars body =>
    have inside : readEscaped (s ++ ['"'] ++ r) = some (chars, r) := by
      rw [List.append_assoc]
      exact readEscaped_append body
    rw [List.cons_append, readFront, readWithin, inside]
  | @vector before s after items opened listed closed =>
    have closing : Text.skipGaps (after ++ ']' :: r) = ']' :: r := skipGaps_append closed _
    have closes : Closes (Text.skipGaps (after ++ ']' :: r)) := by
      rw [closing]
      rintro c ⟨⟩
      rfl
    have split : '[' :: (before ++ (s ++ (after ++ [']']))) ++ r =
        '[' :: (before ++ (s ++ (after ++ ']' :: r))) := by simp
    have count := listed.length_le
    obtain ⟨left, found, same⟩ := readItems_append listed
      (before ++ (s ++ (after ++ ']' :: r))).length (by simp; omega) closes
    rw [split, readFront_vector, skipGaps_append opened, found]
    simp only
    rw [same, closing]
    rfl

/-- White space is skipped on both sides of no items, so what is left may be shorter than the text
behind them. -/
theorem readItems_append {front r : List Char} {items : List Value} (h : ItemsText front items)
    (bound : Nat) (enough : items.length ≤ bound + 1) (hr : Closes (Text.skipGaps r)) :
    ∃ left, readItems readFront bound (Text.skipGaps (front ++ r)) = .found items left ∧
      Text.skipGaps left = Text.skipGaps r := by
  cases h with
  | none =>
    refine ⟨_, ?_, skipGaps_of_closes hr⟩
    rw [List.nil_append, readItems, readFront_of_closes hr]
  | @some s t item items first further =>
    have front := readFront_append first (further.separated (separated_of_closes hr))
    have rest := readFurther_append further bound (by simpa using enough) hr
    refine ⟨r, ?_, rfl⟩
    rw [List.append_assoc, skipGaps_of_readFront front, readItems, front]
    simp only
    rw [rest, Reading.prepend]

theorem readFurther_append {front r : List Char} {items : List Value}
    (h : FurtherText front items) (bound : Nat) (enough : items.length ≤ bound)
    (hr : Closes (Text.skipGaps r)) :
    readFurther readFront bound (front ++ r) = .found items r := by
  cases h with
  | none =>
    cases bound with
    | zero => rfl
    | succ bound =>
      rw [List.nil_append, readFurther]
      split
      · rename_i comma
        simp [comma, Closes] at hr
      · rfl
  | @some before after s t item items ended begun next further =>
    obtain ⟨bound, rfl⟩ := Nat.exists_eq_add_one_of_ne_zero (n := bound) (by
      simp at enough
      omega)
    -- Behind the value come white space, a comma or the end, so it is read to its end.
    have front := readFront_append next (further.separated (separated_of_closes hr))
    have rest := readFurther_append further bound (by simpa using enough) hr
    have comma : Text.skipGaps (before ++ ',' :: (after ++ (s ++ t)) ++ r) =
        ',' :: (after ++ (s ++ (t ++ r))) := by
      rw [List.append_assoc, skipGaps_append ended]
      simp [Text.skipGaps, Text.isGap]
    have item : Text.skipGaps (after ++ (s ++ (t ++ r))) = s ++ (t ++ r) := by
      rw [skipGaps_append begun, skipGaps_of_readFront front]
    rw [readFurther, comma]
    simp only
    rw [item, front]
    simp only
    rw [rest, Reading.prepend]

end

end Value

namespace Statement

variable {t : List Char} {items items' : Statement}

theorem read_of_text (h : StatementText t items) : Statement.read t = .ok items := by
  cases h with
  | @padded before s after items begun listed ended =>
    have closing : Text.skipGaps after = [] := by
      have gaps := Value.skipGaps_append ended []
      rwa [List.append_nil] at gaps
    have closes : Closes (Text.skipGaps after) := by simp [closing, Closes]
    have count := listed.length_le
    obtain ⟨left, found, same⟩ := Value.readItems_append listed
      (before ++ (s ++ after)).length (by simp; omega) closes
    rw [Statement.read_eq, Value.skipGaps_append begun, found]
    simp only
    rw [same, closing]

/-- A text is read as a statement if and only if the grammar derives the statement from it, and the
grammar derives at most one. -/
theorem read_iff_grammar (t : List Char) :
    (∀ items, Statement.read t = .ok items ↔ StatementText t items) ∧
      ∀ items items', StatementText t items → StatementText t items' → items = items' := by
  refine ⟨fun items => ⟨read_spec, read_of_text⟩, fun items items' h h' => ?_⟩
  have same := (read_of_text h).symm.trans (read_of_text h')
  exact Except.ok.inj same

/-- A text with an escape, gaps before commas, a word in capitals and an empty vector; and three
that are refused: for a comma before a bracket, for a letter that escapes nothing, and for an
exponent mark without digits inside two vectors. -/
theorem read_iff_grammar_nested :
    let t := " \"a\\n\" ,[+1.5E-3 , INF, [ ]]\t".toList
    let items : Statement := [.text "a\n", .vector [
      .number (Number.Numeral.mk false ['1'] ['5'] (-3)).toFloat, .number Number.infinity,
      .vector []]]
    StatementText t items ∧ (∀ other, StatementText t other → other = items) ∧
      ∀ refused ∈ ["[1,]", "\"\\a\"", "[0, [1e]]"], ∀ other,
        ¬ StatementText refused.toList other := by
  intro t items
  have text : StatementText t items := ((read_iff_grammar t).1 items).mp rfl
  have refuse (t : List Char) (fails : (Statement.read t).isOk = false) (other : Statement) :
      ¬ StatementText t other := by
    intro h
    rw [((read_iff_grammar t).1 other).mpr h] at fails
    cases fails
  refine ⟨text, fun other h => (read_iff_grammar t).2 other items h text, ?_⟩
  intro refused listed
  simp only [List.mem_cons, List.not_mem_nil, or_false] at listed
  rcases listed with rfl | rfl | rfl
  · exact refuse _ rfl
  · exact refuse _ rfl
  · exact refuse _ rfl

end Statement

end SolidStudy
