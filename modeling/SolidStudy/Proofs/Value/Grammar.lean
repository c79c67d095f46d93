import Mathlib
import SolidStudy.Proofs.Number.Grammar
import SolidStudy.Proofs.Value.Reader

/-! The grammar of statements. A text is read as a statement if and only if the grammar derives the
statement from it, and it derives at most one. -/
namespace SolidStudy

namespace Value

def Gaps (s : List Char) : Prop :=
  ∀ c ∈ s, c ∈ [' ', '\t', '\r', '\n']

/-- The letters after a backslash, and what they stand for. -/
def escapes : List (Char × Char) :=
  [('\\', '\\'), ('"', '"'), ('n', '\n'), ('t', '\t'), ('r', '\r')]

/-- What stands between two quotes, and the characters that it stands for. -/
inductive BodyText : List Char → List Char → Prop
  | nil : BodyText [] []
  | plain {c : Char} {s chars : List Char} (quote : c ≠ '"') (slash : c ≠ '\\')
      (h : BodyText s chars) : BodyText (c :: s) (c :: chars)
  | escape {letter c : Char} {s chars : List Char} (listed : (letter, c) ∈ escapes)
      (h : BodyText s chars) : BodyText ('\\' :: letter :: s) (c :: chars)

/-- Infinity with a minus sign is written in lowercase letters, the other words in any case. -/
inductive NumberText : List Char → Float → Prop
  | negativeInfinity : NumberText ['-', 'i', 'n', 'f'] (Number.ofRank true Number.infinityRank)
  | infinity {word : List Char} (spelled : word.map Char.toLower = ['i', 'n', 'f']) :
      NumberText word Number.infinity
  | notANumber {word : List Char} (spelled : word.map Char.toLower = ['n', 'a', 'n']) :
      NumberText word Number.notANumber
  | numeral {s : List Char} {numeral : Number.Numeral} (h : Number.NumeralText s numeral) :
      NumberText s numeral.toFloat

mutual

inductive ValueText : List Char → Value → Prop
  | number {s : List Char} {x : Float} (h : NumberText s x) : ValueText s (.number x)
  | text {s chars : List Char} (h : BodyText s chars) :
      ValueText ('"' :: (s ++ ['"'])) (.text (String.ofList chars))
  | vector {before s after : List Char} {items : List Value} (opened : Gaps before)
      (listed : ItemsText s items) (closed : Gaps after) :
      ValueText ('[' :: (before ++ (s ++ (after ++ [']'])))) (.vector items)

inductive ItemsText : List Char → List Value → Prop
  | none : ItemsText [] []
  | some {s t : List Char} {item : Value} {items : List Value} (first : ValueText s item)
      (further : FurtherText t items) : ItemsText (s ++ t) (item :: items)

inductive FurtherText : List Char → List Value → Prop
  | none : FurtherText [] []
  | some {before after s t : List Char} {item : Value} {items : List Value} (ended : Gaps before)
      (begun : Gaps after) (next : ValueText s item) (further : FurtherText t items) :
      FurtherText (before ++ ',' :: (after ++ (s ++ t))) (item :: items)

end

end Value

inductive StatementText : List Char → Statement → Prop
  | padded {before s after : List Char} {items : Statement} (begun : Value.Gaps before)
      (listed : Value.ItemsText s items) (ended : Value.Gaps after) :
      StatementText (before ++ (s ++ after)) items

namespace Value

variable {s rest chars : List Char} {v : Value} {items : List Value}
  {read : List Char → Reading Value}

theorem isGap_iff {c : Char} : Text.isGap c = true ↔ c ∈ [' ', '\t', '\r', '\n'] := by
  simp [Text.isGap, or_assoc]

theorem exists_gaps (s : List Char) : ∃ before, s = before ++ Text.skipGaps s ∧ Gaps before :=
  ⟨_, List.takeWhile_append_dropWhile.symm, fun _ hc => isGap_iff.mp (List.mem_takeWhile_imp hc)⟩

theorem escaped_eq_some_iff {letter c : Char} :
    escaped letter = some c ↔ (letter, c) ∈ escapes := by
  unfold escaped
  split <;> simp_all [escapes, eq_comm]

theorem readEscaped_spec (h : readEscaped s = some (chars, rest)) :
    ∃ front, s = front ++ '"' :: rest ∧ BodyText front chars := by
  fun_induction readEscaped s generalizing chars with
  | case1 => cases h
  | case2 =>
    cases h
    exact ⟨[], rfl, .nil⟩
  | case3 => cases h
  | case4 letter tail ih =>
    simp only [Option.bind_eq_bind, Option.bind_eq_some_iff] at h
    obtain ⟨c, known, ⟨later, left⟩, found, same⟩ := h
    cases same
    obtain ⟨front, rfl, body⟩ := ih found
    exact ⟨'\\' :: letter :: front, rfl, .escape (escaped_eq_some_iff.mp known) body⟩
  | case5 c tail quote last slash ih =>
    have unescaped : c ≠ '\\' := by
      rintro rfl
      cases tail with
      | nil => exact last rfl rfl
      | cons letter tail => exact slash letter tail rfl rfl
    simp only [Option.bind_eq_bind, Option.bind_eq_some_iff] at h
    obtain ⟨⟨later, left⟩, found, same⟩ := h
    cases same
    obtain ⟨front, rfl, body⟩ := ih found
    exact ⟨c :: front, rfl, .plain quote unescaped body⟩

theorem dropWord?_spec {word : List Char} (h : Number.dropWord? word s = some rest) :
    ∃ front, s = front ++ rest ∧ front.map Char.toLower = word := by
  induction word generalizing s with
  | nil =>
    cases h
    exact ⟨[], rfl, rfl⟩
  | cons w word ih =>
    cases s with
    | nil => cases h
    | cons c s =>
      simp only [Number.dropWord?, Option.ite_none_right_eq_some] at h
      obtain ⟨front, rfl, spelled⟩ := ih h.2
      exact ⟨c :: front, rfl, by rw [List.map_cons, h.1, spelled]⟩

theorem readNumber_spec (h : readNumber s = .found v rest) :
    ∃ front x, s = front ++ rest ∧ v = .number x ∧ NumberText front x := by
  unfold readNumber at h
  split at h
  · cases h
    exact ⟨_, _, rfl, rfl, .negativeInfinity⟩
  · cases h
    exact ⟨['i', 'n', 'f'], _, rfl, rfl, .infinity rfl⟩
  · cases h
    exact ⟨['n', 'a', 'n'], _, rfl, rfl, .notANumber rfl⟩
  · split at h
    · rename_i found
      cases h
      obtain ⟨front, rfl, numeral⟩ := Number.scan_spec found
      exact ⟨front, _, rfl, rfl, .numeral numeral⟩
    · cases h
    · split at h
      · rename_i found
        cases h
        obtain ⟨front, rfl, spelled⟩ := dropWord?_spec found
        exact ⟨front, _, rfl, rfl, .notANumber spelled⟩
      · rename_i found
        cases h
        obtain ⟨front, rfl, spelled⟩ := dropWord?_spec found
        exact ⟨front, _, rfl, rfl, .infinity spelled⟩
      · cases h

/-- Whatever is read has its text at the front. -/
def Sound (read : List Char → Reading Value) : Prop :=
  ∀ s v rest, read s = .found v rest → ∃ front, s = front ++ rest ∧ ValueText front v

theorem prepend_eq_found {α : Type} {a : α} {r : Reading (List α)} {as : List α}
    (h : Reading.prepend a r = .found as rest) :
    ∃ later, as = a :: later ∧ r = .found later rest := by
  cases r with
  | found later left =>
    cases h
    exact ⟨later, rfl, rfl⟩
  | absent | broken => cases h

theorem readFurther_spec (sound : Sound read) {bound : Nat}
    (h : readFurther read bound s = .found items rest) :
    ∃ front, s = front ++ rest ∧ FurtherText front items := by
  fun_induction readFurther read bound s generalizing items with
  | case1 | case3 | case5 =>
    -- A comma that no value follows is left in the text, so nothing of it is an item.
    cases h
    exact ⟨[], rfl, .none⟩
  | case2 bound s tail comma item left found ih =>
    obtain ⟨later, rfl, further⟩ := prepend_eq_found h
    obtain ⟨before, split, ended⟩ := exists_gaps s
    obtain ⟨after, gap, begun⟩ := exists_gaps tail
    obtain ⟨front, next, text⟩ := sound _ _ _ found
    obtain ⟨others, rfl, texts⟩ := ih further
    refine ⟨_, ?_, .some ended begun text texts⟩
    rw [split, comma, gap, next]
    simp
  | case4 => cases h

theorem readItems_spec (sound : Sound read) {bound : Nat}
    (h : readItems read bound s = .found items rest) :
    ∃ front, s = front ++ rest ∧ ItemsText front items := by
  unfold readItems at h
  split at h
  · rename_i item left found
    obtain ⟨later, rfl, further⟩ := prepend_eq_found h
    obtain ⟨front, rfl, text⟩ := sound _ _ _ found
    obtain ⟨others, rfl, texts⟩ := readFurther_spec sound further
    exact ⟨_, (List.append_assoc ..).symm, .some text texts⟩
  · cases h
    exact ⟨[], rfl, .none⟩
  · cases h

theorem readWithin_sound (size : Nat) : Sound (readWithin size) := by
  -- The items of a vector are read with a smaller size, which is sound by induction.
  induction size with
  | zero =>
    intro s v rest h
    cases h
  | succ size ih =>
    intro s v rest h
    unfold readWithin at h
    split at h
    · split at h
      · rename_i found
        cases h
        obtain ⟨front, rfl, body⟩ := readEscaped_spec found
        exact ⟨_, by simp, .text body⟩
      · cases h
    · rename_i tail
      split at h
      · rename_i items left found
        split at h
        · rename_i end' closing
          cases h
          obtain ⟨before, split, opened⟩ := exists_gaps tail
          obtain ⟨front, inside, listed⟩ := readItems_spec ih found
          obtain ⟨after, gap, closed⟩ := exists_gaps left
          refine ⟨_, ?_, .vector opened listed closed⟩
          rw [split, inside, gap, closing]
          simp
        · cases h
      · cases h
      · cases h
    · obtain ⟨front, x, rfl, rfl, number⟩ := readNumber_spec h
      exact ⟨front, rfl, .number number⟩

theorem readFront_sound : Sound readFront :=
  fun s => readWithin_sound (s.length + 1) s

end Value

theorem Statement.read_spec {s : List Char} {items : Statement} (h : Statement.read s = .ok items) :
    StatementText s items := by
  rw [Statement.read_eq] at h
  split at h
  · rename_i found left listed
    split at h
    · rename_i closed
      cases h
      obtain ⟨before, split, begun⟩ := Value.exists_gaps s
      obtain ⟨front, inside, texts⟩ := Value.readItems_spec Value.readFront_sound listed
      obtain ⟨after, gap, ended⟩ := Value.exists_gaps left
      rw [closed, List.append_nil] at gap
      rw [split, inside, gap]
      exact .padded begun texts ended
    · cases h
  · cases h
  · cases h

end SolidStudy
