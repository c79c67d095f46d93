import Mathlib
import SolidStudy.Json.Document
import SolidStudy.Json.Reader

/-! Texts in JSON, in any spelling: a character stands for itself or is escaped by a letter, by its
code, or by the codes of a pair of surrogates. Every spelling is read back as the text, whatever
stands behind it, and the written text is one of them, so no two texts are written alike. -/
namespace SolidStudy.Json

def HexDigit (d : Char) (n : Nat) : Prop :=
  n < 16 ∧ (d = Nat.digitChar n ∨ d = (Nat.digitChar n).toUpper)

instance (d : Char) (n : Nat) : Decidable (HexDigit d n) :=
  inferInstanceAs (Decidable (_ ∧ _))

inductive CodeText : List Char → Nat → Prop
  | digits {a b c d : Char} {i j k l : Nat} (first : HexDigit a i) (second : HexDigit b j)
      (third : HexDigit c k) (fourth : HexDigit d l) :
      CodeText [a, b, c, d] (((i * 16 + j) * 16 + k) * 16 + l)

/-- The letters after a backslash, and what they stand for. -/
def escapes : List (Char × Char) :=
  [('"', '"'), ('\\', '\\'), ('/', '/'), ('b', '\x08'), ('f', '\x0c'), ('n', '\n'), ('r', '\r'),
    ('t', '\t')]

inductive PlainText : List Char → Char → Prop
  | itself {c : Char} (quote : c ≠ '"') (slash : c ≠ '\\') (shown : 0x20 ≤ c.toNat) :
      PlainText [c] c
  | letter {letter c : Char} (listed : (letter, c) ∈ escapes) : PlainText ['\\', letter] c

inductive CharText : List Char → Char → Prop
  | plain {s : List Char} {c : Char} (h : PlainText s c) : CharText s c
  | code {s : List Char} {c : Char} (h : CodeText s c.toNat) : CharText ('\\' :: 'u' :: s) c
  | pair {s t : List Char} {c : Char} (wide : 0x10000 ≤ c.toNat)
      (leading : CodeText s (0xD800 + (c.toNat - 0x10000) / 0x400))
      (trailing : CodeText t (0xDC00 + (c.toNat - 0x10000) % 0x400)) :
      CharText ('\\' :: 'u' :: (s ++ '\\' :: 'u' :: t)) c

inductive QuotedText : List Char → String → Prop
  | spelled {pieces : List (List Char)} {s : String} (h : List.Forall₂ CharText pieces s.toList) :
      QuotedText ('"' :: (pieces.flatten ++ ['"'])) s

/-- A piece of a text that nobody asks for. Its codes need not be those of characters. -/
inductive RawText : List Char → Prop
  | plain {s : List Char} {c : Char} (h : PlainText s c) : RawText s
  | code {s : List Char} {n : Nat} (h : CodeText s n) : RawText ('\\' :: 'u' :: s)

/-- A text in quotes that nobody asks for. -/
inductive RawQuoted : List Char → Prop
  | spelled {pieces : List (List Char)} (h : ∀ piece ∈ pieces, RawText piece) :
      RawQuoted ('"' :: (pieces.flatten ++ ['"']))

variable {c : Char} {n bound : Nat} {r q t s chars : List Char} {text : String}
  {pieces : List (List Char)}

theorem hexDigit?_of_hexDigit (h : HexDigit c n) : hexDigit? c = some n := by
  have lower : ∀ n < 16, hexDigit? (Nat.digitChar n) = some n := by decide
  have upper : ∀ n < 16, hexDigit? (Nat.digitChar n).toUpper = some n := by decide
  obtain ⟨small, rfl | rfl⟩ := h
  · exact lower n small
  · exact upper n small

theorem readCode_append (h : CodeText s n) (r : List Char) : readCode (s ++ r) = .ok (n, r) := by
  cases h with
  | digits first second third fourth =>
    simp only [List.cons_append, List.nil_append, readCode, hexDigit?_of_hexDigit first,
      hexDigit?_of_hexDigit second, hexDigit?_of_hexDigit third, hexDigit?_of_hexDigit fourth]

theorem toNat_lt_or (c : Char) : c.toNat < 0xD800 ∨ 0xDFFF < c.toNat ∧ c.toNat < 0x110000 := by
  rcases c.valid with low | ⟨above, below⟩
  · exact .inl low
  · exact .inr ⟨above, below⟩

theorem readCoded_code (h : CodeText s c.toNat) (r : List Char) :
    readCoded (s ++ r) = .ok (c, r) := by
  have range := toNat_lt_or c
  have trailing : isTrailing c.toNat = false := by
    simp only [isTrailing, Bool.and_eq_false_iff, decide_eq_false_iff_not]
    omega
  have leading : isLeading c.toNat = false := by
    simp only [isLeading, Bool.and_eq_false_iff, decide_eq_false_iff_not]
    omega
  rw [readCoded, readCode_append h]
  simp [bind, Except.bind, trailing, leading, pure, Except.pure]

theorem readCoded_pair {first second : Nat} (leading : CodeText s first)
    (trailing : CodeText t second) (inFirst : isLeading first = true)
    (inSecond : isTrailing second = true) (r : List Char) :
    readCoded (s ++ '\\' :: 'u' :: (t ++ r)) =
      .ok (Char.ofNat (0x10000 + (first - 0xD800) * 0x400 + (second - 0xDC00)), r) := by
  have other : isTrailing first = false := by
    simp only [isLeading, Bool.and_eq_true, decide_eq_true_eq] at inFirst
    simp only [isTrailing, Bool.and_eq_false_iff, decide_eq_false_iff_not]
    omega
  rw [readCoded, readCode_append leading]
  simp [bind, Except.bind, other, inFirst, readTrailing, readCode_append trailing, inSecond, pure,
    Except.pure]

theorem readCoded_wide (wide : 0x10000 ≤ c.toNat)
    (leading : CodeText s (0xD800 + (c.toNat - 0x10000) / 0x400))
    (trailing : CodeText t (0xDC00 + (c.toNat - 0x10000) % 0x400)) (r : List Char) :
    readCoded (s ++ '\\' :: 'u' :: (t ++ r)) = .ok (c, r) := by
  have range := toNat_lt_or c
  have inFirst : isLeading (0xD800 + (c.toNat - 0x10000) / 0x400) = true := by
    simp only [isLeading, Bool.and_eq_true, decide_eq_true_eq]
    omega
  have inSecond : isTrailing (0xDC00 + (c.toNat - 0x10000) % 0x400) = true := by
    simp only [isTrailing, Bool.and_eq_true, decide_eq_true_eq]
    omega
  have whole : 0x10000 + (0xD800 + (c.toNat - 0x10000) / 0x400 - 0xD800) * 0x400 +
      (0xDC00 + (c.toNat - 0x10000) % 0x400 - 0xDC00) = c.toNat := by omega
  rw [readCoded_pair leading trailing inFirst inSecond, whole, Char.ofNat_toNat]

theorem readElement_plain (h : PlainText s c) (r : List Char) :
    readElement (s ++ r) = .ok (some c, r) := by
  cases h with
  | itself quote slash shown =>
    rw [List.singleton_append]
    unfold readElement
    split <;> simp_all
  | letter listed =>
    simp only [escapes, List.mem_cons, Prod.mk.injEq, List.not_mem_nil, or_false] at listed
    rcases listed with ⟨rfl, rfl⟩ | ⟨rfl, rfl⟩ | ⟨rfl, rfl⟩ | ⟨rfl, rfl⟩ | ⟨rfl, rfl⟩ |
      ⟨rfl, rfl⟩ | ⟨rfl, rfl⟩ | ⟨rfl, rfl⟩ <;> rfl

theorem readElement_append (h : CharText s c) (r : List Char) :
    readElement (s ++ r) = .ok (some c, r) := by
  cases h with
  | plain h => exact readElement_plain h r
  | code h =>
    rw [List.cons_append, List.cons_append, readElement, readCoded_code h]
    rfl
  | pair wide leading trailing =>
    rw [List.cons_append, List.cons_append, List.append_assoc, List.cons_append, List.cons_append,
      readElement, readCoded_wide wide leading trailing]
    rfl

theorem readElements_append (h : List.Forall₂ CharText pieces chars)
    (enough : chars.length < bound) (r : List Char) :
    readElements bound (pieces.flatten ++ '"' :: r) = .ok (chars, r) := by
  obtain ⟨bound, rfl⟩ := Nat.exists_eq_succ_of_ne_zero (Nat.ne_zero_of_lt enough)
  induction h generalizing bound with
  | nil => rfl
  | cons first _ ih =>
    obtain ⟨bound, rfl⟩ := Nat.exists_eq_succ_of_ne_zero
      (Nat.ne_zero_of_lt (Nat.lt_of_succ_lt_succ enough))
    rw [List.flatten_cons, List.append_assoc, readElements, readElement_append first]
    simp only [bind, Except.bind]
    rw [ih bound (Nat.lt_of_succ_lt_succ enough)]
    rfl

theorem PlainText.ne_nil (h : PlainText s c) : s ≠ [] := by
  cases h <;> exact List.cons_ne_nil _ _

theorem CharText.ne_nil (h : CharText s c) : s ≠ [] := by
  cases h with
  | plain h => exact h.ne_nil
  | code | pair => exact List.cons_ne_nil _ _

theorem RawText.ne_nil (h : RawText s) : s ≠ [] := by
  cases h with
  | plain h => exact h.ne_nil
  | code => exact List.cons_ne_nil _ _

theorem length_le_flatten (some : ∀ piece ∈ pieces, piece ≠ []) :
    pieces.length ≤ pieces.flatten.length := by
  have each := List.length_le_sum_of_one_le (pieces.map List.length) (by
    intro size counted
    obtain ⟨piece, listed, rfl⟩ := List.mem_map.mp counted
    exact List.length_pos_iff.mpr (some piece listed))
  rwa [List.length_map, ← List.length_flatten] at each

theorem ne_nil_of_charText (h : List.Forall₂ CharText pieces chars) :
    ∀ piece ∈ pieces, piece ≠ [] := by
  induction h with
  | nil => simp
  | cons first _ ih => exact List.forall_mem_cons.mpr ⟨first.ne_nil, ih⟩

theorem readText_append (h : List.Forall₂ CharText pieces text.toList) (r : List Char) :
    readText (pieces.flatten ++ '"' :: r) = .ok (text, r) := by
  have size := length_le_flatten (ne_nil_of_charText h)
  rw [h.length_eq] at size
  rw [readText, readElements_append h (by simp only [List.length_append]; omega)]
  simp [bind, Except.bind, pure, Except.pure]

theorem readTextValue_append (h : QuotedText t text) (wanted : String) (r : List Char) :
    readTextValue wanted (t ++ r) = .ok (text, r) := by
  cases h with
  | spelled h =>
    rw [List.cons_append, List.append_assoc]
    exact readText_append h r

/-- A character that is not written by a code is passed over as it is read. -/
theorem PlainText.uncoded (h : PlainText s c) (r t : List Char) : s ++ r ≠ '\\' :: 'u' :: t := by
  cases h with
  | itself _ slash => simp [slash]
  | @letter letter _ listed =>
    have other : letter ≠ 'u' := by
      rintro rfl
      revert listed
      simp [escapes]
    simp [other]

theorem skipElement_append (h : RawText s) (r : List Char) :
    skipElement (s ++ r) = .ok (some (), r) := by
  cases h with
  | plain h =>
    have read := readElement_plain h r
    rw [skipElement, read]
    · rfl
    · exact h.uncoded r
  | code h =>
    rw [List.cons_append, List.cons_append, skipElement, readCode_append h]
    rfl

theorem skipElements_append (h : ∀ piece ∈ pieces, RawText piece) (enough : pieces.length < bound)
    (r : List Char) : skipElements bound (pieces.flatten ++ '"' :: r) = .ok r := by
  obtain ⟨bound, rfl⟩ := Nat.exists_eq_succ_of_ne_zero (Nat.ne_zero_of_lt enough)
  induction pieces generalizing bound with
  | nil => rfl
  | cons piece pieces ih =>
    obtain ⟨bound, rfl⟩ := Nat.exists_eq_succ_of_ne_zero
      (Nat.ne_zero_of_lt (Nat.lt_of_succ_lt_succ enough))
    obtain ⟨first, later⟩ := List.forall_mem_cons.mp h
    rw [List.flatten_cons, List.append_assoc, skipElements, skipElement_append first]
    exact ih later bound (Nat.lt_of_succ_lt_succ enough)

theorem skipText_append (h : ∀ piece ∈ pieces, RawText piece) (r : List Char) :
    skipText (pieces.flatten ++ '"' :: r) = .ok r := by
  have size := length_le_flatten fun piece listed => (h piece listed).ne_nil
  exact skipElements_append h (by simp only [List.length_append]; omega) r

theorem codeText_hexDigits (h : n < 0x20) : CodeText (hexDigits 4 n) n := by
  have written : hexDigits 4 n = ['0', '0', Nat.digitChar (n / 16), Nat.digitChar (n % 16)] := by
    revert n
    decide
  have zero : HexDigit '0' 0 := ⟨by decide, by decide⟩
  have high : HexDigit (Nat.digitChar (n / 16)) (n / 16) := ⟨by omega, .inl rfl⟩
  have low : HexDigit (Nat.digitChar (n % 16)) (n % 16) := ⟨by omega, .inl rfl⟩
  have value : ((0 * 16 + 0) * 16 + n / 16) * 16 + n % 16 = n := by omega
  have digits := CodeText.digits zero zero high low
  rwa [value, ← written] at digits

theorem charText_writeChar (c : Char) : CharText (writeChar c) c := by
  unfold writeChar
  split
  case h_8 quote slash _ _ _ _ _ =>
    split_ifs with control
    · exact .code (codeText_hexDigits control)
    · exact .plain (.itself quote slash (Nat.le_of_not_lt control))
  all_goals exact .plain (.letter (by decide))

theorem quotedText_writeText (text : String) : QuotedText (writeText text) text := by
  have pieces : List.Forall₂ CharText (text.toList.map writeChar) text.toList :=
    List.forall₂_map_left_iff.mpr (List.forall₂_same.mpr fun c _ => charText_writeChar c)
  have spelled := QuotedText.spelled pieces
  rwa [← List.flatMap_def] at spelled

theorem writeText_inj {text text' : String} (same : writeText text ++ r = writeText text' ++ q) :
    text = text' ∧ r = q := by
  have read := readTextValue_append (quotedText_writeText text) "a string" r
  rw [same, readTextValue_append (quotedText_writeText text'), Except.ok.injEq,
    Prod.mk.injEq] at read
  exact ⟨read.1.symm, read.2.symm⟩

end SolidStudy.Json
