import Mathlib
import SolidStudy.Text

/-! The pieces of a text between separators: its lines and its words. -/
namespace SolidStudy.Text

variable {c : Char} {s t word line : List Char}

theorem splitAt_eq_splitOnP {α : Type} (separator : α → Bool) (s : List α) :
    splitAt separator s = s.splitOnP separator := by
  induction s with
  | nil => rfl
  | cons a s ih =>
    obtain ⟨piece, pieces, split⟩ := List.exists_cons_of_ne_nil (List.splitOnP_ne_nil separator s)
    rw [splitAt, ih, split, List.splitOnP_cons_eq_if_modifyHead, split]
    cases separator a <;> rfl

/-- A list is cut in only one way into items with a property and a rest that does not begin with
one. -/
theorem append_inj_of_head {α : Type} {p : α → Bool} {x y s t : List α}
    (hx : ∀ a ∈ x, p a = true) (hy : ∀ a ∈ y, p a = true) (hs : ∀ a ∈ s.head?, p a = false)
    (ht : ∀ a ∈ t.head?, p a = false) (h : x ++ s = y ++ t) : x = y ∧ s = t := by
  have none {r : List α} (hr : ∀ a ∈ r.head?, p a = false) : r.takeWhile p = [] := by
    cases r with
    | nil => rfl
    | cons a r => simp [hr a rfl]
  have front := congrArg (List.takeWhile p) h
  rw [List.takeWhile_append_of_pos hx, List.takeWhile_append_of_pos hy, none hs, none ht,
    List.append_nil, List.append_nil] at front
  subst front
  exact ⟨rfl, List.append_cancel_left h⟩

theorem lines_eq (s : List Char) : lines s = s.splitOnP (· = '\n') :=
  splitAt_eq_splitOnP _ s

theorem lines_of_not_mem (whole : '\n' ∉ line) : lines line = [line] := by
  have inside : ∀ c ∈ line, decide (c = '\n') = false :=
    fun c listed => decide_eq_false (ne_of_mem_of_not_mem listed whole)
  rw [lines_eq, List.splitOnP_eq_singleton inside]

/-- A line feed between two texts is no part of the lines of either. -/
theorem lines_append_feed (s t : List Char) : lines (s ++ '\n' :: t) = lines s ++ lines t := by
  rw [lines_eq, lines_eq, lines_eq, List.splitOnP_append_cons s t rfl]

theorem lines_append (whole : '\n' ∉ line) (rest : List Char) :
    lines (line ++ '\n' :: rest) = line :: lines rest := by
  rw [lines_append_feed, lines_of_not_mem whole, List.singleton_append]

/-- A text is one line, or a line with a line feed and a text behind it. -/
theorem induction_lines {motive : List Char → Prop} (last : ∀ line, '\n' ∉ line → motive line)
    (feed : ∀ line rest, '\n' ∉ line → motive rest → motive (line ++ '\n' :: rest))
    (s : List Char) : motive s := by
  induction size : s.length using Nat.strong_induction_on generalizing s with
  | _ n ih =>
    by_cases broken : '\n' ∈ s
    · obtain ⟨line, rest, rfl, whole⟩ := List.eq_append_cons_of_mem broken
      have shorter : rest.length < n := by
        rw [← size, List.length_append, List.length_cons]
        omega
      exact feed line rest whole (ih rest.length shorter rest rfl)
    · exact last s broken

theorem length_lines (s : List Char) : (lines s).length = s.count '\n' + 1 := by
  induction s using induction_lines with
  | last line whole => rw [lines_of_not_mem whole, List.count_eq_zero_of_not_mem whole]; rfl
  | feed line rest whole ih =>
    rw [lines_append whole, List.length_cons, ih, List.count_append,
      List.count_eq_zero_of_not_mem whole, List.count_cons_self, Nat.zero_add]

/-- The text with a carriage return before each line feed. -/
def withReturns (s : List Char) : List Char :=
  s.flatMap fun c => if c = '\n' then ['\r', '\n'] else [c]

theorem withReturns_of_not_mem (whole : '\n' ∉ line) : withReturns line = line := by
  induction line with
  | nil => rfl
  | cons c line ih =>
    rw [List.mem_cons, not_or] at whole
    obtain ⟨other, further⟩ := whole
    rw [withReturns, List.flatMap_cons, if_neg (Ne.symm other), ← withReturns, ih further]
    rfl

theorem withReturns_append (s t : List Char) :
    withReturns (s ++ t) = withReturns s ++ withReturns t :=
  List.flatMap_append

def Unspaced (s : List Char) : Prop :=
  ∀ c ∈ s, isBlank c = false

instance (s : List Char) : Decidable (Unspaced s) :=
  decidable_of_iff (s.all (!isBlank ·) = true) (by simp [Unspaced])

@[simp] theorem unspaced_nil : Unspaced [] := by
  simp [Unspaced]

@[simp] theorem unspaced_cons : Unspaced (c :: s) ↔ isBlank c = false ∧ Unspaced s :=
  List.forall_mem_cons

@[simp] theorem unspaced_append : Unspaced (s ++ t) ↔ Unspaced s ∧ Unspaced t :=
  List.forall_mem_append

theorem Unspaced.feed_not_mem (h : Unspaced s) : '\n' ∉ s :=
  fun listed => absurd (h '\n' listed) (by decide)

/-- No visible ASCII character is white space. -/
theorem isBlank_of_visible {low high : Char} (h : low ≤ c ∧ c ≤ high) (first : 0x20 < low.toNat)
    (last : high.toNat < 0x7F) : isBlank c = false := by
  have above : low.toNat ≤ c.toNat := UInt32.le_iff_toNat_le.mp h.1
  have below : c.toNat ≤ high.toNat := UInt32.le_iff_toNat_le.mp h.2
  simp [isBlank, blankRanges]
  omega

def IsWord (s : List Char) : Prop :=
  s ≠ [] ∧ Unspaced s

instance (s : List Char) : Decidable (IsWord s) :=
  inferInstanceAs (Decidable (s ≠ [] ∧ Unspaced s))

theorem IsWord.append (h : IsWord s) (tail : Unspaced t) : IsWord (s ++ t) :=
  ⟨by simp [h.1], unspaced_append.mpr ⟨h.2, tail⟩⟩

theorem words_of_isWord (h : IsWord word) : words word = [word] := by
  simp only [words, splitAt_eq_splitOnP]
  rw [List.splitOnP_eq_singleton h.2]
  simp [h.1]

theorem words_append_blank (blank : isBlank c = true) (s t : List Char) :
    words (s ++ c :: t) = words s ++ words t := by
  simp only [words, splitAt_eq_splitOnP]
  rw [List.splitOnP_append_cons s t blank, List.filter_append]

theorem words_cons_blank (blank : isBlank c = true) (s : List Char) : words (c :: s) = words s :=
  words_append_blank blank [] s

theorem words_replicate (n : Nat) (s : List Char) :
    words (List.replicate n ' ' ++ s) = words s := by
  induction n with
  | zero => rfl
  | succ n ih =>
    rw [List.replicate_succ, List.cons_append, words_cons_blank (by decide), ih]

/-- A word may be padded up to the blank that ends it. -/
theorem words_append_replicate (n : Nat) (s t : List Char) :
    words (s ++ (List.replicate n ' ' ++ ' ' :: t)) = words s ++ words t := by
  have blanks : List.replicate n ' ' ++ ' ' :: t = ' ' :: (List.replicate n ' ' ++ t) := by
    rw [← List.singleton_append, ← List.append_assoc, ← List.replicate_succ',
      List.replicate_succ, List.cons_append]
  rw [blanks, words_append_blank (by decide), words_replicate]

def spaced (ws : List (List Char)) : List Char := ws.flatMap (' ' :: ·)

theorem words_append_spaced {ws : List (List Char)} (h : ∀ w ∈ ws, IsWord w) (s : List Char) :
    words (s ++ spaced ws) = words s ++ ws := by
  have blank : isBlank ' ' = true := by decide
  induction ws generalizing s with
  | nil => simp [spaced]
  | cons word ws ih =>
    have further := ih (fun other listed => h other (List.mem_cons_of_mem _ listed)) word
    rw [spaced, List.flatMap_cons, List.cons_append, words_append_blank blank, ← spaced, further,
      words_of_isWord (h word List.mem_cons_self), List.singleton_append]

theorem feed_not_mem_spaced {ws : List (List Char)} (h : ∀ w ∈ ws, IsWord w) :
    '\n' ∉ spaced ws := by
  simp only [spaced, List.mem_flatMap, not_exists, not_and, List.mem_cons, not_or]
  exact fun w listed => ⟨by decide, (h w listed).2.feed_not_mem⟩

end SolidStudy.Text
