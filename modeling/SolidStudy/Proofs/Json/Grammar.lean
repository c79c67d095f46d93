import Mathlib
import SolidStudy.Proofs.Json.Reader
import SolidStudy.Proofs.Json.Text
import SolidStudy.Proofs.Value.Recognition

/-! The grammar of JSON values, with any white space between their parts. Every value of the grammar
is passed over, however deep it is nested and however large its numerals are. -/
namespace SolidStudy.Json

open Number (Digits ExponentText EndsNumeral)
open Value (Gaps)

def delimiters : List Char := [' ', '\t', '\r', '\n', ',', ']', '\x7d']

/-- A text in front of which a value may end. -/
def Ended (r : List Char) : Prop :=
  ∀ c ∈ r.head?, c ∈ delimiters

/-- A text that begins as a value or a member does. -/
def Begun (s : List Char) : Prop :=
  ∃ c tail, s = c :: tail ∧ c ∉ delimiters

/-- Pieces with commas between them, and the mark that closes them. -/
inductive Joined (close : Char) : List (List Char) → List Char → Prop
  | last {piece after : List Char} (ended : Gaps after) :
      Joined close [piece] (piece ++ (after ++ [close]))
  | more {piece after before t : List Char} {pieces : List (List Char)} (ended : Gaps after)
      (begun : Gaps before) (further : Joined close pieces t) :
      Joined close (piece :: pieces) (piece ++ (after ++ ',' :: (before ++ t)))

/-- What stands behind the opening mark of a list or an object. -/
inductive Listed (close : Char) : List (List Char) → List Char → Prop
  | none {gaps : List Char} (blank : Gaps gaps) : Listed close [] (gaps ++ [close])
  | some {before t : List Char} {pieces : List (List Char)} (opened : Gaps before)
      (joined : Joined close pieces t) : Listed close pieces (before ++ t)

/-- The name of a member, in one of the given spellings, and the colon. -/
inductive LabelText (named : List Char → Prop) : List Char → Prop
  | colon {name after before : List Char} (spelled : named name) (ended : Gaps after)
      (begun : Gaps before) : LabelText named (name ++ (after ++ ':' :: before))

/-- A member that nobody asks for: the text in front of its value, and the text of its value. -/
structure RawMember where
  label : List Char
  value : List Char
  labelled : LabelText RawQuoted label

def RawMember.text (m : RawMember) : List Char := m.label ++ m.value

inductive WholeText : List Char → Prop
  | zero : WholeText ['0']
  | digits {first : Char} {rest : List Char} (leading : first ≠ '0')
      (digits : Digits (first :: rest)) : WholeText (first :: rest)

inductive FractionText : List Char → Prop
  | absent : FractionText []
  | present {places : List Char} (some : places ≠ []) (digits : Digits places) :
      FractionText ('.' :: places)

inductive NumberText : List Char → Prop
  | parts {sign whole fraction power : List Char} {exponent : Int}
      (signed : sign = [] ∨ sign = ['-']) (counted : WholeText whole)
      (placed : FractionText fraction) (scaled : ExponentText power exponent) :
      NumberText (sign ++ (whole ++ (fraction ++ power)))

inductive ValueText : List Char → Prop
  | word {s : List Char} (known : s ∈ ["null".toList, "true".toList, "false".toList]) : ValueText s
  | number {s : List Char} (h : NumberText s) : ValueText s
  | text {s : List Char} (h : RawQuoted s) : ValueText s
  | list {s : List Char} {items : List (List Char)} (listed : Listed ']' items s)
      (each : ∀ item ∈ items, ValueText item) : ValueText ('[' :: s)
  | object {s : List Char} {members : List RawMember}
      (listed : Listed '\x7d' (members.map RawMember.text) s)
      (each : ∀ m ∈ members, ValueText m.value) : ValueText ('\x7b' :: s)

variable {r s t w f p gaps before after : List Char} {c mark close : Char} {e : Int} {bound : Nat}
  {pieces : List (List Char)} {members : List RawMember}
  {skip : List Char → Except Fault (List Char)}

theorem isGap_of_not_mem_delimiters (h : c ∉ delimiters) : Text.isGap c = false := by
  rw [← Bool.not_eq_true, Value.isGap_iff]
  exact fun listed => h (List.mem_append_left [',', ']', '\x7d'] listed)

theorem skipGaps_begun (blank : Gaps gaps) (h : Begun s) : Text.skipGaps (gaps ++ s) = s := by
  obtain ⟨c, tail, rfl, other⟩ := h
  rw [Value.skipGaps_append blank]
  exact List.dropWhile_cons_of_neg (by simp [isGap_of_not_mem_delimiters other])

theorem skipGaps_mark (mark : Char) (blank : Gaps gaps) (h : Text.isGap mark = false)
    (r : List Char) : Text.skipGaps (gaps ++ mark :: r) = mark :: r := by
  rw [Value.skipGaps_append blank]
  exact List.dropWhile_cons_of_neg (by simp [h])

theorem ended_mark (mark : Char) (blank : Gaps gaps) (h : mark ∈ delimiters) (r : List Char) :
    Ended (gaps ++ mark :: r) := by
  cases gaps with
  | nil =>
    rintro c ⟨⟩
    exact h
  | cons c gaps =>
    rintro d ⟨⟩
    exact List.mem_append_left [',', ']', '\x7d'] (blank c List.mem_cons_self)

theorem Ended.endsNumeral (h : Ended r) : EndsNumeral r := by
  intro c first
  have listed := h c first
  simp only [delimiters, List.mem_cons, List.not_mem_nil, or_false] at listed
  rcases listed with rfl | rfl | rfl | rfl | rfl | rfl | rfl <;> decide

theorem not_mem_delimiters_of_isDigit (h : c.isDigit = true) : c ∉ delimiters := by
  intro listed
  simp only [delimiters, List.mem_cons, List.not_mem_nil, or_false] at listed
  rcases listed with rfl | rfl | rfl | rfl | rfl | rfl | rfl <;> cases h

theorem Begun.append (h : Begun s) (r : List Char) : Begun (s ++ r) := by
  obtain ⟨c, tail, rfl, other⟩ := h
  exact ⟨c, tail ++ r, rfl, other⟩

theorem Joined.begun (h : Joined close pieces t) (each : ∀ piece ∈ pieces, Begun piece) :
    Begun t := by
  cases h <;> exact (each _ List.mem_cons_self).append _

theorem Joined.length_le (h : Joined close pieces t) : pieces.length ≤ t.length := by
  induction h with
  | last =>
    simp only [List.length_cons, List.length_append]
    omega
  | more _ _ _ ih =>
    simp only [List.length_cons, List.length_append]
    omega

theorem RawQuoted.begun (h : RawQuoted s) : Begun s := by
  cases h
  exact ⟨'"', _, rfl, by decide⟩

theorem LabelText.begun {named : List Char → Prop} (begun : ∀ name, named name → Begun name)
    (h : LabelText named s) : Begun s := by
  cases h with
  | colon spelled => exact (begun _ spelled).append _

theorem WholeText.exists_cons (h : WholeText w) :
    ∃ c tail, w = c :: tail ∧ c.isDigit = true := by
  cases h with
  | zero => exact ⟨'0', [], rfl, rfl⟩
  | digits _ digits => exact ⟨_, _, rfl, digits _ List.mem_cons_self⟩

theorem NumberText.begun (h : NumberText s) : Begun s := by
  cases h with
  | parts signed counted =>
    obtain ⟨c, tail, rfl, digit⟩ := counted.exists_cons
    rcases signed with rfl | rfl
    · exact ⟨c, _, rfl, not_mem_delimiters_of_isDigit digit⟩
    · exact ⟨'-', _, rfl, by decide⟩

theorem ValueText.begun (h : ValueText s) : Begun s := by
  cases h with
  | word known =>
    simp only [List.mem_cons, List.not_mem_nil, or_false] at known
    rcases known with rfl | rfl | rfl <;> exact ⟨_, _, rfl, by decide⟩
  | number h => exact h.begun
  | text h => exact h.begun
  | list | object => exact ⟨_, _, rfl, by decide⟩

theorem skipDigits_append (some : s ≠ []) (digits : Digits s)
    (stops : ∀ c ∈ r.head?, c.isDigit = false) : skipDigits (s ++ r) = .ok r := by
  rw [skipDigits, Number.spanDigits_append digits stops]
  obtain ⟨first, rest, rfl⟩ := List.exists_cons_of_ne_nil some
  rfl

theorem skipScale_append (h : ExponentText p e) (ends : EndsNumeral r) :
    skipScale (p ++ r) = .ok r := by
  cases h with
  | absent =>
    cases r with
    | nil => rfl
    | cons c r =>
      obtain ⟨-, -, lower, upper⟩ := ends c rfl
      simp [skipScale, lower, upper]
  | @present mark sign digits _ marked signed some size =>
    have skipped := skipDigits_append some size fun c first => (ends c first).1
    have exponent : skipExponent (sign ++ (digits ++ r)) = .ok r := by
      cases signed with
      | plus | minus => exact skipped
      | absent =>
        obtain ⟨first, rest, rfl⟩ := List.exists_cons_of_ne_nil some
        obtain ⟨minus, plus⟩ := Number.not_sign_of_isDigit (size first List.mem_cons_self)
        rw [List.nil_append, skipExponent]
        · exact skipped
        all_goals simp_all
    rw [List.cons_append, List.append_assoc]
    rcases marked with rfl | rfl <;> exact exponent

theorem FractionText.stops (h : FractionText f) (stops : ∀ c ∈ r.head?, c.isDigit = false) :
    ∀ c ∈ (f ++ r).head?, c.isDigit = false := by
  cases h with
  | absent => exact stops
  | present =>
    rintro c ⟨⟩
    rfl

theorem skipAfterWhole_append (placed : FractionText f) (scaled : ExponentText p e)
    (ends : EndsNumeral r) : skipAfterWhole (f ++ (p ++ r)) = .ok r := by
  have later := scaled.endsMantissa ends
  have skipped := skipScale_append scaled ends
  cases placed with
  | absent =>
    rw [List.nil_append, skipAfterWhole]
    · exact skipped
    · intro rest same
      rw [same] at later
      exact (later '.' rfl).2 rfl
  | present some digits =>
    rw [List.cons_append, skipAfterWhole,
      skipDigits_append some digits fun c first => (later c first).1]
    exact skipped

theorem skipNumeral_zero (stops : ∀ c ∈ s.head?, c.isDigit = false) :
    skipNumeral ('0' :: s) = skipAfterWhole s := by
  cases s with
  | nil => rfl
  | cons c s => rw [skipNumeral, if_neg (by simp [stops c rfl])]

theorem skipNumeral_append (counted : WholeText w) (placed : FractionText f)
    (scaled : ExponentText p e) (ends : EndsNumeral r) :
    skipNumeral (w ++ (f ++ (p ++ r))) = .ok r := by
  have stops := placed.stops fun c first => (scaled.endsMantissa ends c first).1
  have skipped := skipAfterWhole_append placed scaled ends
  cases counted with
  | zero => exact (skipNumeral_zero stops).trans skipped
  | digits leading digits =>
    have whole := skipDigits_append (List.cons_ne_nil _ _) digits stops
    rw [List.cons_append] at whole ⊢
    rw [skipNumeral, whole]
    · exact skipped
    · intro c rest same
      exact absurd (List.cons.inj same).1 leading

theorem skipValue_digit (digit : c.isDigit = true) (s : List Char) :
    skipValue (c :: s) = skipNumeral (c :: s) := by
  have word : word? c = none := by
    unfold word?
    split <;> simp_all
  rw [skipValue]
  unfold skipWithin
  split <;> simp_all

theorem skipValue_number (h : NumberText s) (ends : Ended r) : skipValue (s ++ r) = .ok r := by
  cases h with
  | parts signed counted placed scaled =>
    have skipped := skipNumeral_append counted placed scaled ends.endsNumeral
    obtain ⟨c, tail, rfl, digit⟩ := counted.exists_cons
    simp only [List.append_assoc]
    rcases signed with rfl | rfl
    · exact (skipValue_digit digit _).trans skipped
    · exact skipped

theorem skipValue_text (h : RawQuoted s) (r : List Char) : skipValue (s ++ r) = .ok r := by
  cases h with
  | spelled h =>
    rw [List.cons_append, List.append_assoc]
    exact skipText_append h r

/-- The size for what is inside brackets is beyond the length of that text. -/
theorem skipWithin_inside (mark : Char) (gaps : Text.skipGaps s = t) :
    t.length < (mark :: s).length ∧
      ∀ u, u.length < t.length + 1 → skipWithin (mark :: s).length u = skipValue u := by
  have shorter := Text.length_skipGaps_le s
  rw [gaps] at shorter
  have small : t.length < (mark :: s).length := by
    simp only [List.length_cons]
    omega
  exact ⟨small, fun u inside => skipWithin_eq_skipValue (by omega)⟩

theorem skipValue_list (gaps : Text.skipGaps s = t) (begun : Begun t) :
    skipValue ('[' :: s) = skipItems skipValue (t.length + 1) t := by
  obtain ⟨small, agree⟩ := skipWithin_inside '[' gaps
  obtain ⟨c, tail, rfl, other⟩ := begun
  rw [skipValue, skipWithin, gaps]
  split
  · contradiction
  · simp_all [delimiters]
  · exact skipItems_congr (skipWithin_shortens _) agree _ (Nat.lt_succ_self _) small
      (Nat.lt_succ_self _)

theorem skipValue_object (gaps : Text.skipGaps s = t) (begun : Begun t) :
    skipValue ('\x7b' :: s) = skipFields skipValue (t.length + 1) t := by
  obtain ⟨small, agree⟩ := skipWithin_inside '\x7b' gaps
  obtain ⟨c, tail, rfl, other⟩ := begun
  rw [skipValue, skipWithin, gaps]
  split
  · simp_all [delimiters]
  · exact skipFields_congr (skipWithin_shortens _) agree _ (Nat.lt_succ_self _) small
      (Nat.lt_succ_self _)

theorem skipItems_append (joined : Joined ']' pieces t) (begun : ∀ piece ∈ pieces, Begun piece)
    (each : ∀ piece ∈ pieces, ∀ r, Ended r → skip (piece ++ r) = .ok r)
    (enough : pieces.length ≤ bound) (r : List Char) : skipItems skip bound (t ++ r) = .ok r := by
  induction joined generalizing bound with
  | @last piece after ended =>
    obtain ⟨bound, rfl⟩ := Nat.exists_eq_add_of_le' enough
    have skipped := each piece List.mem_cons_self _ (ended_mark ']' ended (by decide) r)
    simp only [List.length_singleton, skipItems, List.append_assoc, List.cons_append,
      List.nil_append, skipped, bind, Except.bind, skipGaps_mark ']' ended (by decide)]
  | @more piece after before t pieces ended blank further ih =>
    obtain ⟨bound, rfl⟩ := Nat.exists_eq_add_of_le' enough
    obtain ⟨-, later⟩ := List.forall_mem_cons.mp begun
    obtain ⟨first, others⟩ := List.forall_mem_cons.mp each
    have skipped := first _ (ended_mark ',' ended (by decide) (before ++ (t ++ r)))
    have next := skipGaps_begun blank ((further.begun later).append r)
    simp only [List.length_cons, ← Nat.add_assoc, skipItems, List.append_assoc, List.cons_append,
      skipped, bind, Except.bind, skipGaps_mark ',' ended (by decide), next,
      ih later others (Nat.le_add_left _ _)]

/-- The name of a member is passed over, and the colon behind it. -/
theorem skipText_label (h : LabelText RawQuoted s) (begun : Begun t) :
    ∃ rest left value, s ++ t = '"' :: rest ∧ skipText rest = .ok left ∧
      Text.skipGaps left = ':' :: value ∧ Text.skipGaps value = t := by
  cases h with
  | @colon name after before spelled ended blank =>
    cases spelled with
    | @spelled pieces raw =>
      exact ⟨pieces.flatten ++ '"' :: (after ++ ':' :: (before ++ t)), _, before ++ t, by simp,
        skipText_append raw _, skipGaps_mark ':' ended (by decide) _, skipGaps_begun blank begun⟩

theorem skipFields_last (bound : Nat) (h : LabelText RawQuoted s) (begun : Begun t)
    (skipped : skip t = .ok p) (closing : Text.skipGaps p = '\x7d' :: r) :
    skipFields skip (bound + 1) (s ++ t) = .ok r := by
  obtain ⟨rest, left, value, split, name, colon, place⟩ := skipText_label h begun
  rw [split]
  simp only [skipFields, name, colon, place, skipped, closing, bind, Except.bind]

theorem skipFields_more (bound : Nat) (h : LabelText RawQuoted s) (begun : Begun t)
    (skipped : skip t = .ok p) (comma : Text.skipGaps p = ',' :: r) :
    skipFields skip (bound + 1) (s ++ t) = skipFields skip bound (Text.skipGaps r) := by
  obtain ⟨rest, left, value, split, name, colon, place⟩ := skipText_label h begun
  rw [split]
  simp only [skipFields, name, colon, place, skipped, comma, bind, Except.bind]

theorem RawMember.begun (m : RawMember) : Begun m.text :=
  (m.labelled.begun fun _ => RawQuoted.begun).append m.value

theorem Joined.begun_members (joined : Joined close (members.map RawMember.text) t) : Begun t :=
  joined.begun (List.forall_mem_map.mpr fun m _ => m.begun)

theorem skipFields_append (joined : Joined '\x7d' (members.map RawMember.text) t)
    (begun : ∀ m ∈ members, Begun m.value)
    (each : ∀ m ∈ members, ∀ r, Ended r → skip (m.value ++ r) = .ok r)
    (enough : members.length ≤ bound) (r : List Char) :
    skipFields skip bound (t ++ r) = .ok r := by
  induction members generalizing bound t with
  | nil => cases joined
  | cons m members ih =>
    obtain ⟨bound, rfl⟩ := Nat.exists_eq_add_of_le' enough
    obtain ⟨value, values⟩ := List.forall_mem_cons.mp begun
    obtain ⟨first, others⟩ := List.forall_mem_cons.mp each
    generalize texts : (m :: members).map RawMember.text = pieces at joined
    rw [List.length_cons, ← Nat.add_assoc]
    cases joined with
    | @last piece after ended =>
      obtain ⟨rfl, -⟩ := List.cons.inj texts
      have skipped := first _ (ended_mark '\x7d' ended (by decide) r)
      have step := skipFields_last (bound + members.length) m.labelled (value.append _) skipped
        (skipGaps_mark '\x7d' ended (by decide) r)
      simpa [RawMember.text] using step
    | @more piece after before t pieces ended blank further =>
      obtain ⟨rfl, rfl⟩ := List.cons.inj texts
      have skipped := first _ (ended_mark ',' ended (by decide) (before ++ (t ++ r)))
      have step := skipFields_more (bound + members.length) m.labelled (value.append _) skipped
        (skipGaps_mark ',' ended (by decide) _)
      rw [skipGaps_begun blank (further.begun_members.append r),
        ih further values others (Nat.le_add_left _ _)] at step
      simpa [RawMember.text] using step

/-- Every value of the grammar is passed over in front of a text where it may end. -/
theorem skipValue_append (h : ValueText s) (ends : Ended r) : skipValue (s ++ r) = .ok r := by
  induction h generalizing r with
  | word known =>
    simp only [List.mem_cons, List.not_mem_nil, or_false] at known
    rcases known with rfl | rfl | rfl <;> rfl
  | number h => exact skipValue_number h ends
  | text h => exact skipValue_text h r
  -- Behind an item or a member there is white space, a comma or the closing mark.
  | @list s items listed each ih =>
    cases listed with
    | @none gaps blank =>
      rw [List.cons_append, List.append_assoc, skipValue, skipWithin]
      simp only [List.cons_append, List.nil_append, skipGaps_mark ']' blank (by decide)]
    | @some before t _ opened joined =>
      have begun := joined.begun fun item listed => (each item listed).begun
      have first := skipGaps_begun opened (begun.append r)
      rw [← List.append_assoc] at first
      rw [List.cons_append, skipValue_list first (begun.append r)]
      have count := joined.length_le
      exact skipItems_append joined (fun item listed => (each item listed).begun)
        (fun item listed r ends => ih item listed ends)
        (by simp only [List.length_append]; omega) r
  | @object s members listed each ih =>
    generalize texts : members.map RawMember.text = pieces at listed
    cases listed with
    | @none gaps blank =>
      rw [List.cons_append, List.append_assoc, skipValue, skipWithin]
      simp only [List.cons_append, List.nil_append, skipGaps_mark '\x7d' blank (by decide)]
    | @some before t _ opened joined =>
      subst texts
      have begun := joined.begun_members.append r
      have first := skipGaps_begun opened begun
      rw [← List.append_assoc] at first
      rw [List.cons_append, skipValue_object first begun]
      have count := joined.length_le
      rw [List.length_map] at count
      exact skipFields_append joined (fun m listed => (each m listed).begun)
        (fun m listed r ends => ih m listed ends) (by simp only [List.length_append]; omega) r

end SolidStudy.Json
