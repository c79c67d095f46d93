import Mathlib
import SolidStudy.Proofs.Number.Shortest
import SolidStudy.Proofs.Value.Recognition

/-! Reading a written value gives it back, whatever stands behind it. Equality of values is
equality of their structure; two doubles are equal if their bits are, where all NaN are one. -/
namespace SolidStudy

namespace Value

/-- Induction on values, with all items of a vector at once. -/
@[elab_as_elim]
theorem induction_items {motive : Value → Prop} (number : ∀ x, motive (.number x))
    (text : ∀ s, motive (.text s))
    (vector : ∀ items, (∀ item ∈ items, motive item) → motive (.vector items)) :
    ∀ v, motive v
  | .number x => number x
  | .text s => text s
  | .vector items => vector items fun item _ => induction_items number text vector item

theorem mem_escapes_of_escapeLetter {c letter : Char} (h : escapeLetter c = some letter) :
    (letter, c) ∈ escapes := by
  unfold escapeLetter at h
  split at h <;> cases h <;> decide

theorem bodyText_write (chars : List Char) : BodyText (writeEscaped chars) chars := by
  induction chars with
  | nil => exact .nil
  | cons c chars ih =>
    rw [writeEscaped]
    cases mark : escapeLetter c with
    | some letter => exact .escape (mem_escapes_of_escapeLetter mark) ih
    | none =>
      have quote : c ≠ '"' := by rintro rfl; simp [escapeLetter] at mark
      have slash : c ≠ '\\' := by rintro rfl; simp [escapeLetter] at mark
      exact .plain quote slash ih

theorem numberText_write (x : Float) : NumberText (write (.number x)) x := by
  rw [write]
  by_cases nan : x.isNaN = true
  · rw [Number.eq_notANumber nan]
    exact .notANumber rfl
  · have number : x.isNaN = false := by simpa using nan
    by_cases infinite : Number.rankOf x = Number.infinityRank
    · have whole := Number.ofRank_rankOf x
      rw [Number.Form.write, number, if_neg Bool.false_ne_true, if_pos infinite]
      rw [infinite] at whole
      cases sign : Number.isNegative x with
      | true => rw [sign] at whole; rw [← whole]; exact .negativeInfinity
      | false => rw [sign] at whole; rw [← whole]; exact .infinity rfl
    · obtain ⟨numeral, written, value⟩ := Number.numeralText_write Number.plainForm number infinite
      have text := NumberText.numeral written
      rwa [value] at text

theorem furtherText_write {items : List Value} (hi : ∀ item ∈ items, ValueText item.write item) :
    FurtherText (writeFurther items) items := by
  induction items with
  | nil => exact .none
  | cons item items ih =>
    have comma : Gaps [] := by simp [Gaps]
    have space : Gaps [' '] := by simp [Gaps]
    exact .some comma space (hi item (by simp)) (ih fun other h => hi other (by simp [h]))

theorem itemsText_write {items : List Value} (hi : ∀ item ∈ items, ValueText item.write item) :
    ItemsText (writeItems items) items := by
  cases items with
  | nil => exact .none
  | cons item items =>
    exact .some (hi item (by simp)) (furtherText_write fun other h => hi other (by simp [h]))

theorem valueText_write (v : Value) : ValueText v.write v := by
  induction v using induction_items with
  | number x => exact .number (numberText_write x)
  | text s =>
    have body := ValueText.text (bodyText_write s.toList)
    rwa [String.ofList_toList] at body
  | vector items ih =>
    have nothing : Gaps [] := by simp [Gaps]
    exact .vector nothing (itemsText_write ih) nothing

theorem read_write (v : Value) {r : List Char} (hr : Separated r) :
    read (write v ++ r) = .ok (v, r) := by
  rw [read, readFront_append (valueText_write v) hr]

theorem readWhole_write (v : Value) : readWhole (write v) = .ok v := by
  have nothing : Separated [] := by simp [Separated]
  have front := readFront_append (valueText_write v) nothing
  rw [List.append_nil] at front
  rw [readWhole, skipGaps_of_readFront front, front]
  rfl

end Value

theorem Statement.read_write (s : Statement) : Statement.read s.write = .ok s := by
  have nothing : Value.Gaps [] := by simp [Value.Gaps]
  have written := Value.itemsText_write fun item (_ : item ∈ s) => item.valueText_write
  have text := StatementText.padded nothing written nothing
  rw [List.append_nil] at text
  exact Statement.read_of_text text

/-- Reading undoes writing: in front of whatever separates values, for a whole text that is one
value, and for a whole statement. -/
theorem read_render :
    (∀ (v : Value) (r : List Char), Separated r →
      Value.read (v.render.toList ++ r) = .ok (v, r)) ∧
    (∀ v : Value, Value.readWhole v.render.toList = .ok v) ∧
    ∀ s : Statement, Statement.read s.render.toList = .ok s := by
  refine ⟨fun v r hr => ?_, fun v => ?_, fun s => ?_⟩
  · rw [Value.render, String.toList_ofList]
    exact v.read_write hr
  · rw [Value.render, String.toList_ofList]
    exact v.readWhole_write
  · rw [Statement.render, String.toList_ofList]
    exact s.read_write

/-- A vector of a negative zero, a text with three escapes and an empty vector, inside another. -/
theorem read_render_nested :
    Separated ", 1]".toList ∧
      Value.read "[-0, \"\\\"\\\\\\n\", []], 1]".toList =
        .ok (.vector [.number (Number.ofRank true 0), .text "\"\\\n", .vector []],
          ", 1]".toList) := by
  have separated : Separated ", 1]".toList := by simp [Separated]
  refine ⟨separated, ?_⟩
  have text : "[-0, \"\\\"\\\\\\n\", []], 1]".toList =
      (Value.vector [.number (Number.ofRank true 0), .text "\"\\\n", .vector []]).render.toList ++
        ", 1]".toList := by decide
  rw [text]
  exact read_render.1 _ _ separated

end SolidStudy
