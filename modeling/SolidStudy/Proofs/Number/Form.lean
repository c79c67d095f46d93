import Mathlib
import SolidStudy.Proofs.Number.Shortest
import SolidStudy.Proofs.Number.Word

/-! Written doubles as words. In a form that calls no number by its common name, every double is
written as a word that is read as that double, so no two are written alike. -/
namespace SolidStudy.Number

variable (form : Form) {x : Float}

theorem write_of_isNaN (h : x.isNaN = true) : form.write x = form.nan :=
  if_pos h

theorem write_of_infinite (hn : x.isNaN = false) (hi : rankOf x = infinityRank) :
    form.write x = (if isNegative x then ['-'] else []) ++ ['i', 'n', 'f'] := by
  rw [Form.write, hn, if_neg Bool.false_ne_true, if_pos hi]

theorem doubleText_write (named : form.nan.map Char.toLower = "nan".toList) (x : Float) :
    DoubleText (form.write x) x := by
  cases hn : x.isNaN with
  | true =>
    rw [write_of_isNaN form hn, eq_notANumber hn]
    have word : DoubleText ([] ++ form.nan) notANumber := .name .absent (.notANumber named)
    exact word
  | false =>
    by_cases hi : rankOf x = infinityRank
    · have signed : SignText (if isNegative x then ['-'] else []) (isNegative x) := by
        cases isNegative x with
        | true => exact .minus
        | false => exact .absent
      have named : NameText ['i', 'n', 'f'] (isNegative x) (ofRank (isNegative x) infinityRank) :=
        .infinity (by decide)
      have word := DoubleText.name signed named
      rwa [← hi, ofRank_rankOf, ← write_of_infinite form hn hi] at word
    · obtain ⟨numeral, written, value⟩ := numeralText_write form hn hi
      have word := DoubleText.numeral written
      rwa [value] at word

theorem readDouble_write (named : form.nan.map Char.toLower = "nan".toList) (x : Float) :
    readDouble (form.write x) = some x :=
  readDouble_eq_some_iff.mpr (doubleText_write form named x)

theorem write_injective (named : form.nan.map Char.toLower = "nan".toList) :
    Function.Injective form.write := by
  intro x y same
  have read := readDouble_write form named x
  rw [same, readDouble_write form named y, Option.some.injEq] at read
  exact read.symm

theorem chars_write (x : Float) :
    ∀ c ∈ form.write x, NumeralChar c ∨ c ∈ ['i', 'n', 'f'] ∨ c ∈ form.nan := by
  cases hn : x.isNaN with
  | true =>
    rw [write_of_isNaN form hn]
    exact fun c listed => .inr (.inr listed)
  | false =>
    by_cases hi : rankOf x = infinityRank
    · rw [write_of_infinite form hn hi]
      intro c listed
      rcases List.mem_append.mp listed with sign | listed
      · split_ifs at sign
        · rw [List.mem_singleton.mp sign]
          exact .inl (by decide)
        · contradiction
      · exact .inr (.inl listed)
    · obtain ⟨numeral, written, -⟩ := numeralText_write form hn hi
      exact fun c listed => .inl (written.chars c listed)

end SolidStudy.Number
