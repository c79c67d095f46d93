import Mathlib
import SolidStudy.Proofs.Directive.Argument
import SolidStudy.Proofs.Number.Form
import SolidStudy.Proofs.Text.Pieces
import SolidStudy.Report

/-! The rows of a report as words. Names and numbers have no white space, so a row is known from
its words, and these tell apart what may be missing from it. -/
namespace SolidStudy

open Text (IsWord Unspaced)

theorem Number.NumeralChar.not_isBlank {c : Char} (h : NumeralChar c) : Text.isBlank c = false := by
  rcases h with digit | listed
  · have range : '0' ≤ c ∧ c ≤ '9' := by simpa [Char.isDigit, Char.le_def] using digit
    exact Text.isBlank_of_visible range (by decide) (by decide)
  · simp only [List.mem_cons, List.not_mem_nil, or_false] at listed
    rcases listed with rfl | rfl | rfl | rfl | rfl <;> decide

theorem PlainName.unspaced {name : String} (h : PlainName name) : Unspaced name.toList := by
  intro c listed
  rcases h.2 c listed with upper | lower | digit | rfl
  · exact Text.isBlank_of_visible upper (by decide) (by decide)
  · exact Text.isBlank_of_visible lower (by decide) (by decide)
  · exact Text.isBlank_of_visible digit (by decide) (by decide)
  · decide

theorem unspaced_digits (n : Nat) : Unspaced (Nat.toDigits 10 n) := fun _ listed =>
  Number.NumeralChar.not_isBlank (.inl (Nat.isDigit_of_mem_toDigits (by omega) (by omega) listed))

namespace Report

theorem number_injective : Function.Injective number := by
  intro x y same
  rw [number, number, String.ofList_inj] at same
  exact Number.write_injective numberForm (by decide) same

theorem unspaced_number (x : Float) : Unspaced (number x).toList := by
  rw [number, String.toList_ofList]
  intro c listed
  rcases Number.chars_write numberForm x c listed with numeral | listed | listed
  · exact numeral.not_isBlank
  · exact (by decide : Unspaced ['i', 'n', 'f']) c listed
  · exact (by decide : Unspaced numberForm.nan) c listed

end Report

def SolidSize.words : Option SolidSize → List (List Char)
  | none => []
  | some size => ['[' :: Nat.toDigits 10 size.vertices, "vertices,".toList,
      Nat.toDigits 10 size.faces, "faces]".toList]

def MeshRow.limitWords : Option Float → List (List Char)
  | none => []
  | some volume => ["max_tet_volume=".toList ++ (Report.number volume).toList]

def MeshRow.words (row : MeshRow) : List (List Char) :=
  row.name.toList :: (limitWords row.volumeLimit ++ SolidSize.words row.solid)

def SelectionRow.words (row : SelectionRow) : List (List Char) :=
  Nat.toDigits 10 row.bit :: row.kind.name.toList :: row.name.toList :: SolidSize.words row.mask

def LoadRow.words (row : LoadRow) : List (List Char) :=
  [row.name.toList, "on".toList, row.kind.name.toList, row.target.toList ++ [':'],
    '(' :: (Report.number row.force.x).toList ++ [','], (Report.number row.force.y).toList ++ [','],
    (Report.number row.force.z).toList ++ [')']]

theorem SolidSize.toList_suffix (size : Option SolidSize) :
    (suffix size).toList = Text.spaced (words size) := by
  cases size <;> simp [suffix, words, Text.spaced, toString]

theorem MeshRow.toList_line (row : MeshRow) :
    row.line.toList = ' ' :: Text.spaced row.words := by
  obtain ⟨name, limit, solid⟩ := row
  cases limit <;>
    simp [line, words, limitWords, Text.spaced, SolidSize.toList_suffix, toString]

theorem LoadRow.toList_line (row : LoadRow) :
    row.line.toList = ' ' :: Text.spaced row.words := by
  simp [line, words, Text.spaced, toString]

theorem SelectionRow.toList_line (row : SelectionRow) :
    row.line.toList = ' ' :: ' ' ::
      (List.replicate (2 - (Nat.toDigits 10 row.bit).length) ' ' ++
        (Nat.toDigits 10 row.bit ++ ' ' :: (row.kind.name.toList ++
          (List.replicate (8 - row.kind.name.length) ' ' ++ ' ' ::
            (row.name.toList ++ Text.spaced (SolidSize.words row.mask)))))) := by
  have width : row.bit.repr.length = (Nat.toDigits 10 row.bit).length := by
    rw [Nat.repr, String.length_ofList]
  simp [line, Report.padStart, Report.padEnd, Text.spaced, SolidSize.toList_suffix, toString, width]

theorem isWord_digits (n : Nat) : IsWord (Nat.toDigits 10 n) :=
  ⟨Nat.toDigits_ne_nil, unspaced_digits n⟩

theorem PlainName.isWord {name : String} (h : PlainName name) : IsWord name.toList :=
  ⟨by simpa using h.1, h.unspaced⟩

theorem ObjectKind.isWord_name (kind : ObjectKind) : IsWord kind.name.toList := by
  cases kind <;> decide

theorem SolidSize.isWord_words (size : Option SolidSize) : ∀ w ∈ words size, IsWord w := by
  cases size with
  | none => simp [words]
  | some size =>
    have front : IsWord ('[' :: Nat.toDigits 10 size.vertices) :=
      IsWord.append (s := ['[']) (by decide) (unspaced_digits _)
    simp only [words, List.forall_mem_cons, List.not_mem_nil, false_imp_iff, implies_true, and_true]
    exact ⟨front, by decide, isWord_digits _, by decide⟩

theorem MeshRow.isWord_words {row : MeshRow} (plain : PlainName row.name) :
    ∀ w ∈ row.words, IsWord w := by
  have limit : ∀ w ∈ limitWords row.volumeLimit, IsWord w := by
    cases row.volumeLimit with
    | none => simp [limitWords]
    | some volume =>
      have word : IsWord "max_tet_volume=".toList := by decide
      exact List.forall_mem_singleton.mpr (word.append (Report.unspaced_number volume))
  exact List.forall_mem_cons.mpr
    ⟨plain.isWord, List.forall_mem_append.mpr ⟨limit, SolidSize.isWord_words row.solid⟩⟩

theorem LoadRow.isWord_words {row : LoadRow} (plain : PlainName row.name)
    (target : PlainName row.target) : ∀ w ∈ row.words, IsWord w := by
  have coordinate (x : Float) {mark : List Char} (hm : IsWord mark) :
      IsWord ((Report.number x).toList ++ mark) :=
    ⟨by simp [hm.1], by simp [hm.2, Report.unspaced_number]⟩
  have first : IsWord ('(' :: ((Report.number row.force.x).toList ++ [','])) :=
    IsWord.append (s := ['(']) (by decide) (coordinate row.force.x (by decide)).2
  simp only [words, List.cons_append, List.forall_mem_cons, List.not_mem_nil, false_imp_iff,
    implies_true, and_true]
  exact ⟨plain.isWord, by decide, row.kind.isWord_name, target.isWord.append (by decide), first,
    coordinate row.force.y (by decide), coordinate row.force.z (by decide)⟩

theorem MeshRow.words_line {row : MeshRow} (plain : PlainName row.name) :
    Text.words row.line.toList = row.words := by
  rw [toList_line, ← List.singleton_append, Text.words_append_spaced (isWord_words plain)]
  rfl

theorem LoadRow.words_line {row : LoadRow} (plain : PlainName row.name)
    (target : PlainName row.target) : Text.words row.line.toList = row.words := by
  rw [toList_line, ← List.singleton_append, Text.words_append_spaced (isWord_words plain target)]
  rfl

theorem SelectionRow.words_line {row : SelectionRow} (plain : PlainName row.name) :
    Text.words row.line.toList = row.words := by
  have blank : Text.isBlank ' ' = true := by decide
  rw [toList_line, Text.words_cons_blank blank, Text.words_cons_blank blank, Text.words_replicate,
    Text.words_append_blank blank, Text.words_append_replicate,
    Text.words_append_spaced (SolidSize.isWord_words row.mask),
    Text.words_of_isWord (isWord_digits _), Text.words_of_isWord row.kind.isWord_name,
    Text.words_of_isWord plain.isWord]
  rfl

theorem MeshRow.feed_not_mem_line {row : MeshRow} (plain : PlainName row.name) :
    '\n' ∉ row.line.toList := by
  rw [toList_line, List.mem_cons, not_or]
  exact ⟨by decide, Text.feed_not_mem_spaced (isWord_words plain)⟩

theorem LoadRow.feed_not_mem_line {row : LoadRow}
    (plain : PlainName row.name ∧ PlainName row.target) :
    '\n' ∉ row.line.toList := by
  rw [toList_line, List.mem_cons, not_or]
  exact ⟨by decide, Text.feed_not_mem_spaced (isWord_words plain.1 plain.2)⟩

theorem SelectionRow.feed_not_mem_line {row : SelectionRow} (plain : PlainName row.name) :
    '\n' ∉ row.line.toList := by
  have sized := Text.feed_not_mem_spaced (SolidSize.isWord_words row.mask)
  rw [toList_line]
  simp [(unspaced_digits row.bit).feed_not_mem, row.kind.isWord_name.2.feed_not_mem,
    plain.unspaced.feed_not_mem, sized]

theorem toDigits_injective : Function.Injective (Nat.toDigits 10) := by
  intro m n same
  have read := congrArg (Nat.ofDigitChars 10 · 0) same
  simpa only [Nat.ofDigitChars_ten_toDigits] using read

theorem Progress.name_injective : Function.Injective Progress.name := by
  intro progress other same
  cases progress <;> cases other <;> simp [name] at same ⊢

theorem ObjectKind.name_injective : Function.Injective name := by
  intro kind other same
  cases kind <;> cases other <;> simp [name] at same ⊢

theorem SolidSize.words_injective : Function.Injective words := by
  intro size other same
  rcases size with _ | ⟨vertices, faces⟩ <;> rcases other with _ | ⟨vertices', faces'⟩
  · rfl
  · simp [words] at same
  · simp [words] at same
  · simpa [words, toDigits_injective.eq_iff] using same

theorem MeshRow.words_injective : Function.Injective words := by
  rintro ⟨name, limit, solid⟩ ⟨name', limit', solid'⟩ same
  obtain ⟨named, rest⟩ := List.cons.inj same
  -- The first letter tells a limit from the size of a solid.
  rcases limit with _ | limit <;> rcases limit' with _ | limit'
  · have sized := SolidSize.words_injective rest
    simp_all [String.toList_inj]
  · rcases solid with _ | solid <;> simp [limitWords, SolidSize.words] at rest
  · rcases solid' with _ | solid' <;> simp [limitWords, SolidSize.words] at rest
  · obtain ⟨limited, rest⟩ := List.cons.inj rest
    have sized := SolidSize.words_injective rest
    have bound := Report.number_injective (String.toList_inj.mp (List.append_cancel_left limited))
    simp_all [String.toList_inj]

theorem SelectionRow.words_injective : Function.Injective words := by
  rintro ⟨bit, kind, name, mask⟩ ⟨bit', kind', name', mask'⟩ same
  simp only [words, List.cons.injEq, toDigits_injective.eq_iff, String.toList_inj,
    ObjectKind.name_injective.eq_iff, SolidSize.words_injective.eq_iff] at same
  simp [same]

theorem LoadRow.words_injective : Function.Injective words := by
  rintro ⟨name, target, kind, ⟨x, y, z⟩⟩ ⟨name', target', kind', ⟨x', y', z'⟩⟩ same
  simp only [words, List.cons.injEq, List.append_cancel_right_eq, String.toList_inj,
    ObjectKind.name_injective.eq_iff, Report.number_injective.eq_iff, true_and, and_true] at same
  simp [same]

theorem MeshRow.line_inj {row other : MeshRow} (plain : PlainName row.name)
    (plain' : PlainName other.name) (same : row.line = other.line) : row = other := by
  apply words_injective
  rw [← words_line plain, ← words_line plain', same]

theorem SelectionRow.line_inj {row other : SelectionRow} (plain : PlainName row.name)
    (plain' : PlainName other.name) (same : row.line = other.line) : row = other := by
  apply words_injective
  rw [← words_line plain, ← words_line plain', same]

theorem LoadRow.line_inj {row other : LoadRow} (plain : PlainName row.name ∧ PlainName row.target)
    (plain' : PlainName other.name ∧ PlainName other.target) (same : row.line = other.line) :
    row = other := by
  apply words_injective
  rw [← words_line plain.1 plain.2, ← words_line plain'.1 plain'.2, same]

end SolidStudy
