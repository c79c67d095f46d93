import Mathlib
import SolidStudy.Invocation
import SolidStudy.Proofs.Text.Pieces

/-! Entries of a directory. A plain name, joined to the path of a directory, gives a path of one
more part, whatever the directory is; different names give different paths. -/
namespace SolidStudy.Path

variable {name other directory : String}

theorem parts_eq (path : String) : parts path =
    (path.toList.splitOnP (· = '/')).filter fun part => part ≠ [] && part ≠ ['.'] := by
  rw [parts, Text.splitAt_eq_splitOnP]

theorem not_slash_of_mem {chars : List Char} (whole : '/' ∉ chars) :
    ∀ c ∈ chars, decide (c = '/') = false :=
  fun _ listed => decide_eq_false (ne_of_mem_of_not_mem listed whole)

theorem parts_of_entry (whole : '/' ∉ name.toList) (present : name ≠ "") (dot : name ≠ ".") :
    parts name = [name.toList] := by
  have letters : name.toList ≠ [] := by simpa using present
  have letter : name.toList ≠ ['.'] := fun same =>
    dot (String.toList_inj.mp (same.trans String.toList_ofList.symm))
  rw [parts_eq, List.splitOnP_eq_singleton (not_slash_of_mem whole)]
  simp [letters, letter]

theorem entryName?_eq_self_iff (whole : '/' ∉ name.toList) (present : name ≠ "") :
    entryName? name = some name ↔ name ≠ "." ∧ name ≠ ".." := by
  by_cases dot : name = "."
  · subst dot
    decide
  · rw [entryName?, parts_of_entry whole present dot]
    by_cases dots : name = ".."
    · subst dots
      decide
    · have letters : name.toList ≠ ['.', '.'] := fun same =>
        dots (String.toList_inj.mp (same.trans String.toList_ofList.symm))
      simp [letters, dot, dots]

/-- A plain name has letters but no slash of either kind, and does not stand for a directory that
is there anyway. -/
theorem isPlainName_iff : isPlainName name = true ↔
    name ≠ "" ∧ name ≠ "." ∧ name ≠ ".." ∧ '/' ∉ name.toList ∧ '\\' ∉ name.toList := by
  have slashes : name.toList.any (fun c => c = '/' || c = '\\') = false ↔
      '/' ∉ name.toList ∧ '\\' ∉ name.toList := by
    rw [List.any_eq_false]
    constructor
    · intro none
      exact ⟨fun slash => none _ slash (by decide), fun slash => none _ slash (by decide)⟩
    · rintro ⟨slash, back⟩ c listed
      simp [ne_of_mem_of_not_mem listed slash, ne_of_mem_of_not_mem listed back]
  rw [isPlainName]
  simp only [Bool.and_eq_true, decide_eq_true_eq, Bool.not_eq_true', slashes]
  constructor
  · rintro ⟨⟨present, slash, back⟩, same⟩
    obtain ⟨dot, dots⟩ := (entryName?_eq_self_iff slash present).mp same
    exact ⟨present, dot, dots, slash, back⟩
  · rintro ⟨present, dot, dots, slash, back⟩
    exact ⟨⟨present, slash, back⟩, (entryName?_eq_self_iff slash present).mpr ⟨dot, dots⟩⟩

/-- A slash divides the parts before it from those behind it. -/
theorem parts_of_slash {path : String} {front back : List Char}
    (h : path.toList = front ++ '/' :: back) :
    parts path = parts (String.ofList front) ++ parts (String.ofList back) := by
  simp only [parts_eq, h, String.toList_ofList]
  rw [List.splitOnP_append_cons front back (by decide), List.filter_append]

theorem isAbsolute_of_entry (whole : '/' ∉ name.toList) : isAbsolute name = false :=
  decide_eq_false fun slash => whole (List.mem_of_mem_head? slash)

/-- The path of a directory up to where the name of an entry begins. -/
def inside (directory : String) : String :=
  if directory = "" ∨ directory.toList.getLast? = some '/' then directory else directory ++ "/"

theorem join_eq (whole : '/' ∉ name.toList) : join directory name = inside directory ++ name := by
  rw [join, isAbsolute_of_entry whole, inside]
  by_cases closed : directory = "" ∨ directory.toList.getLast? = some '/' <;> simp [closed]

theorem join_injective (whole : '/' ∉ name.toList) (whole' : '/' ∉ other.toList)
    (same : join directory name = join directory other) : name = other := by
  rw [join_eq whole, join_eq whole'] at same
  exact (String.append_right_inj _).mp same

theorem parts_join (plain : isPlainName name = true) :
    parts (join directory name) = parts directory ++ [name.toList] := by
  obtain ⟨present, dot, -, whole, -⟩ := isPlainName_iff.mp plain
  have entry := parts_of_entry whole present dot
  rw [join_eq whole, inside]
  by_cases empty : directory = ""
  · subst empty
    rw [if_pos (.inl rfl), String.empty_append, entry]
    rfl
  · by_cases closed : directory.toList.getLast? = some '/'
    · obtain ⟨front, split⟩ := List.getLast?_eq_some_iff.mp closed
      have whole : (directory ++ name).toList = front ++ '/' :: name.toList := by
        simp [split]
      rw [if_pos (.inr closed), parts_of_slash whole, parts_of_slash split, String.ofList_toList,
        entry, List.append_assoc]
      rfl
    · have whole : (directory ++ "/" ++ name).toList = directory.toList ++ '/' :: name.toList := by
        simp
      rw [if_neg (by simp [empty, closed]), parts_of_slash whole, String.ofList_toList,
        String.ofList_toList, entry]

theorem isAbsolute_join (whole : '/' ∉ name.toList) :
    isAbsolute (join directory name) = isAbsolute directory := by
  rw [join_eq whole]
  by_cases empty : directory = ""
  · subst empty
    rw [inside, if_pos (.inl rfl), String.empty_append, isAbsolute_of_entry whole]
    rfl
  · have letters : directory.toList ≠ [] := by simpa using empty
    obtain ⟨first, rest, split⟩ := List.exists_cons_of_ne_nil letters
    have begins : ∃ later, (inside directory ++ name).toList = first :: later := by
      rw [inside]
      split_ifs <;> simp [split]
    obtain ⟨later, begins⟩ := begins
    rw [isAbsolute, isAbsolute, begins, split]
    rfl

end SolidStudy.Path
