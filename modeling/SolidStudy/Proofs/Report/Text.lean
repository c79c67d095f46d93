import Mathlib
import SolidStudy.Proofs.Report.Rows

/-! The text of a report tells everything about it. Rows are indented and headings are not, so the
sections of a text are found again, and in each section the rows. -/
namespace SolidStudy

open Text (IsWord)

namespace UnitSystem

variable {units other : UnitSystem}

theorem isWord_of_known {unit : PhysicalUnit} (h : unit ∈ PhysicalUnit.known) :
    IsWord unit.name.toList := by
  have all : ∀ unit ∈ PhysicalUnit.known, IsWord unit.name.toList := by decide
  exact all unit h

theorem toList_render (units : UnitSystem) : units.render.toList =
    units.length.name.toList ++ [','] ++ Text.spaced [units.mass.name.toList ++ [','],
      units.time.name.toList] := by
  simp [render, Text.spaced, toString]

theorem Known.isWord (h : units.Known) : IsWord (units.length.name.toList ++ [',']) ∧
    ∀ w ∈ [units.mass.name.toList ++ [','], units.time.name.toList], IsWord w := by
  have comma : Text.Unspaced [','] := by decide
  refine ⟨(isWord_of_known h.length.1).append comma, ?_⟩
  simp only [List.forall_mem_cons, List.not_mem_nil, false_imp_iff, implies_true, and_true]
  exact ⟨(isWord_of_known h.mass.1).append comma, isWord_of_known h.time.1⟩

theorem words_render (h : units.Known) : Text.words units.render.toList =
    [units.length.name.toList ++ [','], units.mass.name.toList ++ [','],
      units.time.name.toList] := by
  rw [toList_render, Text.words_append_spaced h.isWord.2, Text.words_of_isWord h.isWord.1]
  rfl

theorem render_inj (h : units.Known) (h' : other.Known) (same : units.render = other.render) :
    units = other := by
  have words := words_render h
  rw [same, words_render h'] at words
  simp only [List.cons.injEq, List.append_cancel_right_eq, String.toList_inj, and_true] at words
  obtain ⟨length, mass, time⟩ := words
  cases units
  cases other
  rw [mk.injEq]
  exact ⟨PhysicalUnit.known_name_injective h.length.1 h'.length.1 length.symm,
    PhysicalUnit.known_name_injective h.mass.1 h'.mass.1 mass.symm,
    PhysicalUnit.known_name_injective h.time.1 h'.time.1 time.symm⟩

theorem render_ne_none (h : units.Known) : units.render ≠ "(none)" := by
  intro same
  have words := words_render h
  rw [same, Text.words_of_isWord (by decide)] at words
  simp at words

end UnitSystem

/-- A path may hold parentheses, but a progress does not. -/
theorem title_inj {source other : String} {progress reached : Progress}
    (same : s!"Project: {source} ({progress.name})" = s!"Project: {other} ({reached.name})") :
    source = other ∧ progress = reached := by
  have backwards (source : String) (progress : Progress) :
      (s!"Project: {source} ({progress.name})").toList.reverse =
        (')' :: progress.name.toList.reverse) ++
          '(' :: ' ' :: (source.toList.reverse ++ "Project: ".toList.reverse) := by
    simp [toString]
  have closed (progress : Progress) :
      ∀ c ∈ ')' :: progress.name.toList.reverse, decide (c ≠ '(') = true := by
    cases progress <;> simp [Progress.name]
  have reversed := congrArg (fun s => s.toList.reverse) same
  simp only [backwards] at reversed
  obtain ⟨named, rest⟩ := Text.append_inj_of_head (closed progress) (closed reached)
    (by simp) (by simp) reversed
  simp only [List.cons.injEq, List.reverse_inj, String.toList_inj, true_and,
    List.append_cancel_right_eq] at named rest
  exact ⟨rest, Progress.name_injective named⟩

theorem eq_of_map_eq {α β : Type} {f : α → β} {l l' : List α}
    (inj : ∀ a ∈ l, ∀ b ∈ l', f a = f b → a = b) (same : l.map f = l'.map f) : l = l' := by
  induction l generalizing l' with
  | nil => exact (List.map_eq_nil_iff.mp same.symm).symm
  | cons a l ih =>
    obtain ⟨b, rest, rfl, first, others⟩ := List.map_eq_cons_iff.mp same.symm
    rw [inj a List.mem_cons_self b List.mem_cons_self first.symm,
      ih (fun c hc d hd => inj c (List.mem_cons_of_mem _ hc) d (List.mem_cons_of_mem _ hd))
        others.symm]

namespace Report

variable {r r' : Report}

/-- What a report must be like to be found again in its text. -/
structure Legible (r : Report) : Prop where
  source : '\n' ∉ r.source.toList
  units : ∀ shown, r.units = some shown → ∃ units : UnitSystem, units.Known ∧ shown = units.render
  deck : ∀ line ∈ r.deck, '\n' ∉ line.toList
  meshes : ∀ row ∈ r.meshes, PlainName row.name
  selections : ∀ row ∈ r.selections, PlainName row.name
  loads : ∀ row ∈ r.loads, PlainName row.name ∧ PlainName row.target
  scale : r.scale = 0 ∨ r.scale > 0

theorem feed_not_mem_append {first second : String} (h : '\n' ∉ first.toList)
    (h' : '\n' ∉ second.toList) : '\n' ∉ (first ++ second).toList := by
  simp [h, h']

theorem Legible.units_whole (h : r.Legible) :
    '\n' ∉ ("Units: " ++ r.units.getD "(none)").toList := by
  refine feed_not_mem_append (by decide) ?_
  cases given : r.units with
  | none => decide
  | some shown =>
    obtain ⟨units, known, rfl⟩ := h.units shown given
    rw [Option.getD_some, UnitSystem.toList_render, List.mem_append, not_or]
    exact ⟨known.isWord.1.2.feed_not_mem, Text.feed_not_mem_spaced known.isWord.2⟩

def scaleLines (scale : Float) : List String :=
  if scale > 0 then [s!"Approximate scale: {number scale}"] else []

theorem lines_eq (r : Report) : r.lines =
    s!"Project: {r.source} ({r.progress.name})" :: ("Units: " ++ r.units.getD "(none)") ::
      "Analysis:" :: (r.deck.map ("  " ++ ·) ++
        "Meshes:" :: (r.meshes.map MeshRow.line ++
          "Selections:" :: (r.selections.map SelectionRow.line ++
            "Loads:" :: (r.loads.map LoadRow.line ++ scaleLines r.scale)))) := by
  simp [lines, scaleLines]

theorem Legible.whole (h : r.Legible) : ∀ line ∈ r.lines, '\n' ∉ line.toList := by
  have rows {α : Type} {row : α → String} {l : List α} {P : α → Prop} (all : ∀ a ∈ l, P a)
      (each : ∀ a, P a → '\n' ∉ (row a).toList) : ∀ line ∈ l.map row, '\n' ∉ line.toList :=
    List.forall_mem_map.mpr fun a listed => each a (all a listed)
  have title : '\n' ∉ (s!"Project: {r.source} ({r.progress.name})").toList := by
    have named : '\n' ∉ r.progress.name.toList := by cases r.progress <;> decide
    simp [toString, h.source, named]
  have scale : ∀ line ∈ scaleLines r.scale, '\n' ∉ line.toList := by
    unfold scaleLines
    split_ifs
    · simp [toString, (unspaced_number r.scale).feed_not_mem]
    · simp
  have indent : '\n' ∉ "  ".toList := by decide
  have deck := rows h.deck fun _ => feed_not_mem_append indent
  have meshes := rows h.meshes fun _ => MeshRow.feed_not_mem_line
  have selections := rows h.selections fun _ => SelectionRow.feed_not_mem_line
  have loads := rows h.loads fun _ => LoadRow.feed_not_mem_line
  rw [lines_eq]
  simp only [List.forall_mem_append, List.forall_mem_cons]
  exact ⟨title, h.units_whole, by decide, deck, by decide, meshes, by decide, selections,
    by decide, loads, scale⟩

theorem lines_join {lines : List String} (whole : ∀ line ∈ lines, '\n' ∉ line.toList) :
    Text.lines (String.join (lines.map (· ++ "\n"))).toList = lines.map String.toList ++ [[]] := by
  induction lines with
  | nil => rfl
  | cons line lines ih =>
    have further := ih fun other listed => whole other (List.mem_cons_of_mem _ listed)
    have text : (String.join ((line :: lines).map (· ++ "\n"))).toList =
        line.toList ++ '\n' :: (String.join (lines.map (· ++ "\n"))).toList := by
      simp
    rw [text, Text.lines_append (whole line List.mem_cons_self), further]
    rfl

theorem Legible.lines_inj (h : r.Legible) (h' : r'.Legible) (same : r.text = r'.text) :
    r.lines = r'.lines := by
  have cut := lines_join h.whole
  rw [← text, same, text, lines_join h'.whole, List.append_cancel_right_eq] at cut
  exact (List.map_injective_iff.mpr (fun _ _ => String.toList_injective) cut).symm

/-- Rows begin with a blank, headings do not. -/
def isRow (line : String) : Bool := line.toList.head? = some ' '

theorem isRow_deck (line : String) : isRow ("  " ++ line) = true := by
  simp [isRow]

theorem isRow_mesh (row : MeshRow) : isRow row.line = true := by
  simp [isRow, MeshRow.toList_line]

theorem isRow_selection (row : SelectionRow) : isRow row.line = true := by
  simp [isRow, SelectionRow.toList_line]

theorem isRow_load (row : LoadRow) : isRow row.line = true := by
  simp [isRow, LoadRow.toList_line]

/-- A section ends with the next heading, or with the text. -/
theorem section_inj {α : Type} {row : α → String} {l l' : List α} {s t : List String}
    (rows : ∀ a, isRow (row a) = true) (hs : ∀ line ∈ s.head?, isRow line = false)
    (ht : ∀ line ∈ t.head?, isRow line = false) (same : l.map row ++ s = l'.map row ++ t) :
    l.map row = l'.map row ∧ s = t :=
  Text.append_inj_of_head (List.forall_mem_map.mpr fun a _ => rows a)
    (List.forall_mem_map.mpr fun a _ => rows a) hs ht same

theorem not_isRow_scale (scale : Float) :
    ∀ line ∈ (scaleLines scale).head?, isRow line = false := by
  unfold scaleLines
  split_ifs <;> simp [isRow, toString]

theorem scale_inj {scale scale' : Float} (h : scale = 0 ∨ scale > 0) (h' : scale' = 0 ∨ scale' > 0)
    (same : scaleLines scale = scaleLines scale') : scale = scale' := by
  unfold scaleLines at same
  by_cases shown : scale > 0 <;> by_cases shown' : scale' > 0
  · rw [if_pos shown, if_pos shown', List.singleton_inj] at same
    simp [toString] at same
    exact number_injective same
  · simp [shown, shown'] at same
  · simp [shown, shown'] at same
  · rw [h.resolve_right shown, h'.resolve_right shown']

theorem append_left_cancel {front s t : String} (same : front ++ s = front ++ t) : s = t := by
  simpa [← String.toList_inj] using same

theorem Legible.units_inj (h : r.Legible) (h' : r'.Legible)
    (same : r.units.getD "(none)" = r'.units.getD "(none)") : r.units = r'.units := by
  have named {r : Report} (h : r.Legible) {shown : String} (given : r.units = some shown) :
      shown ≠ "(none)" := by
    obtain ⟨units, known, rfl⟩ := h.units shown given
    exact UnitSystem.render_ne_none known
  rcases given : r.units with _ | shown <;> rcases given' : r'.units with _ | shown' <;>
    simp only [given, given', Option.getD_none, Option.getD_some] at same
  · rfl
  · exact absurd same.symm (named h' given')
  · exact absurd same (named h given)
  · rw [same]

theorem text_inj (h : r.Legible) (h' : r'.Legible) (same : r.text = r'.text) : r = r' := by
  have lines := h.lines_inj h' same
  rw [lines_eq, lines_eq] at lines
  obtain ⟨title, lines⟩ := List.cons.inj lines
  obtain ⟨units, lines⟩ := List.cons.inj lines
  obtain ⟨source, progress⟩ := title_inj title
  obtain ⟨deck, lines⟩ :=
    section_inj isRow_deck (by simp [isRow]) (by simp [isRow]) (List.cons.inj lines).2
  obtain ⟨meshes, lines⟩ :=
    section_inj isRow_mesh (by simp [isRow]) (by simp [isRow]) (List.cons.inj lines).2
  obtain ⟨selections, lines⟩ :=
    section_inj isRow_selection (by simp [isRow]) (by simp [isRow]) (List.cons.inj lines).2
  obtain ⟨loads, scale⟩ :=
    section_inj isRow_load (not_isRow_scale _) (not_isRow_scale _) (List.cons.inj lines).2
  have units := h.units_inj h' (append_left_cancel units)
  have deck := eq_of_map_eq (fun _ _ _ _ => append_left_cancel) deck
  have meshes := eq_of_map_eq (fun row hr row' hr' =>
    MeshRow.line_inj (h.meshes row hr) (h'.meshes row' hr')) meshes
  have selections := eq_of_map_eq (fun row hr row' hr' =>
    SelectionRow.line_inj (h.selections row hr) (h'.selections row' hr')) selections
  have loads := eq_of_map_eq (fun row hr row' hr' =>
    LoadRow.line_inj (h.loads row hr) (h'.loads row' hr')) loads
  have scale := scale_inj h.scale h'.scale scale
  cases r
  cases r'
  rw [mk.injEq]
  exact ⟨source, progress, units, deck, meshes, selections, loads, scale⟩

end Report

end SolidStudy
