import Mathlib
import SolidStudy.Proofs.Json.Record
import SolidStudy.Settings

/-! The spellings of settings. A JSON object is read as the settings that its members spell, in any
order and among other members, and what is left out has to be the default. The text that is written
for settings is one of these spellings. -/
namespace SolidStudy.Settings

open Json (Begun Ended QuotedText ValueText LabelText Listed Joined Member)
open Value (Gaps)

def names : List String := ["openscad_command", "library_path", "temp_dir", "extract_objects"]

/-- The settings that keep the members of some names and have the defaults of the others. -/
def keeping (settings : Settings) (given : List String) : Settings where
  command := if "openscad_command" ∈ given then settings.command else default.command
  libraryPath := if "library_path" ∈ given then settings.libraryPath else default.libraryPath
  tempDir := if "temp_dir" ∈ given then settings.tempDir else default.tempDir
  extractObjects :=
    if "extract_objects" ∈ given then settings.extractObjects else default.extractObjects

inductive PathText : List Char → Option String → Prop
  | null : PathText "null".toList none
  | path {s : List Char} {path : String} (h : QuotedText s path) : PathText s (some path)

inductive FlagText : List Char → Bool → Prop
  | set : FlagText "true".toList true
  | unset : FlagText "false".toList false

/-- The values of a member of the given name; members of other names have any value. -/
inductive MemberText (settings : Settings) : String → List Char → Prop
  | command {s : List Char} {arguments : List (List Char)} (listed : Listed ']' arguments s)
      (each : List.Forall₂ QuotedText arguments settings.command) :
      MemberText settings "openscad_command" ('[' :: s)
  | libraryPath {s : List Char} (h : PathText s settings.libraryPath) :
      MemberText settings "library_path" s
  | tempDir {s : List Char} (h : PathText s settings.tempDir) : MemberText settings "temp_dir" s
  | extractObjects {s : List Char} (h : FlagText s settings.extractObjects) :
      MemberText settings "extract_objects" s
  | other {name : String} {s : List Char} (unknown : name ∉ names) (h : ValueText s) :
      MemberText settings name s

/-- The texts that spell settings. -/
inductive SettingsText (settings : Settings) : List Char → Prop
  | object {before after s : List Char} {members : List Member} (opened : Gaps before)
      (ended : Gaps after) (listed : Listed '\x7d' (members.map Member.text) s)
      (spelled : ∀ m ∈ members, settings.MemberText m.name m.value)
      (once : ∀ name ∈ names, (members.map Member.name).count name ≤ 1)
      (complete : settings.keeping (members.map Member.name) = settings) :
      SettingsText settings (before ++ '\x7b' :: (s ++ after))

variable {settings : Settings} {name : String} {s r text : List Char} {path : Option String}
  {given given' : List String}

theorem keeping_congr (h : ∀ name ∈ names, name ∈ given ↔ name ∈ given') :
    settings.keeping given = settings.keeping given' := by
  simp only [names, List.mem_cons, List.not_mem_nil, or_false, forall_eq_or_imp, forall_eq] at h
  simp only [keeping, h]

theorem PathText.begun (h : PathText s path) : Begun s := by
  cases h with
  | null => exact ⟨'n', _, rfl, by decide⟩
  | path h =>
    cases h
    exact ⟨'"', _, rfl, by decide⟩

theorem FlagText.begun {flag : Bool} (h : FlagText s flag) : Begun s := by
  cases h <;> exact ⟨_, _, rfl, by decide⟩

theorem MemberText.begun (h : settings.MemberText name s) : Begun s := by
  cases h with
  | command => exact ⟨'[', _, rfl, by decide⟩
  | libraryPath h | tempDir h | extractObjects h | other _ h => exact h.begun

theorem readOptional_path (h : PathText s path) (r : List Char) :
    Json.readOptional (Json.readTextValue "path string") (s ++ r) = .ok (path, r) := by
  cases h with
  | null => rfl
  | path h =>
    have read := Json.readTextValue_append h "path string" r
    cases h
    rw [List.cons_append] at read ⊢
    rw [Json.readOptional]
    · rw [read]
      rfl
    · simp

theorem begun_quoted (s : List Char) (t : String) (h : QuotedText s t) : Begun s := by
  cases h
  exact ⟨'"', _, rfl, by decide⟩

theorem readBoolean_flag {flag : Bool} (h : FlagText s flag) (r : List Char) :
    Json.readBoolean (s ++ r) = .ok (flag, r) := by
  cases h <;> rfl

/-- A member adds its name to those that the settings keep. -/
theorem MemberText.read {m : Member} (h : settings.MemberText m.name m.value) :
    m.Read fields settings.keeping := by
  obtain ⟨name, label, value, labelled⟩ := m
  have begun := h.begun
  cases h with
  | command listed each =>
    refine .field begun rfl fun seen r _ => ?_
    have read := Json.readList_append begun_quoted
      (fun s a h r => Json.readTextValue_append h "a string" r) listed each r
    simp only [List.cons_append, read, bind, Except.bind, pure, Except.pure]
    simp [keeping]
  | libraryPath h =>
    refine .field begun rfl fun seen r _ => ?_
    simp only [readOptional_path h r, bind, Except.bind, pure, Except.pure]
    simp [keeping]
  | tempDir h =>
    refine .field begun rfl fun seen r _ => ?_
    simp only [readOptional_path h r, bind, Except.bind, pure, Except.pure]
    simp [keeping]
  | extractObjects h =>
    refine .field begun rfl fun seen r _ => ?_
    simp only [readBoolean_flag h r, bind, Except.bind, pure, Except.pure]
    simp [keeping]
  | other unknown h => exact .other (Json.find?_eq_none_iff_name.mpr unknown) h

theorem read_of_text (given : settings.command ≠ []) (h : SettingsText settings text) :
    read text = .ok settings := by
  cases h with
  | @object before after s members opened ended listed spelled once complete =>
    obtain ⟨seen, found, exactly⟩ := Json.readRecord_append listed
      (fun m listed => (spelled m listed).read) once "struct SystemConfig" after
    have kept : settings.keeping seen = settings := (keeping_congr exactly).trans complete
    have first := Json.skipGaps_mark '\x7b' opened (by decide) (s ++ after)
    have last : Text.skipGaps after = [] := by
      rw [← List.append_nil after, Value.skipGaps_append ended]
      rfl
    have start : settings.keeping [] = default := rfl
    rw [kept, start] at found
    simp only [read, Json.readWhole, first, found, last, bind, Except.bind, if_true, if_neg given]

theorem pathText_write (path : Option String) (depth : Nat) :
    PathText ((Json.Document.orNull .text path).write .compact depth) path := by
  cases path with
  | none => exact .null
  | some path => exact .path (Json.quotedText_writeText path)

theorem flagText_write (flag : Bool) (depth : Nat) :
    FlagText ((Json.Document.boolean flag).write .compact depth) flag := by
  cases flag
  · exact .unset
  · exact .set

theorem memberText_write {entries : List (String × Json.Document)}
    (h : settings.document = .object entries) (depth : Nat) :
    ∀ entry ∈ entries, settings.MemberText entry.1 (entry.2.write .compact depth) := by
  obtain rfl := Json.Document.object.inj h
  intro entry listed
  simp only [List.mem_cons, List.not_mem_nil, or_false] at listed
  rcases listed with rfl | rfl | rfl | rfl
  · obtain ⟨s, written, listed⟩ := Json.write_list_compact depth (settings.command.map .text)
    rw [written]
    rw [List.map_map] at listed
    exact .command listed (List.forall₂_map_left_iff.mpr
      (List.forall₂_same.mpr fun argument _ => Json.quotedText_writeText argument))
  · exact .libraryPath (pathText_write settings.libraryPath depth)
  · exact .tempDir (pathText_write settings.tempDir depth)
  · exact .extractObjects (flagText_write settings.extractObjects depth)

theorem settingsText_write (settings : Settings) : SettingsText settings settings.write.toList := by
  obtain ⟨entries, given⟩ : ∃ entries, settings.document = .object entries := ⟨_, rfl⟩
  have called : entries.map (·.1) = names := by
    obtain rfl := Json.Document.object.inj given
    rfl
  obtain ⟨s, written, listed⟩ := Json.write_object_compact 0 entries
  have called' : (entries.map (Member.compact 1)).map Member.name = names := by
    rw [← called, List.map_map]
    rfl
  have text : settings.write.toList = [] ++ '\x7b' :: (s ++ []) := by
    rw [write, Json.Document.compact, String.toList_ofList, given, written]
    simp
  rw [text]
  refine .object Json.gaps_nil Json.gaps_nil listed ?_ ?_ ?_
  · intro m member
    obtain ⟨entry, listed, rfl⟩ := List.mem_map.mp member
    exact memberText_write given 1 entry listed
  · rw [called']
    decide
  · rw [called']
    simp [keeping, names]

theorem command_of_read (h : read text = .ok settings) : settings.command ≠ [] := by
  unfold read at h
  split at h
  · cases h
  · split_ifs at h with none
    cases h
    exact none

/-- Settings with a command are read from the text that is written for them and from every other
spelling, and no settings without a command are read. -/
theorem read_spelled (given : settings.command ≠ []) :
    (read settings.write.toList = .ok settings ∧ SettingsText settings settings.write.toList) ∧
      (∀ text, SettingsText settings text → read text = .ok settings) ∧
        ∀ text other, read text = .ok other → other.command ≠ [] :=
  ⟨⟨read_of_text given (settingsText_write settings), settingsText_write settings⟩,
    fun _ spelled => read_of_text given spelled, fun _ _ found => command_of_read found⟩

/-- A member that is passed over holds a numeral beyond all doubles and half a pair of surrogates,
the name of the other one and its path have escapes, and the defaults are left out. -/
theorem read_spelled_escaped :
    let settings : Settings := { default with tempDir := some "😀" }
    let text := "\x7b\"x\":[1e999,\"\\ud800\"],\n\"\\u0074emp_dir\" :\"\\uD83D\\ude00\"\x7d".toList
    settings.command ≠ [] ∧ SettingsText settings text ∧ read text = .ok settings := by
  intro settings text
  have numeral : ValueText "1e999".toList :=
    .number (@Json.NumberText.parts [] ['1'] [] "e999".toList 999 (.inl rfl)
      (.digits (by decide) (by simp [Number.Digits])) .absent
      (@Number.ExponentText.present 'e' [] "999".toList false (.inl rfl) .absent (by simp)
        (by simp [Number.Digits])))
  have half : ValueText "\"\\ud800\"".toList :=
    .text (@Json.RawQuoted.spelled ["\\ud800".toList] (List.forall_mem_singleton.mpr
      (.code (@Json.CodeText.digits _ _ _ _ 13 8 0 0 (by decide) (by decide) (by decide)
        (by decide)))))
  have value : ValueText "[1e999,\"\\ud800\"]".toList :=
    @ValueText.list _ ["1e999".toList, "\"\\ud800\"".toList]
      (.some Json.gaps_nil (.comma (.closing ']' _) _))
      (List.forall_mem_cons.mpr ⟨numeral, List.forall_mem_singleton.mpr half⟩)
  have name : QuotedText "\"\\u0074emp_dir\"".toList "temp_dir" :=
    @QuotedText.spelled ("\\u0074".toList :: "emp_dir".toList.map Json.writeChar) "temp_dir"
      (.cons (.code (@Json.CodeText.digits _ _ _ _ 0 0 7 4 (by decide) (by decide) (by decide)
          (by decide)))
        (List.forall₂_map_left_iff.mpr
          (List.forall₂_same.mpr fun c _ => Json.charText_writeChar c)))
  have pair : Json.CharText "\\uD83D\\ude00".toList '😀' :=
    @Json.CharText.pair "D83D".toList "de00".toList '😀' (by decide)
      (@Json.CodeText.digits _ _ _ _ 13 8 3 13 (by decide) (by decide) (by decide) (by decide))
      (@Json.CodeText.digits _ _ _ _ 13 14 0 0 (by decide) (by decide) (by decide) (by decide))
  have path : QuotedText "\"\\uD83D\\ude00\"".toList "😀" :=
    @QuotedText.spelled ["\\uD83D\\ude00".toList] "😀" (.cons pair .nil)
  have blank : Gaps [' '] := by simp [Gaps]
  have label : LabelText (QuotedText · "temp_dir") "\"\\u0074emp_dir\" :".toList :=
    @LabelText.colon _ "\"\\u0074emp_dir\"".toList [' '] [] name blank Json.gaps_nil
  have label' : LabelText (QuotedText · "x") "\"x\":".toList :=
    (Member.compact 0 ("x", .null)).labelled
  have line : Gaps ['\n'] := by simp [Gaps]
  have spelled : SettingsText settings text :=
    @SettingsText.object settings [] [] _
      [⟨"x", "\"x\":".toList, "[1e999,\"\\ud800\"]".toList, label'⟩,
        ⟨"temp_dir", "\"\\u0074emp_dir\" :".toList, "\"\\uD83D\\ude00\"".toList, label⟩]
      Json.gaps_nil Json.gaps_nil
      (.some Json.gaps_nil (.more Json.gaps_nil line (.closing '\x7d' _)))
      (List.forall_mem_cons.mpr ⟨.other (by decide : "x" ∉ names) value,
        List.forall_mem_singleton.mpr (.tempDir (.path path))⟩)
      (by decide : ∀ name ∈ names, ["x", "temp_dir"].count name ≤ 1) rfl
  exact ⟨by decide, spelled, (@read_spelled settings (by decide)).2.1 text spelled⟩

end SolidStudy.Settings
