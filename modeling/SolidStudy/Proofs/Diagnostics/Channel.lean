import Mathlib
import SolidStudy.Diagnostics
import SolidStudy.Proofs.Text.Pieces
import SolidStudy.Proofs.Value.RoundTrip

/-! Printing on the diagnostic channel. A written statement never breaks its line, so what is
printed line by line is read back line by line, whatever the lines end in. -/
namespace SolidStudy

def Unbroken (s : List Char) : Prop :=
  ∀ c ∈ s, c ≠ '\n' ∧ c ≠ '\r'

section

variable {c : Char} {s t word chars : List Char}

@[simp] theorem unbroken_nil : Unbroken [] := by
  simp [Unbroken]

@[simp] theorem unbroken_cons : Unbroken (c :: s) ↔ (c ≠ '\n' ∧ c ≠ '\r') ∧ Unbroken s := by
  simp [Unbroken]

@[simp] theorem unbroken_append : Unbroken (s ++ t) ↔ Unbroken s ∧ Unbroken t :=
  List.forall_mem_append

theorem unbroken_of_numeralChars (h : ∀ c ∈ s, Number.NumeralChar c) : Unbroken s := by
  intro c hc
  have plain := h c hc
  constructor <;> rintro rfl <;> revert plain <;> decide

theorem unbroken_of_toLower (spelled : word.map Char.toLower = s) (h : Unbroken s) :
    Unbroken word := by
  intro c hc
  have listed : c.toLower ∈ s := spelled ▸ List.mem_map_of_mem hc
  have plain := h _ listed
  constructor <;> rintro rfl <;> revert plain <;> decide

namespace Value

theorem NumberText.unbroken {x : Float} (h : NumberText s x) : Unbroken s := by
  cases h with
  | negativeInfinity => simp
  | infinity spelled => exact unbroken_of_toLower spelled (by simp)
  | notANumber spelled => exact unbroken_of_toLower spelled (by simp)
  | numeral h => exact unbroken_of_numeralChars h.chars

theorem unbroken_writeEscaped (chars : List Char) : Unbroken (writeEscaped chars) := by
  induction chars with
  | nil => exact unbroken_nil
  | cons c chars ih =>
    rw [writeEscaped]
    cases mark : escapeLetter c with
    | some letter =>
      have listed := mem_escapes_of_escapeLetter mark
      simp only [escapes, List.mem_cons, Prod.mk.injEq, List.not_mem_nil, or_false] at listed
      rcases listed with ⟨rfl, -⟩ | ⟨rfl, -⟩ | ⟨rfl, -⟩ | ⟨rfl, -⟩ | ⟨rfl, -⟩ <;> simp [ih]
    | none =>
      have feed : c ≠ '\n' := by rintro rfl; simp [escapeLetter] at mark
      have turn : c ≠ '\r' := by rintro rfl; simp [escapeLetter] at mark
      simp [feed, turn, ih]

theorem unbroken_writeFurther {items : List Value} (h : ∀ item ∈ items, Unbroken item.write) :
    Unbroken (writeFurther items) := by
  induction items with
  | nil => exact unbroken_nil
  | cons item items ih =>
    have further := ih fun other listed => h other (List.mem_cons_of_mem _ listed)
    simp [writeFurther, h item List.mem_cons_self, further]

theorem unbroken_writeItems {items : List Value} (h : ∀ item ∈ items, Unbroken item.write) :
    Unbroken (writeItems items) := by
  cases items with
  | nil => exact unbroken_nil
  | cons item items =>
    have further :=
      unbroken_writeFurther fun other listed => h other (List.mem_cons_of_mem _ listed)
    simp [writeItems, h item List.mem_cons_self, further]

theorem unbroken_write (v : Value) : Unbroken v.write := by
  induction v using induction_items with
  | number x => exact (numberText_write x).unbroken
  | text s => simp [write, writeText, unbroken_writeEscaped]
  | vector items ih => simp [write, unbroken_writeItems ih]

end Value

theorem Statement.toList_render (s : Statement) : s.render.toList = s.write :=
  String.toList_ofList

theorem Statement.unbroken_render (s : Statement) : Unbroken s.render.toList := by
  rw [toList_render]
  exact Value.unbroken_writeItems fun item _ => item.unbroken_write

end

namespace Diagnostics

/-- A line as it is read, without the carriage returns at its end. -/
def trim (line : List Char) : List Char := Text.dropEndWhile (· = '\r') line

theorem trim_eq (line : List Char) : trim line = line.rdropWhile (· = '\r') :=
  rfl

theorem trim_concat_return (line : List Char) : trim (line ++ ['\r']) = trim line := by
  rw [trim_eq, trim_eq, List.rdropWhile_concat_pos _ _ _ (by simp)]

theorem trim_isPrefixOf (line : List Char) : trim line <+: line := by
  rw [trim_eq]
  exact List.rdropWhile_prefix _ _

theorem trim_of_getLast? {line : List Char} (h : line.getLast? ≠ some '\r') :
    trim line = line := by
  rw [trim_eq, List.rdropWhile_eq_self_iff]
  intro present last
  rw [List.getLast?_eq_getLast_of_ne_nil present] at h
  simp_all

def tagged (tag : String) (text : List Char) : List Char := tag.toList ++ ' ' :: text

theorem classify_tagged (severity : Severity) (text : List Char) :
    classify (tagged severity.tag text) = some (severity, text) := by
  have blank : Text.isBlank ' ' = true := by decide
  cases severity <;> simp [classify, tagged, Severity.all, Severity.tag, dropBlank, blank]

theorem tag_prefix_of_classify {line payload : List Char} {severity : Severity}
    (h : classify line = some (severity, payload)) : severity.tag.toList <+: line := by
  obtain ⟨other, -, found⟩ := List.exists_of_findSome?_eq_some h
  simp only [Option.ite_none_right_eq_some, Option.some.injEq, Prod.mk.injEq] at found
  obtain ⟨prefixed, rfl, -⟩ := found
  exact List.isPrefixOf_iff_prefix.mp prefixed

inductive Entry where
  | echo (s : Statement)
  | warning (text : String)
  | deprecation (text : String)
  | other (line : List Char)

inductive LineEnd where
  | feed
  | returnAndFeed

/-- What stands between a line and the line feed at its end. -/
def LineEnd.beforeFeed : LineEnd → List Char
  | .feed => []
  | .returnAndFeed => ['\r']

namespace Entry

def line : Entry → List Char
  | .echo s => tagged "ECHO:" s.render.toList
  | .warning text => tagged "WARNING:" text.toList
  | .deprecation text => tagged "DEPRECATED:" text.toList
  | .other line => line

/-- Whether an entry is one line, and a line of its kind. -/
def Printable : Entry → Prop
  | .echo _ => True
  | .warning text => '\n' ∉ text.toList ∧ text.toList.getLast? ≠ some '\r'
  | .deprecation text => '\n' ∉ text.toList ∧ text.toList.getLast? ≠ some '\r'
  | .other line => '\n' ∉ line ∧ ∀ tag ∈ ["ECHO:", "WARNING:", "DEPRECATED:"],
      ¬ tag.toList <+: line

def statement? : Entry → Option Statement
  | .echo s => some s
  | _ => none

def warning? : Entry → Option String
  | .warning text => some text
  | .deprecation text => some text
  | _ => none

def message : Entry → Message
  | .echo s => .statement s
  | .warning text => .warning text
  | .deprecation text => .warning text
  | .other _ => .other

end Entry

/-- Lines with their ends, and perhaps a last one that does not end. -/
def print (rows : List (Entry × LineEnd)) (last : Option Entry) : List Char :=
  rows.flatMap (fun row => row.1.line ++ row.2.beforeFeed ++ ['\n']) ++ last.elim [] Entry.line

variable {entry : Entry} {rows : List (Entry × LineEnd)} {last : Option Entry}

theorem feed_not_mem_tagged {tag : String} {text : List Char}
    (severity : tag ∈ Severity.all.map Severity.tag) (whole : '\n' ∉ text) :
    '\n' ∉ tagged tag text := by
  have plain : ∀ tag ∈ Severity.all.map Severity.tag, '\n' ∉ tag.toList := by decide
  simp [tagged, plain tag severity, whole]

theorem Entry.Printable.feed_not_mem (h : entry.Printable) : '\n' ∉ entry.line := by
  cases entry with
  | echo s =>
    refine feed_not_mem_tagged (by decide) fun listed => ?_
    exact (Statement.unbroken_render s '\n' listed).1 rfl
  | warning text => exact feed_not_mem_tagged (by decide) h.1
  | deprecation text => exact feed_not_mem_tagged (by decide) h.1
  | other line => exact h.1

/-- The carriage returns at the end of a line are no part of a printed text. -/
theorem trim_tagged {tag : String} {text : List Char} (h : text.getLast? ≠ some '\r') :
    trim (tagged tag text) = tagged tag text := by
  apply trim_of_getLast?
  rw [tagged, List.getLast?_append, List.getLast?_cons]
  cases last : text.getLast? with
  | none => simp
  | some c => simpa [last] using h

theorem trim_beforeFeed (line : List Char) (ending : LineEnd) :
    trim (line ++ ending.beforeFeed) = trim line := by
  cases ending with
  | feed => rw [LineEnd.beforeFeed, List.append_nil]
  | returnAndFeed => exact trim_concat_return line

theorem readLine_entry (h : entry.Printable) (number : Nat) :
    readLine number (trim entry.line) = .ok entry.message := by
  cases entry with
  | echo s =>
    have plain : s.render.toList.getLast? ≠ some '\r' := fun last =>
      (Statement.unbroken_render s '\r' (List.mem_of_getLast? last)).2 rfl
    have front : classify (tagged "ECHO:" s.render.toList) = some (.echo, s.render.toList) :=
      classify_tagged .echo _
    have payload : Statement.read s.render.toList = .ok s := by
      rw [Statement.toList_render, Statement.read_write]
    rw [Entry.line, trim_tagged plain, readLine, front]
    simp only [payload, Entry.message]
  | warning text =>
    have front : classify (tagged "WARNING:" text.toList) = some (.warning, text.toList) :=
      classify_tagged .warning _
    rw [Entry.line, trim_tagged h.2, readLine, front]
    simp only [String.ofList_toList, Entry.message]
  | deprecation text =>
    have front : classify (tagged "DEPRECATED:" text.toList) = some (.deprecated, text.toList) :=
      classify_tagged .deprecated _
    rw [Entry.line, trim_tagged h.2, readLine, front]
    simp only [String.ofList_toList, Entry.message]
  | other line =>
    have untagged (severity : Severity) (payload : List Char)
        (found : classify (trim line) = some (severity, payload)) :
        severity = .error ∨ severity = .trace := by
      have prefixed := (tag_prefix_of_classify found).trans (trim_isPrefixOf line)
      cases severity with
      | echo => exact absurd prefixed (h.2 "ECHO:" (by decide))
      | warning => exact absurd prefixed (h.2 "WARNING:" (by decide))
      | deprecated => exact absurd prefixed (h.2 "DEPRECATED:" (by decide))
      | error => exact .inl rfl
      | trace => exact .inr rfl
    rw [Entry.line, readLine]
    cases found : classify (trim line) with
    | none => rfl
    | some message =>
      obtain ⟨severity, payload⟩ := message
      rcases untagged severity payload found with rfl | rfl <;> rfl

theorem lines_print_cons {row : Entry × LineEnd} (h : row.1.Printable) :
    Text.lines (print (row :: rows) last) =
      (row.1.line ++ row.2.beforeFeed) :: Text.lines (print rows last) := by
  have whole : '\n' ∉ row.1.line ++ row.2.beforeFeed := by
    have returns : '\n' ∉ row.2.beforeFeed := by cases row.2 <;> decide
    simp [h.feed_not_mem, returns]
  rw [← Text.lines_append whole]
  simp [print]

theorem lines_print_nil (h : ∀ entry ∈ last, entry.Printable) :
    Text.lines (print [] last) = [(last.getD (.other [])).line] := by
  cases last with
  | none => rfl
  | some entry => exact Text.lines_of_not_mem (h entry rfl).feed_not_mem

theorem readLines_print (printable : ∀ row ∈ rows, row.1.Printable)
    (ending : ∀ entry ∈ last, entry.Printable) (number : Nat) :
    readLines number ((Text.lines (print rows last)).map trim) =
      .ok ((rows.map Prod.fst ++ [last.getD (.other [])]).map Entry.message) := by
  induction rows generalizing number with
  | nil =>
    have fits : (last.getD (.other [])).Printable := by
      cases last with
      | none => simp [Entry.Printable]
      | some entry => exact ending entry rfl
    rw [lines_print_nil ending, List.map_singleton, readLines, readLine_entry fits]
    rfl
  | cons row rows ih =>
    have fits := printable row List.mem_cons_self
    have further := ih (fun other listed => printable other (List.mem_cons_of_mem _ listed))
      (number + 1)
    rw [lines_print_cons fits, List.map_cons, trim_beforeFeed, readLines, readLine_entry fits,
      further]
    rfl

theorem statements_map_message (entries : List Entry) :
    statements (entries.map Entry.message) = entries.filterMap Entry.statement? := by
  rw [statements, List.filterMap_map]
  refine List.filterMap_congr fun entry _ => ?_
  cases entry <;> rfl

theorem warnings_map_message (entries : List Entry) :
    warnings (entries.map Entry.message) = entries.filterMap Entry.warning? := by
  rw [warnings, List.filterMap_map]
  refine List.filterMap_congr fun entry _ => ?_
  cases entry <;> rfl

/-- Reading a channel gives back the statements and the warnings that were printed on it, in their
order and nothing else, whatever lines stand between them and however the lines end. -/
theorem read_print (rows : List (Entry × LineEnd)) (last : Option Entry)
    (printable : ∀ entry ∈ rows.map Prod.fst ++ last.toList, entry.Printable) :
    ∃ d, read (print rows last) = .ok d ∧
      d.statements = (rows.map Prod.fst ++ last.toList).filterMap Entry.statement? ∧
      d.warnings = (rows.map Prod.fst ++ last.toList).filterMap Entry.warning? := by
  have each : ∀ row ∈ rows, row.1.Printable := fun row listed =>
    printable row.1 (List.mem_append_left _ (List.mem_map_of_mem listed))
  have ending : ∀ entry ∈ last, entry.Printable := fun entry listed =>
    printable entry (List.mem_append_right _ (Option.mem_toList.mpr listed))
  refine ⟨_, readLines_print each ending 1, ?_, ?_⟩
  · rw [statements_map_message]
    cases last <;> simp [Entry.statement?]
  · rw [warnings_map_message]
    cases last <;> simp [Entry.warning?]

/-- A statement whose text holds a line feed and a tag, an empty warning, a line that only looks
like a warning, and a last line without an end. -/
theorem read_print_mixed :
    let rows : List (Entry × LineEnd) := [(.echo [.text "a\nECHO: b\r"], .returnAndFeed),
      (.warning "", .feed), (.other "WARNING a\r".toList, .returnAndFeed)]
    let last : Option Entry := some (.deprecation " b")
    print rows last =
        "ECHO: \"a\\nECHO: b\\r\"\r\nWARNING: \nWARNING a\r\r\nDEPRECATED:  b".toList ∧
      (∀ entry ∈ rows.map Prod.fst ++ last.toList, entry.Printable) ∧
      ∃ d, read (print rows last) = .ok d ∧ d.statements = [[.text "a\nECHO: b\r"]] ∧
        d.warnings = ["", " b"] := by
  intro rows last
  have printable : ∀ entry ∈ rows.map Prod.fst ++ last.toList, entry.Printable := by
    simp [rows, last, Entry.Printable]
  exact ⟨by decide, printable, read_print rows last printable⟩

end Diagnostics

end SolidStudy
