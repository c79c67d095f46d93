import Mathlib
import SolidStudy.Proofs.Diagnostics.Channel
import SolidStudy.Proofs.Fallible

/-! The diagnostic channel is read line by line. A line feed between two texts is a seam: what is
read of both together is what is read of each, and only the line numbers of the second one move.
What the lines end in does not matter. -/
namespace SolidStudy

variable {a b line : List Char} {lines more : List (List Char)} {number : Nat}

/-- A fault of a text that stands behind other lines. -/
def UnreadableEcho.behind (above : Nat) (fault : UnreadableEcho) : UnreadableEcho :=
  { fault with lineNumber := above + fault.lineNumber }

namespace Diagnostics

theorem readLine_add (above number : Nat) (line : List Char) :
    readLine (above + number) line = (readLine number line).mapError (·.behind above) := by
  unfold readLine
  split
  · rename_i payload _
    cases Statement.read payload <;> rfl
  all_goals rfl

theorem readLines_add (above number : Nat) (lines : List (List Char)) :
    readLines (above + number) lines = (readLines number lines).mapError (·.behind above) := by
  induction lines generalizing number with
  | nil => rfl
  | cons line lines ih =>
    rw [readLines, readLines, readLine_add, Nat.add_assoc, ih]
    cases readLine number line with
    | error fault => rfl
    | ok message => cases readLines (number + 1) lines <;> rfl

theorem readLines_append (number : Nat) (lines more : List (List Char)) :
    readLines number (lines ++ more) = do
      let d ← readLines number lines
      let e ← readLines (number + lines.length) more
      return d ++ e := by
  induction lines generalizing number with
  | nil => cases rest : readLines number more <;> simp [readLines, rest] <;> rfl
  | cons line lines ih =>
    have moved : number + (line :: lines).length = number + 1 + lines.length := by
      rw [List.length_cons]
      omega
    rw [List.cons_append, readLines, readLines, ih, moved]
    cases readLine number line with
    | error fault => rfl
    | ok message =>
      cases readLines (number + 1) lines with
      | error fault => rfl
      | ok d => cases readLines (number + 1 + lines.length) more <;> rfl

/-- The channel up to a line feed, and the channel behind it. -/
theorem read_append_feed (a b : List Char) : read (a ++ '\n' :: b) = do
    let d ← read a
    let e ← (read b).mapError (·.behind (a.count '\n' + 1))
    return d ++ e := by
  have above : 1 + ((Text.lines a).map trim).length = a.count '\n' + 1 + 1 := by
    rw [List.length_map, Text.length_lines, Nat.add_comm]
  change readLines 1 ((Text.lines (a ++ '\n' :: b)).map trim) = _
  rw [Text.lines_append_feed, List.map_append, readLines_append, above, readLines_add]
  rfl

theorem statements_append (d e : Diagnostics) :
    statements (d ++ e) = d.statements ++ e.statements :=
  List.filterMap_append

theorem warnings_append (d e : Diagnostics) : warnings (d ++ e) = d.warnings ++ e.warnings :=
  List.filterMap_append

theorem trim_append_returns (line : List Char) (n : Nat) :
    trim (line ++ List.replicate n '\r') = trim line := by
  induction n with
  | zero => rw [List.replicate_zero, List.append_nil]
  | succ n ih => rw [List.replicate_succ', ← List.append_assoc, trim_concat_return, ih]

theorem trimmed_withReturns (s : List Char) :
    (Text.lines (Text.withReturns s)).map trim = (Text.lines s).map trim := by
  induction s using Text.induction_lines with
  | last line whole => rw [Text.withReturns_of_not_mem whole]
  | feed line rest whole ih =>
    have returned : '\n' ∉ line ++ ['\r'] := by simp [whole]
    have text : Text.withReturns (line ++ '\n' :: rest) =
        (line ++ ['\r']) ++ '\n' :: Text.withReturns rest := by
      rw [Text.withReturns_append, Text.withReturns_of_not_mem whole]
      simp [Text.withReturns]
    rw [text, Text.lines_append returned, Text.lines_append whole, List.map_cons, List.map_cons, ih,
      trim_concat_return]

theorem trimmed_append_returns (s : List Char) (n : Nat) :
    (Text.lines (s ++ List.replicate n '\r')).map trim = (Text.lines s).map trim := by
  induction s using Text.induction_lines with
  | last line whole =>
    have returned : '\n' ∉ line ++ List.replicate n '\r' := by simp [whole]
    rw [Text.lines_of_not_mem returned, Text.lines_of_not_mem whole, List.map_singleton,
      List.map_singleton, trim_append_returns]
  | feed line rest whole ih =>
    rw [List.append_assoc, List.cons_append, Text.lines_append whole, Text.lines_append whole,
      List.map_cons, List.map_cons, ih]

def isEcho (line : List Char) : Bool := "ECHO:".toList.isPrefixOf line

theorem isEcho_trim (line : List Char) : isEcho (trim line) = isEcho line := by
  rw [Bool.eq_iff_iff, isEcho, isEcho, List.isPrefixOf_iff_prefix, List.isPrefixOf_iff_prefix]
  constructor
  · intro h
    exact h.trans (trim_isPrefixOf line)
  · intro given
    rcases given with ⟨rest, rfl⟩
    -- The tag ends in a colon, so the carriage returns that are dropped are all behind it.
    have kept : trim ("ECHO:".toList ++ rest) = "ECHO:".toList ++ trim rest := by
      rw [trim_eq, trim_eq, List.rdropWhile, List.rdropWhile, List.reverse_append,
        List.dropWhile_append]
      split_ifs with empty
      · rw [List.isEmpty_iff.mp empty]
        rfl
      · rw [List.reverse_append, List.reverse_reverse]
    exact ⟨_, kept.symm⟩

theorem statements_readLine {message : Message} (h : readLine number line = .ok message) :
    (statements [message]).length = if isEcho line then 1 else 0 := by
  cases front : isEcho line with
  | true =>
    have severity : classify line =
        some (.echo, dropBlank (line.drop Severity.echo.tag.toList.length)) := by
      rw [classify, Severity.all, List.findSome?_cons]
      simp only [show Severity.echo.tag.toList.isPrefixOf line = true from front, if_true]
    rw [readLine, severity] at h
    simp only at h
    split at h
    · cases h
      rfl
    · cases h
  | false =>
    rw [readLine] at h
    split at h
    · rename_i payload found
      have prefixed := List.isPrefixOf_iff_prefix.mpr (tag_prefix_of_classify found)
      rw [show isEcho line = true from prefixed] at front
      contradiction
    all_goals
      cases h
      rfl

theorem length_statements_of_readLines {d : Diagnostics} (h : readLines number lines = .ok d) :
    d.statements.length = lines.countP isEcho := by
  induction lines generalizing number d with
  | nil =>
    cases h
    rfl
  | cons line lines ih =>
    obtain ⟨message, first, h⟩ := bind_eq_ok.mp h
    obtain ⟨messages, further, same⟩ := bind_eq_ok.mp h
    cases same
    change (statements ([message] ++ messages)).length = _
    rw [statements_append, List.length_append, statements_readLine first, ih further,
      List.countP_cons, Nat.add_comm]

theorem length_statements_of_read {d : Diagnostics} (h : read a = .ok d) :
    d.statements.length = (Text.lines a).countP isEcho := by
  rw [length_statements_of_readLines h, List.countP_map]
  refine List.countP_congr fun line _ => ?_
  rw [Function.comp_apply, show Text.dropEndWhile (· = '\r') line = trim line from rfl, isEcho_trim]

/-- Two texts with a line feed between them are read one after the other: a fault of the first one
stays as it is, a fault of the second one is found as many lines further down as stand above it,
and without a fault the statements and the warnings of both follow each other. Carriage returns
before line feeds and at the end change nothing, and every echo is one statement. -/
theorem read_linewise (a b : List Char) :
    (∀ fault, read a = .error fault → read (a ++ '\n' :: b) = .error fault) ∧
    (∀ d e, read a = .ok d → read b = .ok e → ∃ both, read (a ++ '\n' :: b) = .ok both ∧
      both.statements = d.statements ++ e.statements ∧
      both.warnings = d.warnings ++ e.warnings) ∧
    (∀ d fault, read a = .ok d → read b = .error fault → ∃ moved,
      read (a ++ '\n' :: b) = .error moved ∧
      moved.lineNumber = a.count '\n' + 1 + fault.lineNumber ∧ moved.line = fault.line ∧
      moved.detail = fault.detail) ∧
    read (Text.withReturns a) = read a ∧ (∀ n, read (a ++ List.replicate n '\r') = read a) ∧
    ∀ d, read a = .ok d →
      d.statements.length = (Text.lines a).countP ("ECHO:".toList.isPrefixOf ·) := by
  refine ⟨fun fault first => ?_, fun d e first second => ?_, fun d fault first second => ?_,
    congrArg (readLines 1) (trimmed_withReturns a),
    fun n => congrArg (readLines 1) (trimmed_append_returns a n),
    fun d ok => length_statements_of_read ok⟩
  · rw [read_append_feed, first]
    rfl
  · refine ⟨d ++ e, ?_, statements_append d e, warnings_append d e⟩
    rw [read_append_feed, first, second]
    rfl
  · refine ⟨fault.behind (a.count '\n' + 1), ?_, rfl, rfl, rfl⟩
    rw [read_append_feed, first, second]
    rfl

/-- A text whose last line is no statement, in front of and behind one that is read. -/
theorem read_linewise_seams :
    let good := "ECHO: \"p\"\r\nDEPRECATED: q".toList
    let more := "ECHO: \"r\"".toList
    let bad := "TRACE: t\nECHO: undef".toList
    (∃ fault, read bad = .error fault ∧ fault.lineNumber = 2 ∧
      read (bad ++ '\n' :: good) = .error fault) ∧
    (∃ both, read (good ++ '\n' :: more) = .ok both ∧
      both.statements = [[.text "p"], [.text "r"]] ∧ both.warnings = ["q"]) ∧
    (∃ moved, read (good ++ '\n' :: bad) = .error moved ∧ moved.lineNumber = 4 ∧
      moved.line = "ECHO: undef".toList) ∧
    (Text.lines good).countP ("ECHO:".toList.isPrefixOf ·) = 1 := by
  intro good more bad
  have refused : ∃ fault, read bad = .error fault ∧ fault.lineNumber = 2 ∧
      fault.line = "ECHO: undef".toList := ⟨_, rfl, rfl, rfl⟩
  have taken : read good = .ok [.statement [.text "p"], .warning "q"] := rfl
  have added : read more = .ok [.statement [.text "r"]] := rfl
  obtain ⟨fault, fails, place, text⟩ := refused
  obtain ⟨stays, -⟩ := read_linewise bad good
  obtain ⟨-, joins, -, -, -, counts⟩ := read_linewise good more
  obtain ⟨-, -, moves, -⟩ := read_linewise good bad
  obtain ⟨moved, found, below, same, -⟩ := moves _ fault taken fails
  exact ⟨⟨fault, fails, place, stays fault fails⟩, joins _ _ taken added,
    ⟨moved, found, by rw [below, place]; rfl, same.trans text⟩, (counts _ taken).symm⟩

end Diagnostics

end SolidStudy
