import Mathlib
import SolidStudy.Proofs.Evaluator.Scope
import SolidStudy.Proofs.Extraction.Confinement
import SolidStudy.Proofs.Job
import SolidStudy.Proofs.Polyhedron.Document

/-! The executions of programs behind the answers of an evaluator. An answer with geometry has it
from the file that an execution of its own invocation left, and an execution belongs to no other
question than the one whose mode is in its command. -/
namespace SolidStudy

open Files

theorem exists_of_mem_right {α β : Type} {R : α → β → Prop} {as : List α} {bs : List β}
    (h : List.Forall₂ R as bs) {b : β} (listed : b ∈ bs) : ∃ a ∈ as, R a b := by
  induction h with
  | nil => cases listed
  | @cons a _ _ _ related _ ih =>
    rcases List.mem_cons.mp listed with rfl | later
    · exact ⟨a, List.mem_cons_self, related⟩
    · obtain ⟨found, among, related⟩ := ih later
      exact ⟨found, List.mem_cons_of_mem _ among, related⟩

/-- A program that was executed: the files that it found, how it ended, and the files it left. -/
structure Execution where
  command : Command
  found : Files
  ended : Except HostFault Ended
  left : Files

namespace Execution

variable {execution : Execution} {evaluator : Evaluator} {invocation : Invocation}
  {solid : Polyhedron}

def of (programs : Programs) (start : Command × Files) : Execution :=
  ⟨start.1, start.2, (programs start.1 start.2).1, (programs start.1 start.2).2⟩

/-- The execution belongs to the invocation, and left this solid in its geometry file. -/
structure Leaves (execution : Execution) (evaluator : Evaluator) (invocation : Invocation)
    (solid : Polyhedron) : Prop where
  own : evaluator.commandFor? invocation invocation.geometryPath = some execution.command
  written : ∃ text, execution.left.text invocation.geometryPath = .ok text ∧
    Polyhedron.ofOff text = .ok (some solid)

/-- The execution came to a good end, and the geometry file is its own: it found none. -/
structure Yields (execution : Execution) (evaluator : Evaluator) (invocation : Invocation)
    (solid : Polyhedron) : Prop extends Leaves execution evaluator invocation solid where
  absent : ∀ octets, execution.found invocation.geometryPath ≠ some (.file octets)
  good : ∃ diagnostics, execution.ended = .ok ⟨.exited 0, diagnostics⟩

theorem Leaves.below (h : execution.Leaves evaluator invocation solid) :
    ∀ face ∈ solid.faces, ∀ index ∈ face, index < solid.vertices.length := by
  obtain ⟨text, -, read⟩ := h.written
  intro face listed index corner
  exact (Polyhedron.below_of_solidText (Polyhedron.ofOff_eq_some.mp read) face listed index
    corner).1

end Execution

namespace Evaluation

variable {path : String} {file : Except HostFault (List Char)} {solid : Polyhedron}
  {evaluation : Evaluation} {channel : List Char}

theorem geometryOf_eq_some : geometryOf path file = .ok (some solid) ↔
    ∃ text, file = .ok text ∧ Polyhedron.ofOff text = .ok (some solid) ∧ solid.faces ≠ [] := by
  cases file with
  | error fault => cases fault <;> simp [geometryOf]
  | ok text =>
    cases read : Polyhedron.ofOff text with
    | error fault => simp [geometryOf, read]
    | ok content =>
      simp only [geometryOf, read, Except.ok.injEq, Option.filter_eq_some_iff, exists_eq_left',
        Polyhedron.isEmpty, Bool.not_eq_true', List.isEmpty_eq_false_iff]

theorem ofOutput_eq_ok : ofOutput channel path file = .ok evaluation ↔
    geometryOf path file = .ok evaluation.geometry ∧ ∃ diagnostics,
      Diagnostics.read channel = .ok diagnostics ∧ evaluation.warnings = diagnostics.warnings ∧
      evaluation.statements = diagnostics.statements := by
  obtain ⟨geometry, warnings, statements⟩ := evaluation
  rw [ofOutput]
  cases Diagnostics.read channel with
  | error => simp
  | ok diagnostics =>
    cases geometryOf path file <;> simp [bind, Except.bind, pure, Except.pure, eq_comm]

def blockEcho : String :=
  "ECHO: \"__openscad2calculix\", \"analysis_directive\", [\"*STEP\"], [\"mm\", \"t\", \"s\"]\n" ++
    "ECHO: \"__openscad2calculix\", \"mesh_directive\", \"block\""

def blockOctets : Text.Utf8.Octets := blockEcho.toList.map fun c => .ofNat c.toNat

def blockStatements : List Statement :=
  [[.text Directive.marker, .text "analysis_directive", .vector [.text "*STEP"],
      .vector [.text "mm", .text "t", .text "s"]],
    [.text Directive.marker, .text "mesh_directive", .text "block"]]

theorem ofOutput_blockOctets (path : String) :
    ofOutput (Text.Utf8.decodeLossy blockOctets) path (.error .notFound) =
      .ok ⟨none, [], blockStatements⟩ := by
  have decoded : Text.Utf8.decodeLossy blockOctets = blockEcho.toList := by decide +kernel
  rw [decoded]
  cbv

def triangleText : String := "OFF 3 1 0 0 0 0 1 0 0 0 1 0 3 0 1 2"

def triangleOctets : Text.Utf8.Octets := triangleText.toList.map fun c => .ofNat c.toNat

def triangle : Polyhedron := ⟨[⟨0, 0, 0⟩, ⟨1, 0, 0⟩, ⟨0, 1, 0⟩], [[0, 1, 2]]⟩

theorem ofOff_triangleText : Polyhedron.ofOff triangleText.toList = .ok (some triangle) := by
  decide +kernel

theorem text_put_triangle (files : Files) (path : String) :
    (files.put path (.file triangleOctets)).text path = .ok triangleText.toList := by
  have decoded : Text.Utf8.decode? triangleOctets = some triangleText.toList := by decide +kernel
  simp [text, Files.read, put, decoded, bind, Except.bind]

theorem ofOutput_triangle (files : Files) (path : String) :
    ofOutput (Text.Utf8.decodeLossy []) path
      ((files.put path (.file triangleOctets)).text path) = .ok ⟨some triangle, [], []⟩ :=
  ofOutput_eq_ok.mpr ⟨geometryOf_eq_some.mpr
    ⟨_, text_put_triangle files path, ofOff_triangleText, List.cons_ne_nil _ _⟩,
    [.other], by cbv, rfl, rfl⟩

end Evaluation

namespace Evaluator

variable {evaluator : Evaluator} {programs : Programs} {stops : Study → Bool}
  {events : List Job.Event} {s s' : Watched} {invocation : Invocation} {solid : Polyhedron}
  {starts : List (Command × Files)} {start : Command × Files} {evaluation : Evaluation}
  {answer : Except EvaluatorFault Evaluation}

/-- A program that lists the block, and leaves no geometry, is taken for an inventory. -/
theorem run_evaluate_block {path : String} {files : Files} {command : Command}
    (checked : invocation.checkedGeometryPath = .ok path)
    (asks : evaluator.commandFor? invocation path = some command)
    (passable : command.isPassable = true)
    (ran : programs command (files.removeFile path) =
      (.ok ⟨.exited 0, Evaluation.blockOctets⟩, files.removeFile path))
    (absent : files.removeFile path path = none) (short : nameFits path = true)
    (before : List (Command × Files)) :
    (evaluator.evaluate (watched programs) invocation).run ⟨files, before⟩ =
      (.ok ⟨none, [], Evaluation.blockStatements⟩,
        ⟨(files.removeFile path).removeFile path, before ++ [(command, files.removeFile path)]⟩) := by
  rw [run_evaluate checked (.good asks passable ran rfl) before, text_of_absent absent short,
    Evaluation.ofOutput_blockOctets]

theorem run_evaluate_triangle {path : String} {files : Files} {command : Command}
    (checked : invocation.checkedGeometryPath = .ok path)
    (asks : evaluator.commandFor? invocation path = some command)
    (passable : command.isPassable = true)
    (ran : programs command (files.removeFile path) = (.ok ⟨.exited 0, []⟩,
      (files.removeFile path).put path (.file Evaluation.triangleOctets)))
    (before : List (Command × Files)) :
    (evaluator.evaluate (watched programs) invocation).run ⟨files, before⟩ =
      (.ok ⟨some Evaluation.triangle, [], []⟩,
        ⟨((files.removeFile path).put path (.file Evaluation.triangleOctets)).removeFile path,
          before ++ [(command, files.removeFile path)]⟩) := by
  rw [run_evaluate checked (.good asks passable ran rfl) before, Evaluation.ofOutput_triangle]

/-- The steps of a run with this evaluator on watched files. Any checkpoint may stop the run. -/
def watch (evaluator : Evaluator) (programs : Programs) (stops : Study → Bool) :
    Job.Handler (StateM Watched) where
  log _ := pure ()
  checkpoint study := pure (stops study)
  ask := evaluator.evaluate (watched programs)

/-- The programs started for one step. Only questions start any. -/
def Accounts (evaluator : Evaluator) (programs : Programs) :
    Job.Event → List (Command × Files) → Prop
  | .asked invocation answer, starts =>
    (∃ fault, invocation.checkedGeometryPath = .error fault ∧ answer = .error fault ∧
      starts = []) ∨
    ∃ found left, invocation.checkedGeometryPath = .ok invocation.geometryPath ∧
      (∀ octets, found invocation.geometryPath ≠ some (.file octets)) ∧
      evaluator.Collects programs invocation invocation.geometryPath found answer left starts
  | _, starts => starts = []

theorem accounts_of_run
    (ran : (evaluator.evaluate (watched programs) invocation).run s = (answer, s')) :
    ∃ starts, evaluator.Accounts programs (.asked invocation answer) starts ∧
      s'.starts = s.starts ++ starts := by
  cases checked : invocation.checkedGeometryPath with
  | error fault =>
    simp only [evaluate, checked] at ran
    cases ran
    exact ⟨[], .inl ⟨fault, checked, rfl, rfl⟩, (List.append_nil _).symm⟩
  | ok path =>
    obtain ⟨-, rfl⟩ := Invocation.checkedGeometryPath_eq_ok.mp checked
    obtain ⟨result, left, starts, collects⟩ := exists_collects evaluator programs invocation
      invocation.geometryPath (s.files.removeFile invocation.geometryPath)
    rw [run_evaluate checked collects s.starts] at ran
    cases ran
    refine ⟨starts, .inr ⟨_, left, checked, fun octets there => ?_, collects⟩, rfl⟩
    simp only [removeFile, if_pos, Option.filter_eq_some_iff] at there
    exact absurd there.2 (by simp)

theorem exists_accounts (served : (evaluator.watch programs stops).Serves events s s') :
    ∃ pieces, List.Forall₂ (evaluator.Accounts programs) events pieces ∧
      s'.starts = s.starts ++ pieces.flatten := by
  induction served with
  | nil => exact ⟨[], .nil, (List.append_nil _).symm⟩
  | @cons event events s mid s' step _ ih =>
    obtain ⟨pieces, rest, after⟩ := ih
    have first : ∃ starts, evaluator.Accounts programs event starts ∧
        mid.starts = s.starts ++ starts := by
      cases event with
      | logged | shown =>
        cases step
        exact ⟨[], rfl, (List.append_nil _).symm⟩
      | asked invocation answer => exact accounts_of_run step
    obtain ⟨starts, accounts, before⟩ := first
    exact ⟨starts :: pieces, .cons accounts rest, by
      rw [after, before, List.flatten_cons, List.append_assoc]⟩

theorem exists_asked {pieces : List (List (Command × Files))}
    (h : List.Forall₂ (evaluator.Accounts programs) events pieces)
    (listed : start ∈ pieces.flatten) :
    ∃ invocation answer starts, .asked invocation answer ∈ events ∧
      evaluator.Accounts programs (.asked invocation answer) starts ∧ start ∈ starts := by
  obtain ⟨starts, piece, member⟩ := List.mem_flatten.mp listed
  obtain ⟨event, taken, accounts⟩ := exists_of_mem_right h piece
  cases event with
  | logged | shown =>
    obtain rfl : starts = [] := accounts
    cases member
  | asked invocation answer => exact ⟨invocation, answer, starts, taken, accounts, member⟩

/-- Geometry in an answer is what an execution for the question left. -/
theorem Accounts.yields
    (h : evaluator.Accounts programs (.asked invocation (.ok evaluation)) starts)
    (geometry : evaluation.geometry = some solid) :
    solid.faces ≠ [] ∧
      ∃ start ∈ starts, (Execution.of programs start).Yields evaluator invocation solid := by
  rcases h with ⟨fault, -, none, -⟩ | ⟨found, left, -, absent, collects⟩
  · cases none
  · generalize same : (Except.ok evaluation : Except EvaluatorFault Evaluation) = answer at collects
    cases collects with
    | noCommand | notPassable | notStarted | failed => cases same
    | @good command ended _ asks passable ran good =>
      have read := (Evaluation.ofOutput_eq_ok.mp same.symm).1
      rw [geometry] at read
      obtain ⟨text, written, solid_of_text, faces⟩ := Evaluation.geometryOf_eq_some.mp read
      refine ⟨faces, (command, found), List.mem_singleton_self _, ?_⟩
      obtain ⟨status, diagnostics⟩ := ended
      cases good
      exact {
        own := asks
        written := ⟨text, by rw [Execution.of, ran]; exact written, solid_of_text⟩
        absent := absent
        good := ⟨diagnostics, by rw [Execution.of, ran]⟩ }

/-- A solid that an execution for the question left is the geometry of the answer, if there is an
answer. -/
theorem Accounts.geometry_eq
    (h : evaluator.Accounts programs (.asked invocation (.ok evaluation)) starts)
    (listed : start ∈ starts)
    (leaves : (Execution.of programs start).Leaves evaluator invocation solid)
    (faces : solid.faces ≠ []) : evaluation.geometry = some solid := by
  rcases h with ⟨fault, -, none, -⟩ | ⟨found, left, -, -, collects⟩
  · cases none
  · generalize same : (Except.ok evaluation : Except EvaluatorFault Evaluation) = answer at collects
    cases collects with
    | noCommand | notPassable | notStarted | failed => cases same
    | good asks passable ran good =>
      obtain ⟨text, written, read⟩ := leaves.written
      obtain rfl := List.mem_singleton.mp listed
      rw [Execution.of, ran] at written
      have geometry := (Evaluation.ofOutput_eq_ok.mp same.symm).1
      rw [Evaluation.geometryOf_eq_some.mpr ⟨text, written, read, faces⟩] at geometry
      exact (Except.ok.inj geometry).symm

theorem Accounts.command (h : evaluator.Accounts programs (.asked invocation answer) starts)
    (listed : start ∈ starts) :
    evaluator.commandFor? invocation invocation.geometryPath = some start.1 := by
  rcases h with ⟨_, -, -, rfl⟩ | ⟨found, left, -, -, collects⟩
  · cases listed
  · cases collects with
    | noCommand | notPassable => cases listed
    | notStarted asks | failed asks | good asks =>
      obtain rfl := List.mem_singleton.mp listed
      exact asks

/-- The mode can be told from the command. -/
theorem mode_eq_of_command {study other : Study} {stem stem' path path' : String}
    {mode mode' : List String} {command : Command}
    (h : evaluator.commandFor? (study.invocation stem mode) path = some command)
    (h' : evaluator.commandFor? (other.invocation stem' mode') path' = some command) :
    mode = mode' := by
  rw [commandFor?] at h h'
  cases words : evaluator.command with
  | nil => simp [words] at h
  | cons program leading =>
    simp only [words, Option.some.injEq] at h h'
    have arguments := congrArg Command.arguments (h.trans h'.symm)
    have same : (study.invocation stem mode).arguments path =
        (other.invocation stem' mode').arguments path' := List.append_cancel_left arguments
    have spelled (study : Study) (stem : String) (mode : List String) (path : String) :
        (study.invocation stem mode).arguments path = ["-o", path, "-D",
          Invocation.defineArgument Invocation.modeVariable (.ofStrings mode), study.source] := rfl
    simp only [spelled, List.cons.injEq, Invocation.defineArgument] at same
    have rendered := (String.append_right_inj _).mp same.2.2.2.1
    have written := congrArg String.toList rendered
    simp only [Value.render, String.toList_ofList] at written
    have read := congrArg Value.readWhole written
    rw [Value.readWhole_write, Value.readWhole_write] at read
    exact Value.ofStrings_injective (Except.ok.inj read)

end Evaluator

end SolidStudy
