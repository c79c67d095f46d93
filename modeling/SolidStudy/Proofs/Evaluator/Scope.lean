import Mathlib
import SolidStudy.Evaluator
import SolidStudy.Host.Files

/-! What an evaluation does to the files. Its geometry file belongs to one invocation: nothing that
was there before is found by the program or gets into the answer, and nothing is left there, while
all other files are as the program leaves them. Directories are the one exception, since no
directory is ever removed. -/
namespace SolidStudy

namespace Files

variable {path : String} {files other : Files}

/-- The second files are the first ones without the file at a path. A directory stays there. -/
structure Cleared (path : String) (before after : Files) : Prop where
  elsewhere : ∀ p, p ≠ path → after p = before p
  absent : before path ≠ some .directory → after path = none
  directory : before path = some .directory → after path = some .directory

theorem cleared_removeFile (path : String) (files : Files) :
    Cleared path files (files.removeFile path) where
  elsewhere p apart := if_neg apart
  absent file := by
    rw [removeFile, if_pos rfl, Option.filter_eq_none_iff]
    intro node found same
    exact file (by rw [found, of_decide_eq_true same])
  directory stays := by
    rw [removeFile, if_pos rfl, stays]
    rfl

/-- Files that differ at most in the file at a path. -/
structure SameBeside (path : String) (files other : Files) : Prop where
  elsewhere : ∀ p, p ≠ path → files p = other p
  directory : files path = some .directory ↔ other path = some .directory

theorem removeFile_congr (same : SameBeside path files other) :
    files.removeFile path = other.removeFile path := by
  funext p
  by_cases here : p = path
  · subst here
    by_cases stays : files p = some .directory
    · rw [(cleared_removeFile p files).directory stays,
        (cleared_removeFile p other).directory (same.directory.mp stays)]
    · rw [(cleared_removeFile p files).absent stays,
        (cleared_removeFile p other).absent fun there => stays (same.directory.mpr there)]
  · rw [(cleared_removeFile path files).elsewhere p here, same.elsewhere p here,
      (cleared_removeFile path other).elsewhere p here]

def text (files : Files) (path : String) : Except HostFault (List Char) := do
  let octets ← files.read path
  (Text.Utf8.decode? octets).elim (.error .notText) .ok

theorem text_of_absent (absent : files path = none) (short : nameFits path = true) :
    files.text path = .error .notFound := by
  simp [text, read, absent, short, bind, Except.bind]

/-- Files, and the programs started so far, each with the files that it found. -/
structure Watched where
  files : Files
  starts : List (Command × Files)

/-- A host that writes down what it starts. -/
def watched (programs : Programs) : Host (StateM Watched) where
  run command := fun s =>
    let (ended, left) := programs command s.files
    (ended, ⟨left, s.starts ++ [(command, s.files)]⟩)
  contents path := do return (← get).files.read path
  removeFile path := modify fun s => { s with files := s.files.removeFile path }

/-- A computation that does the same as another one that is not watched. -/
def Erases {α : Type} (x : StateM Watched α) (y : StateM Files α) : Prop :=
  ∀ s : Watched, y.run s.files = ((x.run s).1, (x.run s).2.files)

namespace Erases

variable {α β : Type} {x : StateM Watched α} {y : StateM Files α}

theorem pure (a : α) : Erases (pure a) (pure a) := fun _ => rfl

theorem bind {f : α → StateM Watched β} {g : α → StateM Files β} (first : Erases x y)
    (rest : ∀ a, Erases (f a) (g a)) : Erases (x >>= f) (y >>= g) := by
  intro s
  rw [StateT.run_bind, first s]
  exact rest _ _

variable {programs : Programs}

theorem start (command : Command) :
    Erases ((watched programs).start command) ((host programs).start command) := by
  by_cases passable : command.isPassable = true
  · rw [Host.start, Host.start, if_pos passable, if_pos passable]
    exact fun _ => rfl
  · rw [Host.start, Host.start, if_neg passable, if_neg passable]
    exact .pure _

theorem readText (path : String) :
    Erases ((watched programs).readText path) ((host programs).readText path) := by
  have contents : Erases ((watched programs).contents path) ((host programs).contents path) :=
    fun _ => rfl
  refine contents.bind fun found => ?_
  cases found with
  | error | ok => exact .pure _

theorem removeFile (path : String) :
    Erases ((watched programs).removeFile path) ((host programs).removeFile path) :=
  fun _ => rfl

end Erases

end Files

namespace Evaluator

open Files

variable {evaluator : Evaluator} {programs : Programs} {invocation : Invocation} {path : String}

theorem erases_collect : Erases (evaluator.collect (watched programs) invocation path)
    (evaluator.collect (host programs) invocation path) := by
  rw [collect, collect]
  cases evaluator.commandFor? invocation path with
  | none => exact .pure _
  | some command =>
    refine (Erases.start command).bind fun answer => ?_
    cases answer with
    | error => exact .pure _
    | ok ended =>
      by_cases good : ended.status = .exited 0
      · simp only [if_pos good]
        exact (Erases.readText path).bind fun _ => .pure _
      · simp only [if_neg good]
        exact .pure _

/-- Watching an evaluation changes nothing about it. -/
theorem erases_evaluate : Erases (evaluator.evaluate (watched programs) invocation)
    (evaluator.evaluate (host programs) invocation) := by
  rw [evaluate, evaluate]
  cases invocation.checkedGeometryPath with
  | error => exact .pure _
  | ok path =>
    exact (Erases.removeFile path).bind fun _ => erases_collect.bind fun _ =>
      (Erases.removeFile path).bind fun _ => .pure _

/-- The ways in which an evaluator with a file of its own comes to a result, with the files it
finds, the files that are left and what was started. -/
inductive Collects (evaluator : Evaluator) (programs : Programs) (invocation : Invocation)
    (path : String) (found : Files) :
    Except EvaluatorFault Evaluation → Files → List (Command × Files) → Prop
  | noCommand (none : evaluator.commandFor? invocation path = none) :
      Collects evaluator programs invocation path found (.error .noCommand) found []
  | notPassable {command : Command} (asks : evaluator.commandFor? invocation path = some command)
      (nul : command.isPassable = false) :
      Collects evaluator programs invocation path found
        (.error (.notStarted command.program .nulCharacter)) found []
  | notStarted {command : Command} {cause : HostFault} {left : Files}
      (asks : evaluator.commandFor? invocation path = some command)
      (passable : command.isPassable = true)
      (ran : programs command found = (.error cause, left)) :
      Collects evaluator programs invocation path found
        (.error (.notStarted command.program cause)) left [(command, found)]
  | failed {command : Command} {ended : Ended} {left : Files}
      (asks : evaluator.commandFor? invocation path = some command)
      (passable : command.isPassable = true)
      (ran : programs command found = (.ok ended, left)) (bad : ended.status ≠ .exited 0) :
      Collects evaluator programs invocation path found
        (.error (.failed ended.status.describe
          (String.ofList (Text.Utf8.decodeLossy ended.diagnostics)))) left [(command, found)]
  | good {command : Command} {ended : Ended} {left : Files}
      (asks : evaluator.commandFor? invocation path = some command)
      (passable : command.isPassable = true)
      (ran : programs command found = (.ok ended, left)) (good : ended.status = .exited 0) :
      Collects evaluator programs invocation path found
        (Evaluation.ofOutput (Text.Utf8.decodeLossy ended.diagnostics) path (left.text path)) left
        [(command, found)]

theorem Collects.starts_eq {found left : Files} {result : Except EvaluatorFault Evaluation}
    {starts : List (Command × Files)}
    (h : Collects evaluator programs invocation path found result left starts) :
    ∀ start ∈ starts, start.2 = found := by
  cases h with
  | noCommand | notPassable => simp
  | notStarted | failed | good => simp

theorem run_bind_of_run {σ α β : Type} {x : StateM σ α} {f : α → StateM σ β} {s s' : σ} {a : α}
    (first : x.run s = (a, s')) : (x >>= f).run s = (f a).run s' := by
  rw [StateT.run_bind, first]
  rfl

theorem run_readText (s : Watched) :
    ((watched programs).readText path).run s = (s.files.text path, s) := by
  have contents : ((watched programs).contents path).run s = (s.files.read path, s) := rfl
  rw [Host.readText, run_bind_of_run contents, text]
  cases s.files.read path <;> rfl

theorem run_start {command : Command} (passable : command.isPassable = true) {s : Watched}
    {ended : Except HostFault Ended} {left : Files}
    (ran : programs command s.files = (ended, left)) :
    ((watched programs).start command).run s =
      (ended, ⟨left, s.starts ++ [(command, s.files)]⟩) := by
  rw [Host.start, if_pos passable]
  simp only [watched, StateT.run, ran]

theorem exists_collects (evaluator : Evaluator) (programs : Programs) (invocation : Invocation)
    (path : String) (found : Files) :
    ∃ result left starts, evaluator.Collects programs invocation path found result left starts := by
  cases asks : evaluator.commandFor? invocation path with
  | none => exact ⟨_, _, _, .noCommand asks⟩
  | some command =>
    cases passable : command.isPassable with
    | false => exact ⟨_, _, _, .notPassable asks passable⟩
    | true =>
      rcases ran : programs command found with ⟨cause | ended, left⟩
      · exact ⟨_, _, _, .notStarted asks passable ran⟩
      · by_cases good : ended.status = .exited 0
        · exact ⟨_, _, _, .good asks passable ran good⟩
        · exact ⟨_, _, _, .failed asks passable ran good⟩

variable {result : Except EvaluatorFault Evaluation} {found left : Files}
  {starts : List (Command × Files)}

theorem run_collect (h : evaluator.Collects programs invocation path found result left starts)
    (before : List (Command × Files)) :
    (evaluator.collect (watched programs) invocation path).run ⟨found, before⟩ =
      (result, ⟨left, before ++ starts⟩) := by
  cases h with
  | noCommand none =>
    rw [collect, none, List.append_nil]
    rfl
  | notPassable asks nul =>
    simp only [collect, asks]
    rw [Host.start, if_neg (Bool.eq_false_iff.mp nul), List.append_nil]
    rfl
  | notStarted asks passable ran =>
    simp only [collect, asks]
    rw [run_bind_of_run (run_start passable ran)]
    rfl
  | failed asks passable ran bad =>
    simp only [collect, asks]
    rw [run_bind_of_run (run_start passable ran)]
    dsimp only
    rw [if_neg bad]
    rfl
  | good asks passable ran good =>
    simp only [collect, asks]
    rw [run_bind_of_run (run_start passable ran)]
    dsimp only
    rw [if_pos good, run_bind_of_run (run_readText _)]
    rfl

theorem run_evaluate (checked : invocation.checkedGeometryPath = .ok path) {files : Files}
    (h : evaluator.Collects programs invocation path (files.removeFile path) result left starts)
    (before : List (Command × Files)) :
    (evaluator.evaluate (watched programs) invocation).run ⟨files, before⟩ =
      (result, ⟨left.removeFile path, before ++ starts⟩) := by
  have removes (s : Watched) : ((watched programs).removeFile path).run s =
      ((), ⟨s.files.removeFile path, s.starts⟩) := rfl
  simp only [evaluate, checked]
  rw [run_bind_of_run (removes _), run_bind_of_run (run_collect h before),
    run_bind_of_run (removes _)]
  rfl

/-- An evaluation that finds no directory at the path of its geometry file starts its program
without anything there, leaves nothing there, and answers the same whatever was there. A directory
is neither removed nor replaced; all other files are left as the program leaves them. -/
theorem geometry_scoped (evaluator : Evaluator) (programs : Programs) (invocation : Invocation)
    (files : Files) :
    let outcome := (evaluator.evaluate (watched programs) invocation).run ⟨files, []⟩
    (evaluator.evaluate (host programs) invocation).run files = (outcome.1, outcome.2.files) ∧
    (∀ fault, invocation.checkedGeometryPath = .error fault →
      outcome = (.error fault, ⟨files, []⟩)) ∧
    ∀ path, invocation.checkedGeometryPath = .ok path →
      (∃ found left, Cleared path files found ∧
        evaluator.Collects programs invocation path found outcome.1 left outcome.2.starts ∧
        (∀ start ∈ outcome.2.starts, start.2 = found) ∧ Cleared path left outcome.2.files) ∧
      ∀ other, SameBeside path files other →
        (evaluator.evaluate (watched programs) invocation).run ⟨other, []⟩ = outcome := by
  intro outcome
  refine ⟨erases_evaluate ⟨files, []⟩, fun fault checked => ?_, fun path checked => ?_⟩
  · simp only [outcome, evaluate, checked]
    rfl
  · obtain ⟨result, left, starts, collects⟩ :=
      exists_collects evaluator programs invocation path (files.removeFile path)
    have ends : outcome = (result, ⟨left.removeFile path, starts⟩) :=
      run_evaluate checked collects []
    rw [ends]
    refine ⟨⟨_, left, cleared_removeFile path files, collects, collects.starts_eq,
      cleared_removeFile path left⟩, fun other same => ?_⟩
    rw [removeFile_congr same] at collects
    exact run_evaluate checked collects []

/-- A file of an earlier run is not taken for an answer: the program, which writes nothing, does not
find it, and the answer is the one without it. -/
theorem geometry_scoped_stale_file :
    let evaluator : Evaluator := ⟨["openscad"], none⟩
    let programs : Programs := fun _ found => (.ok ⟨.exited 0, []⟩, found)
    let invocation := Invocation.new "part.scad" "out" "block"
    let command : Command := ⟨"openscad", ["-o", "out/block.off", "part.scad"], []⟩
    let stale := empty.put "out/block.off" (.file [])
    invocation.checkedGeometryPath = .ok "out/block.off" ∧ SameBeside "out/block.off" stale empty ∧
      ∃ found left, (evaluator.evaluate (watched programs) invocation).run ⟨stale, []⟩ =
          (.ok ⟨none, [], []⟩, ⟨left, [(command, found)]⟩) ∧
        found "out/block.off" = none ∧ left "out/block.off" = none ∧
        (evaluator.evaluate (watched programs) invocation).run ⟨empty, []⟩ =
          (.ok ⟨none, [], []⟩, ⟨left, [(command, found)]⟩) := by
  have checked : (Invocation.new "part.scad" "out" "block").checkedGeometryPath =
      .ok "out/block.off" := by rfl
  intro evaluator programs invocation command stale
  have same : SameBeside "out/block.off" stale empty :=
    ⟨fun p apart => if_neg apart, by simp [stale, put, empty]⟩
  have answer : Evaluation.ofOutput (Text.Utf8.decodeLossy []) "out/block.off"
      ((stale.removeFile "out/block.off").text "out/block.off") = .ok ⟨none, [], []⟩ := by rfl
  have run : (evaluator.evaluate (watched programs) invocation).run ⟨stale, []⟩ = (_, ⟨_, _⟩) :=
    run_evaluate checked (.good (by cbv) (by cbv) rfl rfl) []
  rw [answer] at run
  obtain ⟨-, -, each⟩ := geometry_scoped evaluator programs invocation stale
  obtain ⟨⟨found, _, clean, -, finds, -⟩, independent⟩ := each _ checked
  rw [run] at finds independent
  have kept : stale.removeFile "out/block.off" = found := finds _ (List.mem_singleton_self _)
  have gone : stale.removeFile "out/block.off" "out/block.off" = none := by
    rw [kept]
    exact clean.absent (by simp [stale, put])
  exact ⟨checked, same, _, _, run, gone, (cleared_removeFile _ _).absent (by simp [gone]),
    independent empty same⟩

/-- A directory in the place of the geometry file stays there. The program finds it and leaves it,
and the answer is another one than without it. -/
theorem directory_not_removed :
    let evaluator : Evaluator := ⟨["openscad"], none⟩
    let programs : Programs := fun _ found => (.ok ⟨.exited 0, []⟩, found)
    let invocation := Invocation.new "part.scad" "out" "block"
    let command : Command := ⟨"openscad", ["-o", "out/block.off", "part.scad"], []⟩
    let blocked := empty.put "out/block.off" .directory
    invocation.checkedGeometryPath = .ok "out/block.off" ∧
      ∃ found left, (evaluator.evaluate (watched programs) invocation).run ⟨blocked, []⟩ =
          (.error (.unreadableGeometry "out/block.off" (.host .isADirectory)),
            ⟨left, [(command, found)]⟩) ∧
        found "out/block.off" ≠ none ∧ left "out/block.off" ≠ none ∧
        ((evaluator.evaluate (watched programs) invocation).run ⟨empty, []⟩).1 =
          .ok ⟨none, [], []⟩ := by
  have checked : (Invocation.new "part.scad" "out" "block").checkedGeometryPath =
      .ok "out/block.off" := by rfl
  intro evaluator programs invocation command blocked
  have run (files : Files) :
      (evaluator.evaluate (watched programs) invocation).run ⟨files, []⟩ = (_, ⟨_, _⟩) :=
    run_evaluate checked (.good (by cbv) (by cbv) rfl rfl) []
  have stays : blocked "out/block.off" = some .directory := by simp [blocked, put]
  have found := (cleared_removeFile _ _).directory stays
  have left := (cleared_removeFile _ _).directory found
  refine ⟨checked, _, _, run blocked, by simp [found], by simp [left], ?_⟩
  rw [run]
  rfl

end Evaluator

end SolidStudy
