import Mathlib
import SolidStudy.Proofs.BackgroundRun.Log
import SolidStudy.Proofs.BackgroundRun.Polling
import SolidStudy.Proofs.CommandLine.Console

/-! The log on a console. The program may poll for the lines of a run, or write each of them when it
is logged: the console shows the same. -/
namespace SolidStudy

variable {World α β : Type}

/-- What neither reads the channel for errors nor writes to it. -/
def Console.Mute (x : StateM (Console World) α) : Prop :=
  ∀ c text, x.run { c with errors := text } = ((x.run c).1, { (x.run c).2 with errors := text })

namespace Console.Mute

theorem pure (a : α) : Mute (pure a : StateM (Console World) α) := fun _ _ => rfl

theorem lift (x : StateM World α) : Mute (Console.lift x) := fun _ _ => rfl

theorem bind {x : StateM (Console World) α} {f : α → StateM (Console World) β} (first : Mute x)
    (rest : ∀ a, Mute (f a)) : Mute (x >>= f) := by
  intro c text
  rw [StateT.run_bind, first]
  exact rest (x.run c).1 (x.run c).2 text

theorem errors {x : StateM (Console World) α} (mute : Mute x) (c : Console World) :
    (x.run c).2.errors = c.errors :=
  congrArg (·.2.errors) (mute c c.errors)

end Console.Mute

open Console

variable {session : Session (StateM World)} {request : Request} {settings : Settings}

namespace Evaluator

variable {evaluator : Evaluator} {invocation : Invocation} {path : String}

theorem mute_collect : Mute (evaluator.collect session.onConsole.toHost invocation path) := by
  rw [collect]
  cases evaluator.commandFor? invocation path with
  | none => exact .pure _
  | some command =>
    have starts : Mute (session.onConsole.start command) := by
      rw [Host.start]
      split_ifs
      · exact fun _ _ => rfl
      · exact .pure _
    refine starts.bind fun answer => ?_
    cases answer with
    | error => exact .pure _
    | ok ended =>
      dsimp only
      split_ifs
      · refine .bind ?_ fun _ => .pure _
        exact (Mute.lift _).bind fun found => by cases found <;> exact .pure _
      · exact .pure _

theorem mute_evaluate : Mute (evaluator.evaluate session.onConsole.toHost invocation) := by
  rw [evaluate]
  cases invocation.checkedGeometryPath with
  | error => exact .pure _
  | ok path =>
    exact (Mute.lift _).bind fun _ => mute_collect.bind fun _ => (Mute.lift _).bind fun _ => .pure _

end Evaluator

namespace Request

def written (request : Request) (lines : List String) : String :=
  if request.showsLog then String.join (lines.map (· ++ "\n")) else ""

theorem written_cons (request : Request) (line : String) (lines : List String) :
    request.written (line :: lines) = request.written [line] ++ request.written lines := by
  rw [written, written, written]
  split_ifs
  · simp
  · rfl

theorem run_log (line : String) (c : Console World) :
    ((request.handler session.onConsole settings).log line).run c =
      ((), { c with errors := c.errors ++ request.written [line] }) := by
  simp only [handler, written]
  split_ifs
  · simp only [List.map_cons, List.map_nil, String.join_cons, String.join_nil, String.append_empty]
    rfl
  · rw [String.append_empty]
    rfl

theorem mute_ask (invocation : Invocation) :
    Mute ((request.handler session.onConsole settings).ask invocation) :=
  Evaluator.mute_evaluate

theorem handler_patient : (request.handler session.onConsole settings).Patient where
  checkpoint _ _ := rfl
  ask line invocation c := by
    rw [run_log, run_log, mute_ask, (mute_ask invocation).errors]

theorem errors_of_serves {events : List Job.Event} {c c' : Console World}
    (h : (request.handler session.onConsole settings).Serves events c c') :
    c'.errors = c.errors ++ request.written (Job.lines events) := by
  induction h with
  | nil => simp [written]
  | @cons event events c mid c' step _ ih =>
    rw [ih]
    cases event with
    | logged line =>
      have wrote : ((), mid) = _ := step.symm.trans (run_log line c)
      rw [Job.lines_cons_logged, request.written_cons line, ← String.append_assoc]
      rw [show mid.errors = c.errors ++ request.written [line] from congrArg (·.2.errors) wrote]
    | shown study stop =>
      cases step
      rfl
    | asked invocation answer =>
      have answered : ((request.handler session.onConsole settings).ask invocation).run c =
          (answer, mid) := step
      have kept : mid.errors = c.errors := by
        rw [← (mute_ask invocation).errors c, answered]
      rw [kept, Job.lines_cons_asked]

/-- The run of a model in a directory, with the program polling for its log. -/
def polled (session : Session (StateM World)) (request : Request) (settings : Settings)
    (directory : String) (c : Console World) (turns : ℕ → Polling.Party) :
    Polling.Course (Console World) where
  handler := request.handler session.onConsole settings
  study := .new request.model directory
  target := request.target settings
  world := c
  turns := turns

variable {directory : String} {c : Console World} {turns : ℕ → Polling.Party} {n : ℕ}

/-- However the program polls, the console is as if it wrote each line when it is logged; and the
lines are what the stages of the run say. -/
theorem polled_of_done
    (done : ((polled session request settings directory c turns).moment n).poller = .done) :
    ∃ outcome ending spoken later,
      (request.runIn session.onConsole settings directory).run c =
        (outcome, ((polled session request settings directory c turns).moment n).world) ∧
      outcome = ending.mark ∧
      Study.Tells (Stage.all.filter (·.Due (request.target settings)
        (.new request.model directory))) (.new request.model directory) later ending spoken ∧
      ((polled session request settings directory c turns).moment n).world.errors =
        c.errors ++ request.written spoken := by
  have patient : (request.handler session.onConsole settings).Patient := handler_patient
  obtain ⟨outcome, ended, served, performed⟩ := Polling.Course.perform_of_done patient done
  have uninterrupted : outcome.result ≠ .error .interrupted :=
    BackgroundRun.Course.result_of_uninterrupted
      (fun k _ => Polling.Course.events_ne_askToStop _ k) ended
  obtain ⟨later, ending, -, marked, tells⟩ :=
    Study.run_tells (BackgroundRun.Course.runs_of_outcome? ended) uninterrupted
  exact ⟨outcome, ending, _, later, performed, marked, tells, errors_of_serves served⟩

/-- A call that interrupts is one step or two, according to whether somebody asked before. No line is
lost, repeated or moved: what was taken so far and what is still in the log are together all that
was logged, and who takes the lines after the worker's end takes the rest. An
interruption is logged at most once, however many interrupt. A run that nobody interrupts logs the
announcement of each stage that it performs, and the closing line if none fails. A program that
polls for the lines comes to its end, and in whatever order it and the worker make their steps, it
leaves the console as the run does whose lines are written at once. -/
theorem log_lines_kept (session : Session (StateM World)) (request : Request) (settings : Settings)
    (directory : String) (console : Console World) :
    (∀ (attended : BackgroundRun.Attended) (caller : ℕ), caller ∉ attended.first →
      if attended.run.interrupting then
        attended.after (.interrupt caller) = ⟨attended.run.interrupt, attended.first⟩
      else
        (attended.after (.interrupt caller)).after (.interrupt caller) =
          ⟨attended.run.interrupt, attended.first⟩) ∧
    (∀ s : BackgroundRun.Schedule,
      (∀ n, s.course.taken n ++ (s.course.moment n).logs = s.course.logged n) ∧
      (∀ n, (s.course.moment n).isFinished = true → s.turns n = .takeLogs →
        (∀ later, n ≤ later → s.course.events later ≠ .logStop) →
        ∀ m, n < m → s.course.taken m = s.course.logged m) ∧
      (∀ n, (s.course.logged n).count BackgroundRun.interruptLine ≤ 1) ∧
      ∀ n outcome, (∀ k < n, ∀ caller, s.turns k ≠ .interrupt caller) →
        (s.course.moment n).outcome? = some outcome →
        ∃ later ending, s.course.trace n = .shown s.study false :: later ∧
          outcome = ending.mark ∧
          Study.Tells (Stage.all.filter (·.Due s.target s.study)) s.study later ending
            (s.course.logged n)) ∧
    ∀ turns, let c := polled session request settings directory console turns
      (c.Fair → ∃ n, (c.moment n).poller = .done) ∧
      ∀ n, (c.moment n).poller = .done → ∃ outcome ending spoken later,
        (request.runIn session.onConsole settings directory).run console =
          (outcome, (c.moment n).world) ∧
        outcome = ending.mark ∧
        Study.Tells (Stage.all.filter (·.Due c.target c.study)) c.study later ending spoken ∧
        (c.moment n).world.errors = console.errors ++ request.written spoken := by
  refine ⟨fun attended caller outside => BackgroundRun.Attended.after_interrupt outside,
    fun s => ⟨s.course.taken_append_logs, fun n ended takes calm m => ?_, fun n => ?_,
    fun n outcome => s.tells⟩, fun turns => ⟨fun fair => fair.ends, fun n => polled_of_done⟩⟩
  · have event : s.course.events n = .takeLogs := by
      simp [BackgroundRun.Schedule.course, takes, BackgroundRun.Attended.event]
    exact BackgroundRun.Course.taken_eq_logged ended event calm
  · have once := s.count_interruptLine n
    split_ifs at once <;> omega

/-- Two interrupt a run between its last look at the flag and its end, and one of them says so when
the other lines are taken already. Without an evaluator a run announces the inventory and fails,
and a program that polls shows just this. -/
theorem log_lines_kept_interrupted :
    let fresh := Study.new "part.scad" "/tmp"
    let refused : BackgroundRun.Turn := .work (.error .noCommand)
    let interrupted : BackgroundRun.Schedule := ⟨fresh, .nothingDone, fun n =>
      if n = 2 ∨ n = 6 then .interrupt 0 else if n = 4 then .interrupt 1
      else if n = 5 ∨ 9 ≤ n then .takeLogs else refused⟩
    let failing : BackgroundRun.Schedule := ⟨fresh, .solidsDone, fun _ => refused⟩
    let session : Session (StateM Unit) := {
      run := fun _ => pure (.error .notFound)
      contents := fun _ => pure (.error .notFound)
      removeFile := fun _ => pure ()
      pathExists := fun _ => pure false
      isFile := fun _ => pure true
      currentDir := pure "/work"
      temporaryDir := pure "/tmp"
      makeDirectory := fun _ _ => pure (.ok "/tmp")
      removeTree := fun _ => pure ()
      print := fun _ => pure ()
      printError := fun _ => pure () }
    let request : Request := ⟨.run, "part.scad", .text, "os2cx.json"⟩
    let settings : Settings := { Settings.default with command := [] }
    let c := polled session request settings "/tmp" ⟨(), "", "", []⟩ fun n =>
      if n % 2 = 0 then .worker else .program
    (interrupted.course.moment 9).isFinished = true ∧ interrupted.course.taken 6 = ["Done."] ∧
      (∀ m, 9 < m → interrupted.course.taken m = interrupted.course.logged m) ∧
      interrupted.course.logged 10 = ["Done.", "Interrupting calculation..."] ∧
      failing.course.logged 6 = ["Extracting inventory..."] ∧
      (∃ later ending, failing.course.trace 6 = .shown fresh false :: later ∧
        Study.Tells [.inventory, .objects] fresh later ending (failing.course.logged 6)) ∧
      ∃ n, (c.moment n).poller = .done ∧
        (c.moment n).world.errors = "Extracting inventory...\n" := by
  intro fresh refused interrupted failing session request settings c
  obtain ⟨-, schedules, polls⟩ := log_lines_kept session request settings "/tmp" ⟨(), "", "", []⟩
  obtain ⟨-, rest, -⟩ := schedules interrupted
  obtain ⟨-, -, -, tells⟩ := schedules failing
  obtain ⟨later, ending, trace, -, told⟩ :=
    tells 6 ⟨{ fresh with errored := true }, .error (.evaluator .noCommand)⟩
      (by simp [failing, refused]) rfl
  have calm (later : ℕ) (after : 9 ≤ later) : interrupted.course.events later ≠ .logStop := by
    have turn : interrupted.turns later = .takeLogs := by
      simp only [interrupted]
      rw [if_neg (by omega), if_neg (by omega), if_pos (by omega)]
    simp [BackgroundRun.Schedule.course, BackgroundRun.Attended.event, turn]
  have fair : c.Fair := ⟨fun n => ⟨2 * n, by omega, by simp [c, polled]⟩,
    fun n => ⟨2 * n + 1, by omega, by simp [c, polled, Nat.add_mod]⟩⟩
  obtain ⟨ends, shows⟩ := polls fun n => if n % 2 = 0 then .worker else .program
  obtain ⟨n, done⟩ := ends fair
  obtain ⟨outcome, -, -, -, ran, -⟩ := shows n done
  have written : ((request.runIn session.onConsole settings "/tmp").run
      ⟨(), "", "", []⟩).2.errors = "Extracting inventory...\n" := by decide +kernel
  rw [ran] at written
  have finished : (interrupted.course.moment 9).isFinished = true := by decide +kernel
  have early : interrupted.course.taken 6 = ["Done."] := by decide +kernel
  have all : interrupted.course.logged 10 = ["Done.", "Interrupting calculation..."] := by
    decide +kernel
  have announced : failing.course.logged 6 = ["Extracting inventory..."] := by decide +kernel
  exact ⟨finished, early, rest 9 finished rfl calm, all, announced,
    ⟨later, ending, trace, told⟩, n, done, written⟩

end Request

end SolidStudy
