import Mathlib
import SolidStudy.CommandLine
import SolidStudy.Proofs.Evaluator.Executions

/-! A console: what the program prints, and which programs it starts, beside a world in which all
else takes place. What the world does is the same as without a console, and until the end of a
request nothing is printed but log lines. -/
namespace SolidStudy

/-- A world, the text on both channels, and the commands started so far. -/
structure Console (World : Type) where
  world : World
  printed : String
  errors : String
  started : List Command

variable {World α β : Type}

def Console.lift (x : StateM World α) : StateM (Console World) α := fun c =>
  ((x.run c.world).1, { c with world := (x.run c.world).2 })

namespace Session

/-- Text goes to the console and nowhere else, and commands are written down. -/
def onConsole (session : Session (StateM World)) : Session (StateM (Console World)) where
  run command := fun c => ((session.run command c.world).1,
    { c with world := (session.run command c.world).2, started := c.started ++ [command] })
  contents path := Console.lift (session.contents path)
  removeFile path := Console.lift (session.removeFile path)
  pathExists path := Console.lift (session.pathExists path)
  isFile path := Console.lift (session.isFile path)
  currentDir := Console.lift session.currentDir
  temporaryDir := Console.lift session.temporaryDir
  makeDirectory parent start := Console.lift (session.makeDirectory parent start)
  removeTree path := Console.lift (session.removeTree path)
  print text := fun c => ((), { c with printed := c.printed ++ text })
  printError text := fun c => ((), { c with errors := c.errors ++ text })

def quiet (session : Session (StateM World)) : Session (StateM World) :=
  { session with print := fun _ => pure (), printError := fun _ => pure () }

end Session

namespace Console

/-- What happens to the channels while nothing is printed, and only such commands are started. -/
structure Leads (P : Command → Prop) (c c' : Console World) : Prop where
  printed : c'.printed = c.printed
  errors : ∃ shown, c'.errors = c.errors ++ shown
  started : ∃ commands, c'.started = c.started ++ commands ∧ ∀ command ∈ commands, P command

namespace Leads

variable {P Q : Command → Prop} {c mid c' : Console World}

theorem refl (P : Command → Prop) (c : Console World) : Leads P c c where
  printed := rfl
  errors := ⟨"", String.append_empty.symm⟩
  started := ⟨[], (List.append_nil _).symm, by simp⟩

theorem trans (h : Leads P c mid) (h' : Leads P mid c') : Leads P c c' where
  printed := h'.printed.trans h.printed
  errors := by
    obtain ⟨shown, same⟩ := h.errors
    obtain ⟨more, same'⟩ := h'.errors
    exact ⟨shown ++ more, by rw [same', same, String.append_assoc]⟩
  started := by
    obtain ⟨commands, same, each⟩ := h.started
    obtain ⟨more, same', each'⟩ := h'.started
    exact ⟨commands ++ more, by rw [same', same, List.append_assoc],
      List.forall_mem_append.mpr ⟨each, each'⟩⟩

end Leads

/-- A computation with a console that does to the world what another one does without. -/
def Tracks (P : Command → Prop) (x : StateM (Console World) α) (y : StateM World α) : Prop :=
  ∀ c, ∃ c', x.run c = ((y.run c.world).1, c') ∧ c'.world = (y.run c.world).2 ∧ Leads P c c'

namespace Tracks

variable {P : Command → Prop}

theorem pure (a : α) : Tracks P (pure a : StateM (Console World) α) (pure a) :=
  fun c => ⟨c, rfl, rfl, .refl P c⟩

theorem lift (x : StateM World α) : Tracks P (Console.lift x) x :=
  fun c => ⟨{ c with world := (x.run c.world).2 }, rfl, rfl, rfl, ⟨"", String.append_empty.symm⟩,
    [], (List.append_nil _).symm, by simp⟩

theorem bind {x : StateM (Console World) α} {y : StateM World α}
    {f : α → StateM (Console World) β} {g : α → StateM World β} (first : Tracks P x y)
    (rest : ∀ a, Tracks P (f a) (g a)) : Tracks P (x >>= f) (y >>= g) := by
  intro c
  obtain ⟨mid, ran, world, leads⟩ := first c
  obtain ⟨c', ran', world', leads'⟩ := rest (y.run c.world).1 mid
  rw [world] at ran' world'
  exact ⟨c', (Evaluator.run_bind_of_run ran).trans ran', world', leads.trans leads'⟩

end Tracks

end Console

open Console

variable {session : Session (StateM World)} {P : Command → Prop}

namespace Evaluator

variable {evaluator : Evaluator} {invocation : Invocation} {path : String}

theorem tracks_collect
    (own : ∀ command, evaluator.commandFor? invocation path = some command → P command) :
    Tracks P (evaluator.collect session.onConsole.toHost invocation path)
      (evaluator.collect session.toHost invocation path) := by
  rw [collect, collect]
  cases asks : evaluator.commandFor? invocation path with
  | none => exact .pure _
  | some command =>
    have starts : Tracks P (session.onConsole.start command) (session.start command) := by
      rw [Host.start, Host.start]
      split_ifs
      · refine fun c => ⟨_, rfl, rfl, rfl, ⟨"", String.append_empty.symm⟩, [command], rfl, ?_⟩
        simpa using own command asks
      · exact .pure _
    refine starts.bind fun answer => ?_
    cases answer with
    | error => exact .pure _
    | ok ended =>
      dsimp only
      split_ifs
      · refine .bind ?_ fun _ => .pure _
        exact (Tracks.lift _).bind fun found => by cases found <;> exact .pure _
      · exact .pure _

theorem tracks_evaluate (own : ∀ command,
      evaluator.commandFor? invocation invocation.geometryPath = some command → P command) :
    Tracks P (evaluator.evaluate session.onConsole.toHost invocation)
      (evaluator.evaluate session.toHost invocation) := by
  rw [evaluate, evaluate]
  cases checked : invocation.checkedGeometryPath with
  | error => exact .pure _
  | ok path =>
    obtain ⟨-, rfl⟩ := Invocation.checkedGeometryPath_eq_ok.mp checked
    exact (Tracks.lift _).bind fun _ => (tracks_collect own).bind fun _ =>
      (Tracks.lift _).bind fun _ => .pure _

end Evaluator

namespace Request

variable {request : Request} {settings : Settings} {directory : String}

def evaluator (settings : Settings) : Evaluator := ⟨settings.command, settings.libraryPath⟩

/-- A job is performed on a console as without one. Whatever it starts belongs to a question of one
of its runs. -/
theorem tracks_perform (job : Job α)
    (own : ∀ events a, Job.Runs job events a → ∀ invocation ∈ Job.asked events, ∀ command,
      (evaluator settings).commandFor? invocation invocation.geometryPath = some command →
        P command) :
    Tracks P (job.perform (request.handler session.onConsole settings))
      (job.perform (request.handler session.quiet settings)) := by
  induction job with
  | done a => exact .pure _
  | log line next ih =>
    have shows : Tracks P ((request.handler session.onConsole settings).log line)
        ((request.handler session.quiet settings).log line) := by
      simp only [handler]
      split_ifs
      · refine fun c => ⟨_, rfl, rfl, rfl, ⟨line ++ "\n", rfl⟩, [], ?_, by simp⟩
        exact (List.append_nil _).symm
      · exact .pure _
    exact shows.bind fun _ => ih fun events a runs invocation among =>
      own _ a (.log runs) invocation among
  | checkpoint study next ih =>
    exact (Tracks.pure false).bind fun stop => ih stop fun events a runs invocation among =>
      own _ a (.checkpoint stop runs) invocation among
  | ask invocation next ih =>
    have asks : Tracks P ((request.handler session.onConsole settings).ask invocation)
        ((request.handler session.quiet settings).ask invocation) := by
      refine Evaluator.tracks_evaluate fun command same => ?_
      have goes_on := (Job.ask invocation next).runs_straight fun _ => .error .noCommand
      exact own _ _ goes_on invocation List.mem_cons_self command same
    refine asks.bind fun answer => ih answer fun events a runs other among => ?_
    exact own _ a (.ask answer runs) other (List.mem_cons_of_mem _ among)

end Request

end SolidStudy
