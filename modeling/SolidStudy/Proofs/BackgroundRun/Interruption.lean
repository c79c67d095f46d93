import Mathlib
import SolidStudy.Proofs.BackgroundRun.Status
import SolidStudy.Proofs.BackgroundRun.Trace
import SolidStudy.Proofs.Run.Resumption

/-! Interruptions of a background run. A request to stop is heard where the worker looks for one,
at its next checkpoint; from there on nothing is asked or shown any more. In between it changes
nothing: a stage that is under way comes to its own end. -/
namespace SolidStudy

variable {target : Progress} {stages : List Stage} {study reached : Study}
  {events rest : List Job.Event} {outcome : Outcome}

namespace Job

theorem split_behind {front back before after : List Event} {event : Event}
    (absent : event ∉ front) (h : front ++ back = before ++ event :: after) :
    ∃ between, before = front ++ between ∧ back = between ++ event :: after := by
  rcases List.append_eq_append_iff.mp h with ⟨between, rfl, rfl⟩ | ⟨between, rfl, same⟩
  · exact ⟨between, rfl, rfl⟩
  · cases between with
    | nil => exact ⟨[], by simp, same.symm⟩
    | cons first between =>
      obtain ⟨rfl, -⟩ := List.cons_eq_cons.mp same
      simp at absent

end Job

namespace Study

/-- What follows the checkpoint at a study: a stage to its good end and the next checkpoint, a stage
to its fault, or no stage. -/
inductive Followed (target : Progress) (reached : Study) (outcome : Outcome) :
    List Job.Event → Prop
  | performed {stage : Stage} {own later : List Job.Event} {next : Study} (stop : Bool)
      (listed : stage ∈ Stage.all) (due : stage.Due target reached)
      (gets : (stage.perform reached).Gets own next) :
      Followed target reached outcome
        (.logged stage.announcement :: own ++ .shown next stop :: later)
  | failed {stage : Stage} {own : List Job.Event} {fault : RunFault} (listed : stage ∈ Stage.all)
      (due : stage.Due target reached) (fails : (stage.perform reached).Fails own fault)
      (ends : outcome = ⟨reached, .error fault⟩) :
      Followed target reached outcome (.logged stage.announcement :: own)
  | closed (ends : outcome = ⟨reached, .ok ()⟩) :
      Followed target reached outcome [.logged Stage.closing]

theorem RunsStages.followed (h : RunsStages target stages study events outcome)
    (listed : ∀ stage ∈ stages, stage ∈ Stage.all) {past : List Job.Event}
    (split : .shown study false :: events = past ++ .shown reached false :: rest) :
    Followed target reached outcome rest := by
  induction h generalizing past with
  | closing study =>
    cases past with
    | nil =>
      cases split
      exact .closed rfl
    | cons first past => cases past <;> simp at split
  | skipped _ _ ih => exact ih (fun stage h => listed stage (List.mem_cons_of_mem _ h)) split
  | @failed stage _ study own fault due fails =>
    have listed := listed stage List.mem_cons_self
    have silent := (Stage.discreet_of_mem listed).shown_of_fails _ _ _ fails
    cases past with
    | nil =>
      cases split
      exact .failed listed due fails rfl
    | cons first past =>
      have found : .shown reached false ∈ Job.Event.logged stage.announcement :: own := by
        rw [(List.cons_eq_cons.mp split).2]
        simp
      simp [Job.not_mem_of_shown_eq_nil silent] at found
  | @interrupted stage _ study next own due gets =>
    have listed := listed stage List.mem_cons_self
    have silent := (Stage.discreet_of_mem listed).shown_of_gets _ _ _ gets
    cases past with
    | nil =>
      cases split
      exact .performed true listed due gets
    | cons first past =>
      have found : .shown reached false ∈
          Job.Event.logged stage.announcement :: own ++ [.shown next true] := by
        rw [(List.cons_eq_cons.mp split).2]
        simp
      simp [Job.not_mem_of_shown_eq_nil silent] at found
  | @performed stage _ study next own later _ due gets _ ih =>
    have others := fun other h => listed other (List.mem_cons_of_mem _ h)
    have listed := listed stage List.mem_cons_self
    have silent := (Stage.discreet_of_mem listed).shown_of_gets _ _ _ gets
    cases past with
    | nil =>
      cases split
      exact .performed false listed due gets
    | cons first past =>
      have absent : .shown reached false ∉ Job.Event.logged stage.announcement :: own := by
        simp [Job.not_mem_of_shown_eq_nil silent]
      obtain ⟨between, -, split⟩ := Job.split_behind absent (List.cons_eq_cons.mp split).2
      exact ih others split

end Study

namespace Worker

variable {worker : Worker} {answer : Except EvaluatorFault Evaluation} {last : Study} {stop : Bool}

/-- Whether all that is left to do is to end in this way. -/
inductive Ending (outcome : Outcome) : Worker → Prop
  | concluding : Ending outcome (.working (.done outcome))
  | settled : Ending outcome (.settled outcome)
  | finished : Ending outcome (.finished outcome)

theorem Ending.advance (h : worker.Ending outcome) :
    (worker.advance answer stop).Ending outcome := by
  cases h with
  | concluding => exact .settled
  | settled | finished => exact .finished

theorem Ending.lives (h : worker.Ending outcome) : worker.lives answer last stop = [] := by
  cases h <;> rfl

theorem Ending.shows (h : worker.Ending outcome) (same : last = outcome.study) :
    worker.shows last = outcome.study := by
  cases h with
  | concluding => rfl
  | settled | finished => exact same

end Worker

namespace BackgroundRun

theorem InOrder.stops {next : Bool → Job Outcome} {last : Study}
    (h : InOrder study target events (.shown next) last) :
    next true = .done ⟨last, .error .interrupted⟩ := by
  cases h with
  | shown _ stops => exact stops

namespace Course

variable {c : Course} {n m : ℕ} {own : List Job.Event}

/-- Whether the worker has shown a study and not yet looked whether it is to stop. -/
def AtCheckpoint (c : Course) (n : ℕ) : Prop :=
  ∃ next, (c.moment n).worker = .shown next

theorem interrupting_iff (c : Course) (n : ℕ) :
    (c.moment n).interrupting = true ↔ ∃ k < n, c.events k = .askToStop := by
  induction n with
  | zero => exact iff_of_false Bool.false_ne_true (by simp)
  | succ n ih =>
    rw [Nat.exists_lt_succ_right, ← ih, moment]
    cases c.events n with
    | work answer => simp [(after_work (c.moment n) answer).2.2]
    | askToStop => simp [after]
    | logStop | takeLogs => simp [after, takeLogs]

theorem AtCheckpoint.shown (h : c.AtCheckpoint n) :
    ∃ k < n, (∃ next, (c.moment k).worker = .working (.checkpoint (c.moment n).snapshot next)) ∧
      ∀ between, k < between → between ≤ n → c.AtCheckpoint between := by
  induction n with
  | zero =>
    obtain ⟨next, start⟩ := h
    cases start
  | succ n ih =>
    have now : ∀ between, n < between → between ≤ n + 1 → c.AtCheckpoint between :=
      fun between after before => (show between = n + 1 by omega) ▸ h
    obtain ⟨next, shown⟩ := h
    cases c.passes n with
    | worked answer _ worker snapshot =>
      rw [shown] at worker
      refine ⟨n, Nat.lt_succ_self n, ?_, now⟩
      rw [snapshot]
      cases before : (c.moment n).worker with
      | working job =>
        cases job with
        | checkpoint study next => exact ⟨next, rfl⟩
        | done | log | ask => simp [before, Worker.advance] at worker
      | shown | settled | finished => simp [before, Worker.advance] at worker
    | waited _ worker snapshot =>
      obtain ⟨k, earlier, showed, since⟩ := ih ⟨next, worker.symm.trans shown⟩
      refine ⟨k, Nat.lt_succ_of_lt earlier, snapshot ▸ showed, fun between after before => ?_⟩
      rcases Nat.lt_or_ge n between with last | old
      · exact now between last before
      · exact since between after old

theorem FindsStop.succ (h : c.FindsStop n) :
    (c.moment (n + 1)).worker.Ending ⟨(c.moment n).snapshot, .error .interrupted⟩ ∧
      (c.moment (n + 1)).snapshot = (c.moment n).snapshot ∧
      c.trace (n + 1) = c.trace n ++ [.shown (c.moment n).snapshot true] := by
  obtain ⟨asked, ⟨next, shown⟩, answer, event⟩ := h
  have place := c.inOrder n
  rw [shown] at place
  cases c.passes n with
  | worked answer' _ worker snapshot trace =>
    rw [shown] at worker snapshot trace
    rw [asked, Worker.advance, place.stops] at worker
    rw [worker, trace, asked]
    exact ⟨.concluding, snapshot, rfl⟩
  | waited other => exact absurd event (other answer)

theorem ending_moment (h : (c.moment n).worker.Ending outcome)
    (shown : (c.moment n).snapshot = outcome.study) (later : n ≤ m) :
    (c.moment m).worker.Ending outcome ∧ (c.moment m).snapshot = outcome.study ∧
      c.trace m = c.trace n := by
  induction m, later using Nat.le_induction with
  | base => exact ⟨h, shown, rfl⟩
  | succ m _ ih =>
    obtain ⟨ending, shown, done⟩ := ih
    cases c.passes m with
    | worked answer _ worker snapshot trace =>
      rw [worker, snapshot, trace, ending.lives, List.append_nil]
      exact ⟨ending.advance, ending.shows shown, done⟩
    | waited _ worker snapshot trace =>
      rw [worker, snapshot, trace]
      exact ⟨ending, shown, done⟩

/-- Once it is heard, nothing is asked or shown any more, and the run ends with the study of that
checkpoint. -/
theorem FindsStop.afterwards (h : c.FindsStop n) (later : n < m) :
    c.trace m = c.trace n ++ [.shown (c.moment n).snapshot true] ∧
      (c.moment m).question? = none ∧ ¬ c.AtCheckpoint m ∧
      (c.moment m).snapshot = (c.moment n).snapshot ∧
      ∀ outcome, (c.moment m).outcome? = some outcome →
        outcome = ⟨(c.moment n).snapshot, .error .interrupted⟩ := by
  obtain ⟨ending, shown, passed⟩ := h.succ
  obtain ⟨ending, shown, done⟩ := ending_moment ending shown (Nat.succ_le_of_lt later)
  refine ⟨done.trans passed, ?_, ?_, shown, fun outcome ended => ?_⟩
  · unfold question?
    generalize (c.moment m).worker = worker at ending
    cases ending <;> rfl
  · intro elsewhere
    obtain ⟨next, elsewhere⟩ := elsewhere
    rw [elsewhere] at ending
    cases ending
  · rw [outcome?_eq_some_iff.mp ended] at ending
    cases ending
    rfl

theorem worker_outcome?_mono (h : n ≤ m) (ended : (c.moment n).worker.outcome?.isSome = true) :
    (c.moment m).worker.outcome?.isSome = true := by
  induction m, h using Nat.le_induction with
  | base => exact ended
  | succ m _ ih => exact outcome?_worker_succ c ih

/-- A worker that is not at its end yet comes to its end later. -/
theorem lt_of_outcome? (going : (c.moment n).worker.outcome? = none)
    (ended : (c.moment m).outcome? = some outcome) : n < m := by
  by_contra! before
  have still := worker_outcome?_mono before (by rw [outcome?_eq_some_iff.mp ended]; rfl)
  rw [going] at still
  cases still

theorem FindsStop.finishes (h : c.FindsStop n) (served : c.Served) : ∃ m, n < m ∧
    (c.moment m).outcome? = some ⟨(c.moment n).snapshot, .error .interrupted⟩ := by
  obtain ⟨m, outcome, ended⟩ := served.finishes
  obtain ⟨next, shown⟩ := h.2.1
  have later : n < m := lt_of_outcome? (by rw [shown]; rfl) ended
  exact ⟨m, later, (h.afterwards later).2.2.2.2 outcome ended ▸ ended⟩

/-- Whether the worker has passed the checkpoint at a study, and then made these steps without
coming to its next checkpoint or to its end. -/
structure UnderWay (c : Course) (n : ℕ) (reached : Study) (own : List Job.Event) : Prop where
  passed : ∃ past, c.trace n = past ++ .shown reached false :: own
  silent : Job.shown own = []
  going : ∃ job, (c.moment n).worker = .working job

/-- How a worker goes on that is under way from a study: its stage comes to a good end, which the
next checkpoint shows, or the stage fails and the run with it, or no stage is left. -/
inductive GoesOn (c : Course) (n : ℕ) (reached : Study) (own : List Job.Event) : Prop
  | performed {m : ℕ} (later : n ≤ m) {stage : Stage} {steps more : List Job.Event}
      (listed : stage ∈ Stage.all) (due : stage.Due c.target reached)
      (begun : .logged stage.announcement :: steps = own ++ more)
      (gets : (stage.perform reached).Gets steps (c.moment m).snapshot)
      (trace : c.trace m = c.trace n ++ more) (checkpoint : c.AtCheckpoint m)
  | failed {m : ℕ} (later : n ≤ m) {stage : Stage} {steps more : List Job.Event} {fault : RunFault}
      (listed : stage ∈ Stage.all) (due : stage.Due c.target reached)
      (begun : .logged stage.announcement :: steps = own ++ more)
      (fails : (stage.perform reached).Fails steps fault) (foreign : fault ≠ .interrupted)
      (trace : c.trace m = c.trace n ++ more)
      (ended : (c.moment m).outcome? = some ⟨{ reached with errored := true }, .error fault⟩)
  | closed {m : ℕ} (later : n ≤ m) {more : List Job.Event}
      (begun : [.logged Stage.closing] = own ++ more) (trace : c.trace m = c.trace n ++ more)
      (ended : (c.moment m).outcome? = some ⟨reached, .ok ()⟩)

theorem UnderWay.goesOn (h : c.UnderWay n reached own) (served : c.Served) :
    c.GoesOn n reached own := by
  obtain ⟨⟨past, passed⟩, silent, job, going⟩ := h
  obtain ⟨k, outcome, ended⟩ := served.finishes
  have later : n ≤ k := (lt_of_outcome? (by rw [going]; rfl) ended).le
  obtain ⟨tail, whole⟩ := trace_extends later
  have runs := runs_of_outcome? ended
  rw [← whole, passed, List.append_assoc, List.cons_append] at runs
  rcases Study.run_runs_iff.mp runs with ⟨stopped, -⟩ | ⟨events, ending, split, stages, rfl⟩
  · cases past <;> simp at stopped
  · have followed := stages.followed (fun _ => id) split.symm
    generalize begun : own ++ tail = rest at followed
    cases followed with
    | @performed stage steps further next stop listed due gets =>
      -- The checkpoint is not among the steps made so far, so it lies in those still to come.
      have absent : .shown next stop ∉ own := Job.not_mem_of_shown_eq_nil silent
      obtain ⟨more, front, rfl⟩ := Job.split_behind absent begun
      rw [← List.append_assoc] at whole
      obtain ⟨m, -, trace, step⟩ := exists_step whole.symm
      rw [← trace] at step
      obtain ⟨checkpoint, rfl, -⟩ := passed_checkpoint step
      refine .performed ?_ listed due front gets trace checkpoint
      by_contra! before
      have short : (c.trace (m + 1)).length ≤ (c.trace n).length :=
        (trace_extends before).length_le
      simp [step, trace] at short
    | @failed stage steps fault listed due fails ends =>
      have foreign := (Stage.regular_of_mem listed).faults _ _ _ fails
      rw [ends, mark_eq foreign] at ended
      exact .failed later listed due begun.symm fails foreign whole.symm ended
    | closed ends =>
      rw [ends] at ended
      exact .closed later begun.symm whole.symm ended

/-- To interrupt is to ask the run to stop and then to say so in the log, unless somebody asked
before. A request to stop is heard at the next checkpoint that the worker passes. From there on it
asks nothing and comes to no other checkpoint, and it ends as an interrupted one with the study
shown there. Between checkpoints requests change nothing: a stage comes to its own end, and its
fault is the fault of the run. Without a request, no run is interrupted. -/
theorem interrupts_at_checkpoints (c : Course) :
    (∀ run : BackgroundRun, run.interrupt.interrupting = true ∧ run.interrupt =
      if run.interrupting then run else (run.after .askToStop).after .logStop) ∧
    (∀ k n answer, c.events k = .askToStop → k < n → c.AtCheckpoint n →
      c.events n = .work answer → c.FindsStop n) ∧
    (∀ n, c.FindsStop n →
      (∃ k < n, (∃ next, (c.moment k).worker =
          .working (.checkpoint (c.moment n).snapshot next)) ∧
        ∀ between, k < between → between ≤ n → c.AtCheckpoint between) ∧
      (∀ m, n < m →
        c.trace m = c.trace n ++ [.shown (c.moment n).snapshot true] ∧
          (c.moment m).question? = none ∧ ¬ c.AtCheckpoint m ∧
          (c.moment m).snapshot = (c.moment n).snapshot ∧
          ∀ outcome, (c.moment m).outcome? = some outcome →
            outcome = ⟨(c.moment n).snapshot, .error .interrupted⟩) ∧
      (c.Served → ∃ m, n < m ∧
        (c.moment m).outcome? = some ⟨(c.moment n).snapshot, .error .interrupted⟩)) ∧
    (c.Served → ∀ n reached own, c.UnderWay n reached own → c.GoesOn n reached own) ∧
    ∀ n outcome, (c.moment n).outcome? = some outcome → outcome.result = .error .interrupted →
      ∃ k mid, k < mid ∧ mid < n ∧ c.events k = .askToStop ∧ c.FindsStop mid := by
  refine ⟨fun run => ⟨run.interrupting_interrupt, run.interrupt_eq⟩,
    fun k n answer asked before checkpoint event => ?_, fun n found => ⟨?_, ?_, ?_⟩,
    fun served n reached own under => under.goesOn served, fun n outcome ended interrupted => ?_⟩
  · exact ⟨(c.interrupting_iff n).mpr ⟨k, before, asked⟩, checkpoint, answer, event⟩
  · exact AtCheckpoint.shown found.2.1
  · exact fun m later => found.afterwards later
  · exact found.finishes
  · obtain ⟨mid, before, found⟩ := (interrupted_iff ended).mp interrupted
    obtain ⟨k, earlier, asked⟩ := (c.interrupting_iff mid).mp found.1
    exact ⟨k, mid, earlier, before, asked, found⟩

/-- A request comes while the inventory is taken. The inventory comes to its end, the next
checkpoint shows it, and there the run stops. -/
theorem interrupts_at_checkpoints_in_stage :
    let analysis : Statement := [.text Directive.marker, .text "analysis_directive",
      .vector [.text "*STEP"], .vector [.text "mm", .text "t", .text "s"]]
    let fresh := Study.new "part.scad" "/tmp"
    let listed := { fresh with
      progress := .inventoryDone
      deck := ["*STEP"]
      units := some ⟨⟨"mm", .length, 1e-3⟩, ⟨"t", .mass, 1e3⟩, ⟨"s", .time, 1⟩⟩ }
    let c : Course := ⟨fresh, .solidsDone, fun n =>
      if n = 3 then .askToStop else .work (.ok ⟨none, [], [analysis]⟩)⟩
    c.Served ∧ c.UnderWay 3 fresh [.logged Stage.inventory.announcement] ∧
      c.GoesOn 3 fresh [.logged Stage.inventory.announcement] ∧
      c.FindsStop 6 ∧ (c.moment 6).snapshot = listed ∧
      (c.moment 9).outcome? = some ⟨listed, .error .interrupted⟩ ∧
      ∀ m, 6 < m → (c.moment m).question? = none ∧ (c.moment m).snapshot = listed := by
  intro analysis fresh listed c
  obtain ⟨-, heard, stops, goesOn, -⟩ := interrupts_at_checkpoints c
  have served : c.Served := fun n =>
    ⟨n + 4, by omega, .ok ⟨none, [], [analysis]⟩, by simp [c]⟩
  have under : c.UnderWay 3 fresh [.logged Stage.inventory.announcement] :=
    ⟨⟨[], rfl⟩, rfl, _, rfl⟩
  have found : c.FindsStop 6 := heard 3 6 _ rfl (by decide) ⟨_, rfl⟩ rfl
  have shown : (c.moment 6).snapshot = listed := rfl
  obtain ⟨-, after, -⟩ := stops 6 found
  refine ⟨served, under, goesOn served 3 fresh _ under, found, shown, rfl, fun m later => ?_⟩
  obtain ⟨-, quiet, -, stays, -⟩ := after m later
  exact ⟨quiet, stays.trans shown⟩

end Course

end BackgroundRun

end SolidStudy
