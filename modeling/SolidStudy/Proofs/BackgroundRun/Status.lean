import Mathlib
import SolidStudy.Proofs.BackgroundRun.Boundary

/-! What may be concluded from a status. A status that says that a run is over comes with the last
study of the run; it foretells how the run ends, but for an interruption that comes too late or
just in time. -/
namespace SolidStudy.BackgroundRun

variable {study reached : Study} {target : Progress} {events : List Job.Event} {worker : Worker}
  {last : Study} {outcome : Outcome} {early late : BackgroundRun}

theorem statusSeen_eq_done_iff : statusSeen early late = .done ↔
    early.interrupting = false ∧ late.snapshot.errored = false ∧
      late.target ≤ late.snapshot.progress := by
  unfold statusSeen
  split_ifs <;> simp_all

theorem statusSeen_eq_errored_iff : statusSeen early late = .errored ↔
    early.interrupting = false ∧ late.snapshot.errored = true := by
  unfold statusSeen
  split_ifs <;> simp_all

theorem statusSeen_eq_interrupted_iff : statusSeen early late = .interrupted ↔
    early.interrupting = true ∧ late.isFinished = true := by
  unfold statusSeen
  split_ifs <;> simp_all

/-- Whether a study is the one at a boundary that the steps went through, perhaps with the mark. -/
def AtBoundary (study : Study) (target : Progress) (events : List Job.Event) (last : Study) :
    Prop :=
  ∃ past reached, past <+: events ∧ Boundary study target past reached ∧
    (last = reached ∨ last = { reached with errored := true })

theorem Ends.atBoundary (h : Ends study target events outcome) :
    AtBoundary study target events outcome.study := by
  cases h with
  | done boundary | stopped boundary => exact ⟨_, _, List.prefix_append _ _, boundary, .inl rfl⟩
  | failed boundary => exact ⟨_, _, List.prefix_append _ _, boundary, .inr rfl⟩

theorem InOrder.atBoundary (h : InOrder study target events worker last) :
    AtBoundary study target events last := by
  cases h with
  | opening => exact ⟨[], study, List.prefix_rfl, .begun, .inl rfl⟩
  | shown boundary => exact ⟨_, _, List.prefix_rfl, boundary, .inl rfl⟩
  | working boundary | stopping boundary =>
    exact ⟨_, _, List.prefix_append _ _, boundary, .inl rfl⟩
  | settled ends | finished ends => exact ends.atBoundary

theorem InOrder.errored (h : InOrder study target events worker last)
    (going : worker.outcome? = none) : last.errored = study.errored := by
  cases h with
  | opening => rfl
  | shown boundary | working boundary | stopping boundary => exact boundary.errored
  | settled | finished => cases going

theorem InOrder.ends (h : InOrder study target events (.finished outcome) last) :
    Ends study target events outcome ∧ last = outcome.study := by
  cases h with
  | finished ends => exact ⟨ends, rfl⟩

theorem Ends.of_unmarked (h : Ends study target events outcome)
    (sound : outcome.study.errored = false) :
    outcome.result = .ok () ∨ outcome.result = .error .interrupted := by
  cases h with
  | done => exact .inl rfl
  | failed => cases sound
  | stopped => exact .inr rfl

/-- Only a fault of the run itself leaves the mark. -/
theorem Ends.of_marked (h : Ends study target events outcome) (unmarked : study.errored = false)
    (marked : outcome.study.errored = true) :
    ∃ fault, outcome.result = .error fault ∧ fault ≠ .interrupted := by
  cases h with
  | done boundary | stopped boundary =>
    rw [boundary.errored, unmarked] at marked
    cases marked
  | failed _ _ foreign => exact ⟨_, rfl, foreign⟩

namespace Course

variable (c : Course) {n m : ℕ}

theorem outcome?_worker_succ (h : (c.moment n).worker.outcome?.isSome = true) :
    (c.moment (n + 1)).worker.outcome?.isSome = true := by
  cases c.passes n with
  | worked _ _ worker =>
    rw [worker]
    cases now : (c.moment n).worker with
    | working | shown => simp [now, Worker.outcome?] at h
    | settled | finished => rfl
  | waited _ worker => rwa [worker]

/-- Whether the study shown is the last one. -/
def Final (n : ℕ) : Prop :=
  c.target ≤ (c.moment n).snapshot.progress ∨ (c.moment n).worker.outcome?.isSome = true

variable {c}

theorem Final.snapshot_succ (final : c.Final n) :
    (c.moment (n + 1)).snapshot = (c.moment n).snapshot := by
  cases c.passes n with
  | worked _ _ _ snapshot => rw [snapshot, (c.inOrder n).shows_eq final]
  | waited _ _ snapshot => exact snapshot

theorem Final.succ (final : c.Final n) : c.Final (n + 1) := by
  refine final.imp (fun reached => ?_) (outcome?_worker_succ c)
  rwa [final.snapshot_succ]

theorem Final.snapshot_eq (final : c.Final n) (h : n ≤ m) :
    (c.moment m).snapshot = (c.moment n).snapshot := by
  have stays : c.Final m ∧ (c.moment m).snapshot = (c.moment n).snapshot := by
    induction m, h using Nat.le_induction with
    | base => exact ⟨final, rfl⟩
    | succ m _ ih => exact ⟨ih.1.succ, ih.1.snapshot_succ.trans ih.2⟩
  exact stays.2

theorem ends_of_outcome? (ended : (c.moment n).outcome? = some outcome) :
    Ends c.study c.target (c.trace n) outcome ∧ (c.moment n).snapshot = outcome.study ∧
      c.Final n := by
  have finished := outcome?_eq_some_iff.mp ended
  have place := c.inOrder n
  rw [finished] at place
  exact ⟨place.ends.1, place.ends.2, .inr (by rw [finished]; rfl)⟩

/-- Once a study is shown for the last time, it is the one that the worker ends with. -/
theorem Final.snapshot_eq_outcome (final : c.Final n) (h : n ≤ m) {k : ℕ}
    (ended : (c.moment k).outcome? = some outcome) : (c.moment m).snapshot = outcome.study := by
  obtain ⟨-, left, last⟩ := ends_of_outcome? ended
  rcases le_total m k with before | behind
  · rw [final.snapshot_eq h, ← final.snapshot_eq (h.trans before), left]
  · rw [last.snapshot_eq behind, left]

theorem final_of_status (unmarked : c.study.errored = false) (h : statusSeen
    (c.moment n) (c.moment m) ∈ [RunStatus.done, .errored, .interrupted]) : c.Final m := by
  simp only [List.mem_cons, List.not_mem_nil, or_false] at h
  rcases h with done | errored | interrupted
  · have reached := (statusSeen_eq_done_iff.mp done).2.2
    rw [target_moment] at reached
    exact .inl reached
  · right
    cases going : (c.moment m).worker.outcome? with
    | some => rfl
    | none =>
      have marked := (statusSeen_eq_errored_iff.mp errored).2
      rw [(c.inOrder m).errored going, unmarked] at marked
      contradiction
  · obtain ⟨outcome, ended⟩ :=
      Option.isSome_iff_exists.mp (statusSeen_eq_interrupted_iff.mp interrupted).2
    exact (ends_of_outcome? ended).2.2

theorem stopped_iff (c : Course) (n : ℕ) :
    Stopped (c.moment n).worker ↔ ∃ mid < n, c.FindsStop mid := by
  induction n with
  | zero => exact iff_of_false id (by simp)
  | succ n ih =>
    rw [Nat.exists_lt_succ_right, ← ih]
    cases c.passes n with
    | worked answer event worker =>
      rw [worker, (c.inOrder n).stopped_advance]
      simp [FindsStop, event]
    | waited other worker =>
      rw [worker]
      simp [FindsStop, other]

/-- A run ends as an interrupted one if and only if the worker once found that it is to stop. -/
theorem interrupted_iff (ended : (c.moment n).outcome? = some outcome) :
    outcome.result = .error .interrupted ↔ ∃ mid < n, c.FindsStop mid := by
  have finished := outcome?_eq_some_iff.mp ended
  rw [← stopped_iff, finished]
  exact Iff.rfl

/-- Every study that is shown is the first one or the one after a stage, perhaps with the mark.
After a status that says that the run is over it is, for ever, the study that the worker ends
with. -/
theorem terminal_snapshot (c : Course) (unmarked : c.study.errored = false) :
    (∀ n, AtBoundary c.study c.target (c.trace n) (c.moment n).snapshot) ∧
    ∀ early late, early ≤ late →
      statusSeen (c.moment early) (c.moment late) ∈ [RunStatus.done, .errored, .interrupted] →
      ∀ later, late ≤ later → (c.moment later).snapshot = (c.moment late).snapshot ∧
        ∀ n outcome, (c.moment n).outcome? = some outcome →
          (c.moment later).snapshot = outcome.study := by
  refine ⟨fun n => (c.inOrder n).atBoundary, fun early late _ seen later h => ?_⟩
  have final := final_of_status unmarked seen
  exact ⟨final.snapshot_eq h, fun n outcome ended => final.snapshot_eq_outcome h ended⟩

/-- The status is *done* from the moment the inventory is shown; a request to stop that comes then
ends the run, and changes nothing that is shown. -/
theorem terminal_snapshot_stopped_late :
    let analysis : Statement := [.text Directive.marker, .text "analysis_directive",
      .vector [.text "*STEP"], .vector [.text "mm", .text "t", .text "s"]]
    let block : Statement := [.text Directive.marker, .text "mesh_directive", .text "block"]
    let fresh := Study.new "part.scad" "/tmp"
    let listed := { fresh with
      progress := .inventoryDone
      deck := ["*STEP"]
      units := some ⟨⟨"mm", .length, 1e-3⟩, ⟨"t", .mass, 1e3⟩, ⟨"s", .time, 1⟩⟩
      meshes := ⟨[("block", ⟨.automatic, none⟩)], List.pairwise_singleton _ _⟩ }
    let c : Course := ⟨fresh, .inventoryDone, fun n =>
      if n = 5 then .askToStop else .work (.ok ⟨none, [], [analysis, block]⟩)⟩
    (c.moment 4).status = .running ∧ (c.moment 5).status = .done ∧
      (c.moment 9).status = .interrupted ∧
      (c.moment 9).outcome? = some ⟨listed, .error .interrupted⟩ ∧
      ∀ later, 5 ≤ later → (c.moment later).snapshot = listed := by
  intro analysis block fresh listed c
  have done : (c.moment 5).status = .done := rfl
  have ended : (c.moment 9).outcome? = some ⟨listed, .error .interrupted⟩ := rfl
  refine ⟨rfl, done, rfl, ended, fun later h => ?_⟩
  have seen : statusSeen (c.moment 5) (c.moment 5) ∈ [RunStatus.done, .errored, .interrupted] := by
    simp [← status_eq, done]
  exact ((terminal_snapshot c rfl).2 5 5 le_rfl seen later h).2 9 _ ended

/-- A worker that is served comes to its end. If the status was ever *done*, the run ends well, or
interrupted by someone who asked after the status was taken and whom the worker heard; if it was
*errored*, the run ends in a fault of its own; if it was *interrupted*, the run ends as an
interrupted one exactly if the worker once found that it is to stop. -/
theorem status_foretells (c : Course) (unmarked : c.study.errored = false) :
    (c.Served → ∃ n outcome, (c.moment n).outcome? = some outcome) ∧
    ∀ n outcome, (c.moment n).outcome? = some outcome → ∀ early late, early ≤ late →
      (statusSeen (c.moment early) (c.moment late) = .done →
        outcome.result = .ok () ∨ outcome.result = .error .interrupted ∧
          ∃ mid, early ≤ mid ∧ mid < n ∧ c.FindsStop mid) ∧
      (statusSeen (c.moment early) (c.moment late) = .errored →
        ∃ fault, outcome.result = .error fault ∧ fault ≠ .interrupted) ∧
      (statusSeen (c.moment early) (c.moment late) = .interrupted →
        (outcome.result = .error .interrupted ↔ ∃ mid < n, c.FindsStop mid)) := by
  refine ⟨Served.finishes, fun n outcome ended early late _ => ⟨fun done => ?_, fun errored => ?_,
    fun _ => interrupted_iff ended⟩⟩
  · obtain ⟨calm, sound, -⟩ := statusSeen_eq_done_iff.mp done
    have final : c.Final late := final_of_status unmarked (by rw [done]; simp)
    rw [final.snapshot_eq_outcome le_rfl ended] at sound
    refine (ends_of_outcome? ended).1.of_unmarked sound |>.imp_right fun interrupted => ?_
    obtain ⟨mid, before, found⟩ := (interrupted_iff ended).mp interrupted
    refine ⟨interrupted, mid, ?_, before, found⟩
    by_contra! past
    rw [c.interrupting_mono past.le found.1] at calm
    cases calm
  · have marked := (statusSeen_eq_errored_iff.mp errored).2
    have final : c.Final late := final_of_status unmarked (by rw [errored]; simp)
    rw [final.snapshot_eq_outcome le_rfl ended] at marked
    exact (ends_of_outcome? ended).1.of_marked unmarked marked

/-- The evaluator cannot be started; the run was asked to stop, but not before that. -/
theorem status_foretells_no_command :
    let c : Course := ⟨Study.new "part.scad" "/tmp", .solidsDone, fun n =>
      if n = 6 then .askToStop else .work (.error .noCommand)⟩
    (c.moment 5).status = .errored ∧ (c.moment 7).status = .interrupted ∧
      ∃ outcome, (c.moment 7).outcome? = some outcome ∧
        (∃ fault, outcome.result = .error fault ∧ fault ≠ .interrupted) ∧
        ¬ ∃ mid < 7, c.FindsStop mid := by
  intro c
  have errored : (c.moment 5).status = .errored := rfl
  have interrupted : (c.moment 7).status = .interrupted := rfl
  refine ⟨errored, interrupted, _, rfl, ?_⟩
  have foretold := (status_foretells c rfl).2 7 _ rfl
  obtain ⟨fault, failed, own⟩ := (foretold 5 5 le_rfl).2.1 errored
  exact ⟨⟨fault, failed, own⟩, fun found => own (Except.error.inj
    (failed.symm.trans (((foretold 7 7 le_rfl).2.2 interrupted).mpr found)))⟩

/-- A request to stop that comes after the status *done* may still be heard, and one that comes
after the end of a run makes its status *interrupted*. -/
theorem statuses_overtaken :
    let fresh := Study.new "part.scad" "tmp"
    let interruptedAt (moment : ℕ) : Course := ⟨fresh, .nothingDone, fun n =>
      if n = moment then .askToStop else .work (.error .noCommand)⟩
    fresh.errored = false ∧
      ((interruptedAt 1).moment 1).status = .done ∧
      ((interruptedAt 1).moment 5).outcome? = some ⟨fresh, .error .interrupted⟩ ∧
      ((interruptedAt 5).moment 6).outcome? = some ⟨fresh, .ok ()⟩ ∧
      ((interruptedAt 5).moment 6).status = .interrupted :=
  ⟨rfl, rfl, rfl, rfl, rfl⟩

end Course

end SolidStudy.BackgroundRun
