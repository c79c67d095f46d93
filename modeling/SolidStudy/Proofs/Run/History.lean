import Mathlib
import SolidStudy.Proofs.Run.Atomicity

/-! Sequences of runs. Each run begins with the study that the run before left, with any target and
whatever it is answered; the studies that are seen form one chain, in which stages raise the
progress and faults set the mark. -/
namespace SolidStudy

/-- No answer has as many statements as there are bits to give out. -/
def Job.Event.Short : Job.Event → Prop
  | .asked _ (.ok evaluation) => evaluation.statements.length < 2 ^ 32 - 1
  | _ => True

namespace Study

variable {source outputDir : String} {target : Progress} {study next : Study}
  {seen : List Study} {events : List Job.Event} {outcome : Outcome}

/-- A stage raised the progress of the study, or the study was marked or left as it was. -/
inductive Advances : Study → Study → Prop
  | marked (study : Study) (mark : Bool) : Advances study { study with errored := mark }
  | inventory {study next : Study} {own : List Job.Event} (due : study.progress = .nothingDone)
      (short : ∀ event ∈ own, event.Short) (gets : study.takeInventory.Gets own next) :
      Advances study next
  | objects {study next : Study} {own : List Job.Event} (due : study.progress = .inventoryDone)
      (gets : study.realizeObjects.Gets own next) : Advances study next

theorem inventory_due (due : Stage.inventory.Due target study) :
    study.progress = .nothingDone := by
  have below : study.progress < .inventoryDone := due.1
  revert below
  cases study.progress <;> decide

theorem objects_due (due : Stage.objects.Due target study)
    (begun : study.progress ≠ .nothingDone) : study.progress = .inventoryDone := by
  have below : study.progress < .solidsDone := due.1
  revert below begun
  cases study.progress <;> decide

theorem RunsStages.advances_objects (h : RunsStages target [.objects] study events outcome)
    (begun : .solidsDone ≤ target → study.progress ≠ .nothingDone) :
    (study :: Job.shown events).IsChain Advances := by
  have discreet := Stage.objects_discreet
  cases h with
  | skipped _ h =>
    cases h
    exact .singleton study
  | failed due fails =>
    rw [discreet.shown_failed fails]
    exact .singleton study
  | interrupted due gets =>
    rw [discreet.shown_performed gets]
    exact .cons_cons (.objects (objects_due due (begun due.2)) gets) (.singleton _)
  | performed due gets h =>
    cases h
    rw [discreet.shown_performed gets]
    exact .cons_cons (.objects (objects_due due (begun due.2)) gets) (.singleton _)

theorem RunsStages.advances (h : RunsStages target Stage.all study events outcome)
    (short : ∀ event ∈ events, event.Short) :
    (study :: Job.shown events).IsChain Advances := by
  have discreet := Stage.inventory_discreet
  cases h with
  | skipped passed h =>
    -- A target beyond the objects is beyond the inventory, which was then due at a new study.
    refine h.advances_objects fun beyond fresh => passed ⟨?_, ?_⟩
    · rw [fresh]
      decide
    · exact Nat.le_trans (by decide) beyond
  | failed due fails =>
    rw [discreet.shown_failed fails]
    exact .singleton study
  | interrupted due gets =>
    rw [discreet.shown_performed gets]
    refine .cons_cons (.inventory (inventory_due due) (fun event listed => ?_) gets) (.singleton _)
    exact short event (by simp [listed])
  | performed due gets h =>
    rw [discreet.shown_performed gets]
    refine .cons_cons (.inventory (inventory_due due) (fun event listed => ?_) gets) ?_
    · exact short event (by simp [listed])
    · refine h.advances_objects fun _ => ?_
      rw [Stage.inventory_regular.reached _ _ _ gets]
      decide

/-- From the study that a run begins with to the one that it leaves, each study that is seen comes
of the one before. -/
theorem run_advances (h : Job.Runs (study.run target) events outcome)
    (short : ∀ event ∈ events, event.Short) :
    (study :: (Job.shown events ++ [outcome.study])).IsChain Advances := by
  obtain ⟨last, shownLast, -, faulty, sound⟩ := run_leaves_last_shown h
  have left : Advances last outcome.study := by
    rcases result : outcome.result with fault | ⟨⟩
    · by_cases stopped : fault = .interrupted
      · rw [sound (.inr (stopped ▸ result))]
        exact .marked last last.errored
      · rw [faulty fault result stopped]
        exact .marked last true
    · rw [sound (.inl result)]
      exact .marked last last.errored
  have chain : (study :: Job.shown events).IsChain Advances := by
    rcases run_runs_iff.mp h with ⟨rfl, rfl⟩ | ⟨later, ending, rfl, stages, rfl⟩
    · exact .cons_cons (.marked study study.errored) (.singleton study)
    · have advances := stages.advances fun event listed =>
        short event (List.mem_cons_of_mem _ listed)
      exact .cons_cons (.marked study study.errored) advances
  rw [← List.cons_append, List.isChain_append]
  refine ⟨chain, .singleton _, ?_⟩
  simp [List.getLast?_cons, shownLast, left]

/-- The studies that are seen in a sequence of runs, each from the study that the run before left:
all that the runs show, and those that they leave. -/
inductive History (source outputDir : String) : List Study → Study → Prop
  | fresh : History source outputDir [new source outputDir] (new source outputDir)
  | run {seen : List Study} {study : Study} {events : List Job.Event} {outcome : Outcome}
      (earlier : History source outputDir seen study) (target : Progress)
      (runs : Job.Runs (study.run target) events outcome)
      (short : ∀ event ∈ events, event.Short) :
      History source outputDir (seen ++ (Job.shown events ++ [outcome.study])) outcome.study

theorem History.advances (history : History source outputDir seen study) :
    seen.head? = some (new source outputDir) ∧ seen.getLast? = some study ∧
      seen.IsChain Advances := by
  induction history with
  | fresh => exact ⟨rfl, rfl, .singleton _⟩
  | run earlier target runs short ih =>
    obtain ⟨first, last, chain⟩ := ih
    -- The chain so far ends in the study that the chain of the next run begins with.
    obtain ⟨before, rfl⟩ := List.getLast?_eq_some_iff.mp last
    refine ⟨by rw [List.head?_append, first]; rfl, ?_, ?_⟩
    · rw [← List.append_assoc, List.getLast?_concat]
    · rw [List.append_assoc, List.singleton_append, List.isChain_split]
      exact ⟨chain, run_advances runs short⟩

theorem History.study_mem (history : History source outputDir seen study) : study ∈ seen :=
  List.mem_of_getLast? history.advances.2.1

/-- What holds of a new study, and stays true while studies advance, holds of all that are seen. -/
theorem History.forall_seen {holds : Study → Prop} (history : History source outputDir seen study)
    (fresh : holds (new source outputDir))
    (step : ∀ s t, Advances s t → holds s → holds t) : ∀ s ∈ seen, holds s := by
  obtain ⟨first, -, chain⟩ := history.advances
  refine chain.induction holds seen (fun _ _ => step _ _) fun present => ?_
  have start : seen.head present = new source outputDir :=
    Option.some_inj.mp ((List.head?_eq_some_head present).symm.trans first)
  rw [start]
  exact fresh

/-- A sequence of runs told step by step. -/
inductive Chronicle (source outputDir : String) : List Job.Event → Study → Prop
  | fresh : Chronicle source outputDir [] (new source outputDir)
  | run {told events : List Job.Event} {study : Study} {outcome : Outcome}
      (earlier : Chronicle source outputDir told study) (target : Progress)
      (runs : Job.Runs (study.run target) events outcome)
      (short : ∀ event ∈ events, event.Short) :
      Chronicle source outputDir (told ++ events) outcome.study

theorem Chronicle.history (chronicle : Chronicle source outputDir events study) :
    ∃ seen, History source outputDir seen study := by
  induction chronicle with
  | fresh => exact ⟨_, .fresh⟩
  | run _ target runs short ih =>
    obtain ⟨seen, history⟩ := ih
    exact ⟨_, history.run target runs short⟩

theorem History.chronicle (history : History source outputDir seen study) :
    ∃ events, Chronicle source outputDir events study := by
  induction history with
  | fresh => exact ⟨_, .fresh⟩
  | run _ target runs short ih =>
    obtain ⟨told, chronicle⟩ := ih
    exact ⟨_, chronicle.run target runs short⟩

theorem Chronicle.short (chronicle : Chronicle source outputDir events study) :
    ∀ event ∈ events, event.Short := by
  induction chronicle with
  | fresh => simp
  | run _ _ _ short ih => exact List.forall_mem_append.mpr ⟨ih, short⟩

theorem outline_mark (outcome : Outcome) :
    outcome.mark.study.outline = outcome.study.outline := by
  obtain ⟨study, result⟩ := outcome
  cases result with
  | ok => rfl
  | error fault => cases fault <;> rfl

theorem RunsStages.outline_objects (h : RunsStages target [.objects] study events outcome) :
    outcome.study.outline = study.outline := by
  cases h with
  | skipped _ h =>
    cases h
    rfl
  | failed => rfl
  | interrupted _ gets => exact outline_of_realizeObjects gets
  | performed _ gets h =>
    cases h
    exact outline_of_realizeObjects gets

/-- A run keeps what a study declares, or takes it from an answer to its first question. -/
theorem run_inventory (h : Job.Runs (study.run target) events outcome) :
    outcome.study.outline = study.outline ∨
      ∃ evaluation declared, study.progress = .nothingDone ∧
        .asked study.inventoryInvocation (.ok evaluation) ∈ events ∧
        study.declareAll evaluation.statements = .ok declared ∧
        outcome.study.outline = declared.outline := by
  rcases run_runs_iff.mp h with ⟨rfl, rfl⟩ | ⟨later, ending, rfl, stages, rfl⟩
  · exact .inl rfl
  · rw [outline_mark]
    cases stages with
    | skipped _ further => exact .inl further.outline_objects
    | failed => exact .inl rfl
    | interrupted due gets =>
      obtain ⟨evaluation, declared, rfl, -, taken, rfl⟩ := takeInventory_gets_iff.mp gets
      exact .inr ⟨evaluation, declared, inventory_due due, by simp, taken, rfl⟩
    | performed due gets further =>
      obtain ⟨evaluation, declared, rfl, -, taken, rfl⟩ := takeInventory_gets_iff.mp gets
      exact .inr ⟨evaluation, declared, inventory_due due, by simp, taken,
        further.outline_objects⟩

/-- Whether a study can come later than another one: it has come as far, and declares the same as
soon as the inventory is taken. -/
structure Follows (study next : Study) : Prop where
  progress : study.progress ≤ next.progress
  outline : .inventoryDone ≤ study.progress → next.outline = study.outline

theorem Follows.trans {earlier : Study} (h : Follows earlier study) (h' : Follows study next) :
    Follows earlier next where
  progress := Nat.le_trans h.progress h'.progress
  outline reached := (h'.outline (Nat.le_trans reached h.progress)).trans (h.outline reached)

theorem Advances.follows (step : Advances study next) : Follows study next := by
  cases step with
  | marked => exact ⟨Nat.le_refl _, fun _ => rfl⟩
  | inventory due short gets =>
    refine ⟨?_, fun reached => ?_⟩
    · rw [due]
      exact Nat.zero_le _
    · rw [due] at reached
      exact absurd reached (by decide)
  | objects due gets =>
    refine ⟨?_, fun _ => outline_of_realizeObjects gets⟩
    obtain ⟨_, -, -, rfl⟩ := realizeObjects_gets_iff.mp gets
    rw [due]
    exact Nat.le_succ _

end Study

end SolidStudy
