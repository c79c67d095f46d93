import Mathlib
import SolidStudy.Proofs.Fallible
import SolidStudy.Proofs.Job

/-! What an extraction asks, and how it ends with the answers it gets. An inventory is one question;
the objects are asked for one after another, up to the first whose geometry is missing. -/
namespace SolidStudy.Study

variable {study next : Study} {events : List Job.Event} {fault : RunFault} {kind : ObjectKind}
  {name : String}

theorem ask_runs_iff {invocation : Invocation} {result : Except RunFault Evaluation} :
    Job.Runs (ask invocation).run events result ↔
      ∃ answer, events = [.asked invocation answer] ∧ result = answer.mapError .evaluator := by
  have asks : (ask invocation).run =
      .ask invocation fun answer => .done (answer.mapError .evaluator) := by
    refine congrArg (Job.ask invocation) (funext fun answer => ?_)
    cases answer <;> rfl
  rw [asks]
  constructor
  · intro h
    cases h with
    | ask answer h =>
      cases h
      exact ⟨answer, rfl, rfl⟩
  · intro given
    rcases given with ⟨answer, rfl, rfl⟩
    exact .ask answer (.done _)

theorem ask_gets_iff {invocation : Invocation} {evaluation : Evaluation} :
    (ask invocation).Gets events evaluation ↔ events = [.asked invocation (.ok evaluation)] := by
  rw [Extraction.Gets, ask_runs_iff]
  constructor
  · intro given
    rcases given with ⟨answer, rfl, same⟩
    rw [mapError_eq_ok.mp same.symm]
  · rintro rfl
    exact ⟨.ok evaluation, rfl, rfl⟩

theorem ask_fails_iff {invocation : Invocation} : (ask invocation).Fails events fault ↔
    ∃ cause, events = [.asked invocation (.error cause)] ∧ fault = .evaluator cause := by
  rw [Extraction.Fails, ask_runs_iff]
  constructor
  · intro given
    rcases given with ⟨answer, rfl, same⟩
    cases answer with
    | ok => cases same
    | error cause =>
      cases same
      exact ⟨cause, rfl, rfl⟩
  · intro given
    rcases given with ⟨cause, rfl, rfl⟩
    exact ⟨.error cause, rfl, rfl⟩

/-- Why the answer to an inventory is none. -/
inductive InventoryFault (study : Study) : Except EvaluatorFault Evaluation → RunFault → Prop
  | unanswered (cause : EvaluatorFault) : InventoryFault study (.error cause) (.evaluator cause)
  | unwrapped {evaluation : Evaluation} (solid : evaluation.geometry.isSome = true) :
      InventoryFault study (.ok evaluation) (.configuration .unwrappedGeometry)
  /-- The statements before the refused one are all taken in. -/
  | refused {evaluation : Evaluation} {before after : List Statement} {statement : Statement}
      {mid : Study} {fault : RunFault} (bare : evaluation.geometry = none)
      (split : evaluation.statements = before ++ statement :: after)
      (reached : study.dispatchAll before = (mid, .ok ()))
      (refuses : mid.dispatch statement = .error fault) :
      InventoryFault study (.ok evaluation) fault
  | incomplete {evaluation : Evaluation} {mid : Study} {fault : RunFault}
      (bare : evaluation.geometry = none)
      (reached : study.dispatchAll evaluation.statements = (mid, .ok ()))
      (incomplete : mid.checkComplete = .error fault) :
      InventoryFault study (.ok evaluation) fault

theorem dispatchAll_append_cons {before after : List Statement} {statement : Statement}
    {mid : Study} (reached : study.dispatchAll before = (mid, .ok ())) :
    study.dispatchAll (before ++ statement :: after) = mid.dispatchAll (statement :: after) := by
  induction before generalizing study with
  | nil =>
    cases reached
    rfl
  | cons first rest ih =>
    rw [dispatchAll] at reached
    rw [List.cons_append, dispatchAll]
    cases taken : study.dispatch first with
    | ok next =>
      rw [taken] at reached
      exact ih reached
    | error fault =>
      rw [taken] at reached
      cases reached

theorem dispatchAll_eq_error {statements : List Statement} {left : Study} :
    study.dispatchAll statements = (left, .error fault) ↔
      ∃ before statement after, statements = before ++ statement :: after ∧
        study.dispatchAll before = (left, .ok ()) ∧ left.dispatch statement = .error fault := by
  constructor
  · intro h
    induction statements generalizing study with
    | nil => cases h
    | cons first rest ih =>
      rw [dispatchAll] at h
      cases taken : study.dispatch first with
      | error cause =>
        rw [taken] at h
        cases h
        exact ⟨[], first, rest, rfl, rfl, taken⟩
      | ok next =>
        rw [taken] at h
        obtain ⟨before, statement, after, rfl, reached, refused⟩ := ih h
        refine ⟨first :: before, statement, after, rfl, ?_, refused⟩
        rw [dispatchAll, taken]
        exact reached
  · intro given
    rcases given with ⟨before, statement, after, rfl, reached, refused⟩
    rw [dispatchAll_append_cons reached, dispatchAll, refused]

theorem declareAll_eq_ok {statements : List Statement} : study.declareAll statements = .ok next ↔
    study.applyInventory statements = (next, .ok ()) := by
  rw [declareAll]
  rcases study.applyInventory statements with ⟨reached, result⟩
  cases result <;> simp

theorem declareAll_eq_error {statements : List Statement} :
    study.declareAll statements = .error fault ↔
      (∃ left, study.dispatchAll statements = (left, .error fault)) ∨
      ∃ mid, study.dispatchAll statements = (mid, .ok ()) ∧ mid.checkComplete = .error fault := by
  rw [declareAll, applyInventory]
  rcases study.dispatchAll statements with ⟨reached, result⟩
  cases result with
  | ok =>
    simp only [Prod.mk.injEq, reduceCtorEq, and_false, exists_false, and_true, false_or,
      exists_eq_left']
    cases reached.checkComplete <;> simp
  | error cause => simp

theorem takeInventory_gets_iff : study.takeInventory.Gets events next ↔
    ∃ evaluation declared, events = [.asked study.inventoryInvocation (.ok evaluation)] ∧
      evaluation.geometry = none ∧ study.declareAll evaluation.statements = .ok declared ∧
      next = { declared with progress := .inventoryDone } := by
  rw [takeInventory, Extraction.gets_bind_iff]
  simp only [ask_gets_iff, Extraction.gets_throw_if_iff, Extraction.gets_bind_iff,
    Extraction.gets_lift_iff, Extraction.gets_pure_iff, Option.not_isSome_iff_eq_none]
  constructor
  · intro given
    rcases given with
      ⟨_, _, evaluation, rfl, rfl, bare, _, _, declared, rfl, ⟨rfl, taken⟩, rfl, rfl⟩
    exact ⟨evaluation, declared, rfl, bare, taken, rfl⟩
  · intro given
    rcases given with ⟨evaluation, declared, rfl, bare, taken, rfl⟩
    exact ⟨_, [], evaluation, rfl, rfl, bare, [], [], declared, rfl, ⟨rfl, taken⟩, rfl, rfl⟩

theorem takeInventory_fails_iff : study.takeInventory.Fails events fault ↔
    ∃ answer, events = [.asked study.inventoryInvocation answer] ∧
      study.InventoryFault answer fault := by
  rw [takeInventory, Extraction.fails_bind_iff]
  simp only [ask_gets_iff, ask_fails_iff, Extraction.fails_throw_if_iff, Extraction.fails_bind_iff,
    Extraction.fails_lift_iff, Extraction.not_fails_pure, Option.not_isSome_iff_eq_none]
  constructor
  · intro given
    rcases given with ⟨cause, rfl, rfl⟩ | ⟨_, _, evaluation, rfl, rfl, h⟩
    · exact ⟨_, rfl, .unanswered cause⟩
    · refine ⟨.ok evaluation, ?_⟩
      rcases h with ⟨solid, rfl, rfl⟩ | ⟨bare, ⟨rfl, refused⟩ | ⟨_, _, _, _, _, h⟩⟩
      · exact ⟨rfl, .unwrapped solid⟩
      · refine ⟨rfl, ?_⟩
        rcases declareAll_eq_error.mp refused with ⟨left, stopped⟩ | ⟨mid, reached, incomplete⟩
        · obtain ⟨before, statement, after, split, reached, refuses⟩ :=
            dispatchAll_eq_error.mp stopped
          exact .refused bare split reached refuses
        · exact .incomplete bare reached incomplete
      · exact h.elim
  · intro given
    rcases given with ⟨answer, rfl, reason⟩
    cases reason with
    | unanswered cause => exact .inl ⟨cause, rfl, rfl⟩
    | unwrapped solid => exact .inr ⟨_, [], _, rfl, rfl, .inl ⟨solid, rfl, rfl⟩⟩
    | refused bare split reached refuses =>
      have stopped := dispatchAll_eq_error.mpr ⟨_, _, _, split, reached, refuses⟩
      have refused := declareAll_eq_error.mpr (.inl ⟨_, stopped⟩)
      exact .inr ⟨_, [], _, rfl, rfl, .inr ⟨bare, .inl ⟨rfl, refused⟩⟩⟩
    | incomplete bare reached incomplete =>
      have refused := declareAll_eq_error.mpr (.inr ⟨_, reached, incomplete⟩)
      exact .inr ⟨_, [], _, rfl, rfl, .inr ⟨bare, .inl ⟨rfl, refused⟩⟩⟩

/-- Why the answer to the question for an object is no geometry. -/
inductive ObjectFault (kind : ObjectKind) (name : String) :
    Except EvaluatorFault Evaluation → RunFault → Prop
  | unanswered (cause : EvaluatorFault) : ObjectFault kind name (.error cause) (.evaluator cause)
  | empty {evaluation : Evaluation} (nothing : evaluation.geometry = none) :
      ObjectFault kind name (.ok evaluation) (.configuration (.emptyObject kind name))

/-- The step that asks for an object and is answered with its geometry. -/
def Answers (study : Study) (event : Job.Event) (solid : (ObjectKind × String) × Polyhedron) :
    Prop :=
  ∃ word evaluation, solid.1.1.geometryWord = some word ∧
    event = .asked (study.objectInvocation word solid.1.2) (.ok evaluation) ∧
    evaluation.geometry = some solid.2

def fill (study : Study) (solids : List ((ObjectKind × String) × Polyhedron)) : Study :=
  solids.foldl (fun s o => s.setGeometry o.1.1 o.1.2 o.2) study

theorem fetchSolid_gets_iff {solid : Polyhedron} : (study.fetchSolid kind name).Gets events solid ↔
    ∃ event, events = [event] ∧ study.Answers event ((kind, name), solid) := by
  rw [fetchSolid]
  cases asks : kind.geometryWord with
  | none => simp [Answers, asks, Extraction.not_gets_throw]
  | some word =>
    simp only [Extraction.gets_bind_iff, ask_gets_iff]
    constructor
    · intro given
      rcases given with ⟨_, second, evaluation, rfl, rfl, h⟩
      cases found : evaluation.geometry with
      | none =>
        rw [found] at h
        exact absurd h Extraction.not_gets_throw
      | some solid =>
        rw [found] at h
        obtain ⟨rfl, rfl⟩ := Extraction.gets_pure_iff.mp h
        exact ⟨_, rfl, word, evaluation, asks, rfl, found⟩
    · intro given
      rcases given with ⟨_, rfl, other, evaluation, asks', rfl, found⟩
      cases asks.symm.trans asks'
      refine ⟨_, [], evaluation, rfl, rfl, ?_⟩
      simp only at found
      rw [found]
      exact Extraction.gets_pure_iff.mpr ⟨rfl, rfl⟩

theorem fetchSolid_fails_iff {word : String} (asks : kind.geometryWord = some word) :
    (study.fetchSolid kind name).Fails events fault ↔
      ∃ answer, events = [.asked (study.objectInvocation word name) answer] ∧
        ObjectFault kind name answer fault := by
  rw [fetchSolid, asks]
  simp only [Extraction.fails_bind_iff, ask_gets_iff, ask_fails_iff]
  constructor
  · intro given
    rcases given with ⟨cause, rfl, rfl⟩ | ⟨_, second, evaluation, rfl, rfl, h⟩
    · exact ⟨_, rfl, .unanswered cause⟩
    · cases found : evaluation.geometry with
      | none =>
        rw [found] at h
        obtain ⟨rfl, rfl⟩ := Extraction.fails_throw_iff.mp h
        exact ⟨_, rfl, .empty found⟩
      | some solid =>
        rw [found] at h
        exact absurd h Extraction.not_fails_pure
  · intro given
    rcases given with ⟨answer, rfl, reason⟩
    cases reason with
    | unanswered cause => exact .inl ⟨cause, rfl, rfl⟩
    | empty nothing =>
      refine .inr ⟨_, [], _, rfl, rfl, ?_⟩
      rw [nothing]
      exact Extraction.fails_throw_iff.mpr ⟨rfl, rfl⟩

theorem answers_setGeometry (solid : Polyhedron) :
    (study.setGeometry kind name solid).Answers = study.Answers := by
  cases kind <;> rfl

theorem fetchSolid_setGeometry (solid : Polyhedron) :
    (study.setGeometry kind name solid).fetchSolid = study.fetchSolid := by
  cases kind <;> rfl

theorem fetchAll_gets_iff {objects : List (ObjectKind × String)} :
    (study.fetchAll objects).Gets events next ↔
      ∃ solids, solids.map (·.1) = objects ∧ List.Forall₂ study.Answers events solids ∧
        next = study.fill solids := by
  constructor
  · intro h
    induction objects generalizing study events with
    | nil =>
      obtain ⟨rfl, rfl⟩ := Extraction.gets_pure_iff.mp h
      exact ⟨[], rfl, .nil, rfl⟩
    | cons object rest ih =>
      obtain ⟨kind, name⟩ := object
      obtain ⟨_, _, solid, rfl, fetched, further⟩ := Extraction.gets_bind_iff.mp h
      obtain ⟨event, rfl, answers⟩ := fetchSolid_gets_iff.mp fetched
      obtain ⟨solids, rfl, later, rfl⟩ := ih further
      rw [answers_setGeometry] at later
      exact ⟨((kind, name), solid) :: solids, rfl, .cons answers later, rfl⟩
  · intro given
    rcases given with ⟨solids, rfl, answers, rfl⟩
    induction solids generalizing study events with
    | nil =>
      cases answers
      exact Extraction.gets_pure_iff.mpr ⟨rfl, rfl⟩
    | cons solid solids ih =>
      cases answers with
      | @cons event _ events _ answer later =>
        have fetched : (study.fetchSolid solid.1.1 solid.1.2).Gets [event] solid.2 :=
          fetchSolid_gets_iff.mpr ⟨event, rfl, answer⟩
        rw [← answers_setGeometry solid.2] at later
        exact Extraction.gets_bind_iff.mpr ⟨[event], events, solid.2, rfl, fetched, ih later⟩

/-- Besides geometry, an extraction of the objects changes the scale and the progress only. -/
theorem realizeObjects_gets_iff : study.realizeObjects.Gets events next ↔
    ∃ solids, solids.map (·.1) = study.geometricObjects ∧
      List.Forall₂ study.Answers events solids ∧
      next = { study.fill solids with
        scale := (study.fill solids).largestScale
        progress := .solidsDone } := by
  rw [realizeObjects, Extraction.gets_bind_iff]
  simp only [fetchAll_gets_iff, Extraction.gets_pure_iff]
  constructor
  · intro given
    rcases given with ⟨first, _, _, rfl, ⟨solids, same, answers, rfl⟩, rfl, rfl⟩
    exact ⟨solids, same, (List.append_nil first).symm ▸ answers, rfl⟩
  · intro given
    rcases given with ⟨solids, same, answers, rfl⟩
    exact ⟨events, [], _, (List.append_nil events).symm, ⟨solids, same, answers, rfl⟩, rfl, rfl⟩

theorem fetchAll_fails_iff {objects : List (ObjectKind × String)} :
    (study.fetchAll objects).Fails events fault ↔
      ∃ solids kind name rest before last, objects = solids.map (·.1) ++ (kind, name) :: rest ∧
        events = before ++ last ∧ List.Forall₂ study.Answers before solids ∧
        (study.fetchSolid kind name).Fails last fault := by
  constructor
  · intro h
    induction objects generalizing study events with
    | nil => exact absurd h Extraction.not_fails_pure
    | cons object rest ih =>
      obtain ⟨kind, name⟩ := object
      rcases Extraction.fails_bind_iff.mp h with stopped | ⟨_, _, solid, rfl, fetched, further⟩
      · exact ⟨[], kind, name, rest, [], events, rfl, rfl, .nil, stopped⟩
      · obtain ⟨event, rfl, answers⟩ := fetchSolid_gets_iff.mp fetched
        obtain ⟨solids, kind', name', rest, before, last, rfl, rfl, done, stopped⟩ := ih further
        rw [answers_setGeometry] at done
        rw [fetchSolid_setGeometry] at stopped
        exact ⟨((kind, name), solid) :: solids, kind', name', rest, event :: before, last, rfl, rfl,
          .cons answers done, stopped⟩
  · intro given
    rcases given with ⟨solids, kind, name, rest, before, last, rfl, rfl, done, stopped⟩
    induction solids generalizing study before with
    | nil =>
      cases done
      exact Extraction.fails_bind_iff.mpr (.inl stopped)
    | cons solid solids ih =>
      cases done with
      | @cons event _ before _ answers done =>
        have fetched : (study.fetchSolid solid.1.1 solid.1.2).Gets [event] solid.2 :=
          fetchSolid_gets_iff.mpr ⟨event, rfl, answers⟩
        rw [← answers_setGeometry solid.2] at done
        rw [← fetchSolid_setGeometry solid.2] at stopped
        exact Extraction.fails_bind_iff.mpr
          (.inr ⟨[event], before ++ last, solid.2, rfl, fetched, ih before done stopped⟩)

theorem geometryWord_of_geometricObjects (listed : (kind, name) ∈ study.geometricObjects) :
    ∃ word, kind.geometryWord = some word := by
  simp only [geometricObjects, List.mem_append, List.mem_map, Prod.mk.injEq] at listed
  rcases listed with (⟨_, _, rfl, _⟩ | ⟨_, _, rfl, _⟩) | ⟨_, _, rfl, _⟩ <;> exact ⟨_, rfl⟩

/-- An extraction of the objects fails at the first object without geometry, after all objects
before it got theirs. -/
theorem realizeObjects_fails_iff : study.realizeObjects.Fails events fault ↔
    ∃ solids kind name rest word before answer,
      study.geometricObjects = solids.map (·.1) ++ (kind, name) :: rest ∧
      kind.geometryWord = some word ∧ List.Forall₂ study.Answers before solids ∧
      events = before ++ [.asked (study.objectInvocation word name) answer] ∧
      ObjectFault kind name answer fault := by
  rw [realizeObjects, Extraction.fails_bind_iff]
  constructor
  · intro given
    rcases given with stopped | ⟨_, _, _, _, _, stopped⟩
    · obtain ⟨solids, kind, name, rest, before, last, split, rfl, done, stopped⟩ :=
        fetchAll_fails_iff.mp stopped
      have listed : (kind, name) ∈ study.geometricObjects := by simp [split]
      obtain ⟨word, asks⟩ := geometryWord_of_geometricObjects listed
      obtain ⟨answer, rfl, reason⟩ := (fetchSolid_fails_iff asks).mp stopped
      exact ⟨solids, kind, name, rest, word, before, answer, split, asks, done, rfl, reason⟩
    · exact absurd stopped Extraction.not_fails_pure
  · intro given
    rcases given with
      ⟨solids, kind, name, rest, word, before, answer, split, asks, done, rfl, reason⟩
    have stopped : (study.fetchSolid kind name).Fails
        [.asked (study.objectInvocation word name) answer] fault :=
      (fetchSolid_fails_iff asks).mpr ⟨answer, rfl, reason⟩
    exact .inl (fetchAll_fails_iff.mpr
      ⟨solids, kind, name, rest, before, _, split, rfl, done, stopped⟩)

end SolidStudy.Study
