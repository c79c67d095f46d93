import Mathlib
import SolidStudy.Proofs.Inventory.Recorded
import SolidStudy.Proofs.Study.Reachable

/-! Sequences of declarations in which each one fits to those before it. They are known by three
rules about the whole sequence, and they are the sequences that a new study admits.

A new study on which statements are tried one after another comes to the same: whatever it refuses
or passes over leaves no trace, and it has recorded the declarations that it accepted. -/
namespace SolidStudy

namespace Declaration

variable {ds : List Declaration} {d : Declaration}

/-- Whether a declaration may follow others. -/
structure Fits (ds : List Declaration) (d : Declaration) : Prop where
  analysis : d.isAnalysis = true → ∀ e ∈ ds, e.isAnalysis = false
  name : ∀ name, d.name? = some name → name ∉ ds.filterMap name?
  target : ∀ name target force, d = .load name target force →
    .mesh target ∈ ds ∨ .volume target ∈ ds

/-- At most one analysis, no name twice, and loads only on what is declared before them. -/
structure Orderly (ds : List Declaration) : Prop where
  analyses : (ds.filter isAnalysis).length ≤ 1
  names : (ds.filterMap name?).Nodup
  targets : ∀ earlier name target force later, ds = earlier ++ .load name target force :: later →
    .mesh target ∈ earlier ∨ .volume target ∈ earlier

theorem analyses_concat : ((ds ++ [d]).filter isAnalysis).length ≤ 1 ↔
    (ds.filter isAnalysis).length ≤ 1 ∧
      (d.isAnalysis = true → ∀ e ∈ ds, e.isAnalysis = false) := by
  rw [List.filter_append, List.length_append]
  have none : (∀ e ∈ ds, e.isAnalysis = false) ↔ (ds.filter isAnalysis).length = 0 := by
    rw [List.length_eq_zero_iff, List.filter_eq_nil_iff]
    simp
  rw [none]
  cases counted : d.isAnalysis with
  | true =>
    have last : ([d].filter isAnalysis).length = 1 := by simp [counted]
    simp only [last, true_imp_iff]
    omega
  | false => simp [counted]

theorem names_concat : ((ds ++ [d]).filterMap name?).Nodup ↔
    (ds.filterMap name?).Nodup ∧ ∀ name, d.name? = some name → name ∉ ds.filterMap name? := by
  rw [List.filterMap_append]
  cases named : d.name? with
  | none => simp [named]
  | some name =>
    simp only [List.filterMap_cons, named, List.filterMap_nil, Option.some.injEq, forall_eq',
      ← List.concat_eq_append, List.nodup_concat]
    exact and_comm

theorem targets_concat :
    (∀ earlier name target force later,
      ds ++ [d] = earlier ++ .load name target force :: later →
        .mesh target ∈ earlier ∨ .volume target ∈ earlier) ↔
    (∀ earlier name target force later, ds = earlier ++ .load name target force :: later →
        .mesh target ∈ earlier ∨ .volume target ∈ earlier) ∧
      ∀ name target force, d = .load name target force →
        .mesh target ∈ ds ∨ .volume target ∈ ds := by
  constructor
  · intro h
    refine ⟨fun earlier name target force later split => ?_, fun name target force last => ?_⟩
    · exact h earlier name target force (later ++ [d]) (by simp [split])
    · exact h ds name target force [] (by rw [last])
  · rintro ⟨before, last⟩ earlier name target force later split
    rcases List.eq_nil_or_concat later with rfl | ⟨middle, e, rfl⟩
    · obtain ⟨rfl, same⟩ := List.append_inj' split rfl
      exact last name target force (List.singleton_inj.mp same)
    · rw [List.concat_eq_append, ← List.cons_append, ← List.append_assoc] at split
      exact before earlier name target force middle (List.append_inj' split rfl).1

theorem orderly_concat : Orderly (ds ++ [d]) ↔ Orderly ds ∧ Fits ds d := by
  constructor
  · intro given
    rcases given with ⟨analyses, names, targets⟩
    obtain ⟨analyses, analysis⟩ := analyses_concat.mp analyses
    obtain ⟨names, name⟩ := names_concat.mp names
    obtain ⟨targets, target⟩ := targets_concat.mp targets
    exact ⟨⟨analyses, names, targets⟩, analysis, name, target⟩
  · intro given
    rcases given with ⟨⟨analyses, names, targets⟩, analysis, name, target⟩
    exact ⟨analyses_concat.mpr ⟨analyses, analysis⟩, names_concat.mpr ⟨names, name⟩,
      targets_concat.mpr ⟨targets, target⟩⟩

theorem declared?_eq_mesh {name : String} : d.declared? = some (.mesh, name) ↔ d = .mesh name := by
  cases d <;> simp [declared?]

theorem declared?_eq_volume {name : String} :
    d.declared? = some (.volume, name) ↔ d = .volume name := by
  cases d <;> simp [declared?]

end Declaration

namespace Study

variable {source outputDir : String} {ds : List Declaration} {d : Declaration}

theorem unanalysed_recordAll_iff :
    (((new source outputDir).recordAll ds).deck = [] ∧
      ((new source outputDir).recordAll ds).units = none) ↔ ∀ e ∈ ds, e.isAnalysis = false := by
  induction ds using List.reverseRecOn with
  | nil => simp [recordAll, new]
  | append_singleton ds d ih =>
    rw [recordAll_concat]
    cases d with
    | analysis => simp [record, Declaration.isAnalysis]
    | _ => simpa [record, Declaration.isAnalysis, or_imp, forall_and] using ih

theorem volumeObject?_recordAll_isSome {target : String} :
    (((new source outputDir).recordAll ds).volumeObject? target).isSome = true ↔
      .mesh target ∈ ds ∨ .volume target ∈ ds := by
  rw [volumeObject?_isSome_iff, holds_recordAll, holds_recordAll]
  simp [holds_new, Declaration.declared?_eq_mesh, Declaration.declared?_eq_volume]

theorem admits_recordAll_iff :
    ((new source outputDir).recordAll ds).Admits d ↔ Declaration.Fits ds d := by
  cases d with
  | analysis deck units =>
    rw [Admits, unanalysed_recordAll_iff]
    constructor
    · intro none
      exact ⟨fun _ => none, by simp [Declaration.name?, Declaration.declared?], by simp⟩
    · intro fits
      exact fits.analysis rfl
  | mesh name | volume name | surface name =>
    rw [Admits, kindOf_recordAll_eq_none]
    constructor
    · intro fresh
      refine ⟨by simp [Declaration.isAnalysis], ?_, by simp⟩
      rintro _ ⟨⟩
      exact fresh
    · intro fits
      exact fits.name name rfl
  | load name target force =>
    rw [Admits, kindOf_recordAll_eq_none, volumeObject?_recordAll_isSome]
    constructor
    · intro given
      rcases given with ⟨fresh, found⟩
      refine ⟨by simp [Declaration.isAnalysis], ?_, ?_⟩
      · rintro _ ⟨⟩
        exact fresh
      · rintro _ _ _ ⟨⟩
        exact found
    · intro fits
      exact ⟨fits.name name rfl, fits.target name target force rfl⟩

theorem admitsAll_iff : (new source outputDir).AdmitsAll ds ↔ Declaration.Orderly ds := by
  induction ds using List.reverseRecOn with
  | nil =>
    refine iff_of_true trivial ⟨by simp, by simp, ?_⟩
    intro earlier name target force later split
    simp at split
  | append_singleton ds d ih =>
    rw [admitsAll_concat, ih, admits_recordAll_iff, Declaration.orderly_concat]

theorem records_recordAll (h : (new source outputDir).AdmitsAll ds) :
    Records source outputDir ds ((new source outputDir).recordAll ds) := by
  induction ds using List.reverseRecOn with
  | nil => exact .new source outputDir
  | append_singleton ds d ih =>
    obtain ⟨before, admitted⟩ := admitsAll_concat.mp h
    rw [recordAll_concat]
    exact (ih before).record admitted

def attemptAll (study : Study) (statements : List Statement) : Study :=
  statements.foldl attempt study

/-- The directives among the statements that are not refused when they are tried. -/
def accepted : Study → List Statement → List Statement
  | _, [] => []
  | study, statement :: rest =>
    if Directive.isDirective statement && (study.dispatch statement).isOk then
      statement :: accepted (study.attempt statement) rest
    else accepted (study.attempt statement) rest

/-- A statement is accepted with what it declares, or it changes nothing. -/
theorem attempt_cases (study : Study) (statement : Statement) (rest : List Statement) :
    (∃ d, Directive.Declares statement d ∧ study.Admits d ∧
      study.attempt statement = study.record d ∧
      study.accepted (statement :: rest) = statement :: (study.record d).accepted rest) ∨
    study.attempt statement = study ∧
      study.accepted (statement :: rest) = study.accepted rest := by
  cases taken : study.dispatch statement with
  | error fault =>
    have same : study.attempt statement = study := by rw [attempt, taken, after]
    exact .inr ⟨same, by simp [accepted, taken, same, Except.isOk, Except.toBool]⟩
  | ok next =>
    have same : study.attempt statement = next := by rw [attempt, taken, after]
    rcases dispatch_eq_ok.mp taken with ⟨skipped, rfl⟩ | ⟨d, declares, admitted, rfl⟩
    · exact .inr ⟨same, by simp [accepted, skipped, same]⟩
    · refine .inl ⟨d, declares, admitted, same, ?_⟩
      simp [accepted, taken, same, declares.isDirective, Except.isOk, Except.toBool]

theorem attemptAll_eq_recordAll (study : Study) (statements : List Statement) :
    ∃ ds, List.Forall₂ Directive.Declares (study.accepted statements) ds ∧
      study.AdmitsAll ds ∧ study.attemptAll statements = study.recordAll ds := by
  induction statements generalizing study with
  | nil => exact ⟨[], .nil, trivial, rfl⟩
  | cons statement rest ih =>
    rw [attemptAll, List.foldl_cons, ← attemptAll]
    rcases attempt_cases study statement rest with
      ⟨d, declares, admitted, same, listed⟩ | ⟨same, listed⟩
    · obtain ⟨ds, written, admits, reached⟩ := ih (study.record d)
      rw [same, listed]
      exact ⟨d :: ds, .cons declares written, ⟨admitted, admits⟩, reached⟩
    · rw [same, listed]
      exact ih study

end Study

end SolidStudy
