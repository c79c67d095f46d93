import Mathlib
import SolidStudy.Proofs.Inventory.Orderly

/-! Which inventories are accepted. An inventory is accepted exactly if its directives are the
written forms of a consistent sequence of declarations; the study then records that sequence. -/
namespace SolidStudy

/-- An orderly sequence with an analysis, and with no more selections than fit into a label. -/
structure Declaration.Consistent (ds : List Declaration) : Prop extends Orderly ds where
  analysed : ∃ d ∈ ds, d.isAnalysis = true
  capacity : (selections ds).length ≤ Study.bitCapacity

namespace Study

variable {source outputDir : String} {study next : Study} {statements : List Statement}
  {ds : List Declaration}

theorem dispatchAll_eq_ok : study.dispatchAll statements = (next, .ok ()) ↔
    ∃ ds, List.Forall₂ Directive.Declares (statements.filter Directive.isDirective) ds ∧
      study.AdmitsAll ds ∧ next = study.recordAll ds := by
  induction statements generalizing study with
  | nil =>
    constructor
    · rintro ⟨⟩
      exact ⟨[], .nil, trivial, rfl⟩
    · intro given
      rcases given with ⟨ds, written, -, rfl⟩
      cases written
      rfl
  | cons statement rest ih =>
    cases marked : Directive.isDirective statement with
    | false =>
      rw [List.filter_cons_of_neg (by simp [marked]), dispatchAll, dispatch_of_not_directive marked]
      exact ih
    | true =>
      rw [List.filter_cons_of_pos marked, dispatchAll]
      constructor
      · intro h
        cases taken : study.dispatch statement with
        | error fault => simp [taken] at h
        | ok mid =>
          rw [taken] at h
          obtain ⟨ds, written, admitted, rfl⟩ := ih.mp h
          rcases dispatch_eq_ok.mp taken with ⟨skipped, -⟩ | ⟨d, declares, first, rfl⟩
          · rw [marked] at skipped
            contradiction
          · exact ⟨d :: ds, .cons declares written, ⟨first, admitted⟩, rfl⟩
      · intro given
        rcases given with ⟨_, written, admitted, rfl⟩
        cases written with
        | @cons _ d _ ds declares written =>
          have taken : study.dispatch statement = .ok (study.record d) :=
            dispatch_eq_ok.mpr (.inr ⟨d, declares, admitted.1, rfl⟩)
          rw [taken]
          exact ih.mpr ⟨ds, written, admitted.2, rfl⟩

theorem applyInventory_eq_ok : study.applyInventory statements = (next, .ok ()) ↔
    study.dispatchAll statements = (next, .ok ()) ∧ next.checkComplete = .ok () := by
  rw [applyInventory]
  rcases study.dispatchAll statements with ⟨reached, result⟩
  cases result with
  | ok =>
    simp only [Prod.mk.injEq, and_true]
    constructor
    · intro given
      rcases given with ⟨rfl, complete⟩
      exact ⟨rfl, complete⟩
    · intro given
      rcases given with ⟨rfl, complete⟩
      exact ⟨rfl, complete⟩
  | error fault => simp

theorem Records.bitCapacityExceeded_iff (h : Records source outputDir ds study)
    (few : (Declaration.selections ds).length < 2 ^ 32 - 1) :
    study.bitCapacityExceeded = true ↔ bitCapacity < (Declaration.selections ds).length := by
  rw [bitCapacityExceeded, decide_eq_true_iff, UInt32.lt_iff_toNat_lt, h.nextBit,
    UInt32.toNat_ofNat_of_lt' (by simp [UInt32.size]; omega)]
  simp only [labelBits, bitCapacity, UInt32.reduceToNat]
  omega

theorem Records.deck_eq_nil_iff (h : Records source outputDir ds study)
    (decks : ∀ deck units, .analysis deck units ∈ ds → deck ≠ []) :
    study.deck = [] ↔ ¬ ∃ d ∈ ds, d.isAnalysis = true := by
  constructor
  · rintro empty ⟨d, listed, analysis⟩
    cases d with
    | analysis deck units =>
      exact decks deck units listed ((h.analysed deck units listed).1.symm.trans empty)
    | _ => contradiction
  · intro none
    refine (h.unanalysed fun d listed => ?_).1
    rw [Bool.eq_false_iff]
    exact fun analysis => none ⟨d, listed, analysis⟩

/-- Whether there is an analysis counts only where the selections fit into a label. -/
theorem Records.checkComplete_eq (h : Records source outputDir ds study)
    (decks : ∀ deck units, .analysis deck units ∈ ds → deck ≠ [])
    (few : (Declaration.selections ds).length < 2 ^ 32 - 1) :
    study.checkComplete =
      if bitCapacity < (Declaration.selections ds).length then
        .error (.configuration (.tooManySelections study.selectionCount bitCapacity))
      else if ∃ d ∈ ds, d.isAnalysis = true then .ok ()
      else .error (.configuration .missingAnalysis) := by
  simp only [checkComplete, h.bitCapacityExceeded_iff few, h.deck_eq_nil_iff decks, ite_not]

theorem Records.checkComplete_eq_ok (h : Records source outputDir ds study)
    (decks : ∀ deck units, .analysis deck units ∈ ds → deck ≠ [])
    (few : (Declaration.selections ds).length < 2 ^ 32 - 1) :
    study.checkComplete = .ok () ↔
      (∃ d ∈ ds, d.isAnalysis = true) ∧ (Declaration.selections ds).length ≤ bitCapacity := by
  rw [h.checkComplete_eq decks few]
  split_ifs with full analysed
  · simp [full.not_ge]
  · simp [analysed, Nat.not_lt.mp full]
  · simp [analysed]

theorem selections_lt (written : List.Forall₂ Directive.Declares
      (statements.filter Directive.isDirective) ds) (few : statements.length < 2 ^ 32 - 1) :
    (Declaration.selections ds).length < 2 ^ 32 - 1 := by
  have chosen : (Declaration.selections ds).length ≤ ds.length := List.length_filter_le ..
  have directives : (statements.filter Directive.isDirective).length ≤ statements.length :=
    List.length_filter_le ..
  rw [written.length_eq] at directives
  omega

theorem applyInventory_of_consistent
    (written : List.Forall₂ Directive.Declares (statements.filter Directive.isDirective) ds)
    (few : statements.length < 2 ^ 32 - 1) (consistent : Declaration.Consistent ds) :
    (new source outputDir).applyInventory statements =
      ((new source outputDir).recordAll ds, .ok ()) := by
  have admitted : (new source outputDir).AdmitsAll ds := admitsAll_iff.mpr consistent.toOrderly
  have complete := (records_recordAll admitted).checkComplete_eq_ok
    (fun _ _ listed => (Directive.analysis_written written listed).1) (selections_lt written few)
  exact applyInventory_eq_ok.mpr ⟨dispatchAll_eq_ok.mpr ⟨ds, written, admitted, rfl⟩,
    complete.mpr ⟨consistent.analysed, consistent.capacity⟩⟩

theorem consistent_of_applyInventory (few : statements.length < 2 ^ 32 - 1)
    (ok : ((new source outputDir).applyInventory statements).2 = .ok ()) :
    ∃ ds, List.Forall₂ Directive.Declares (statements.filter Directive.isDirective) ds ∧
      Declaration.Consistent ds := by
  obtain ⟨dispatched, complete⟩ := applyInventory_eq_ok.mp (Prod.ext rfl ok)
  obtain ⟨ds, written, admitted, same⟩ := dispatchAll_eq_ok.mp dispatched
  rw [same, (records_recordAll admitted).checkComplete_eq_ok
    (fun _ _ listed => (Directive.analysis_written written listed).1)
    (selections_lt written few)] at complete
  exact ⟨ds, written, admitsAll_iff.mp admitted, complete.1, complete.2⟩

/-- An inventory is accepted exactly if its directives declare a consistent sequence, and then the
study records that sequence. -/
theorem applyInventory_accepts_iff (source outputDir : String) (statements : List Statement)
    (few : statements.length < 2 ^ 32 - 1) :
    (((new source outputDir).applyInventory statements).2 = .ok () ↔
      ∃ ds, List.Forall₂ Directive.Declares (statements.filter Directive.isDirective) ds ∧
        Declaration.Consistent ds) ∧
    ∀ ds, List.Forall₂ Directive.Declares (statements.filter Directive.isDirective) ds →
      Declaration.Consistent ds →
        Records source outputDir ds ((new source outputDir).applyInventory statements).1 := by
  refine ⟨⟨consistent_of_applyInventory few, ?_⟩, ?_⟩
  · intro given
    rcases given with ⟨ds, written, consistent⟩
    rw [applyInventory_of_consistent written few consistent]
  · intro ds written consistent
    rw [applyInventory_of_consistent written few consistent]
    exact records_recordAll (admitsAll_iff.mpr consistent.toOrderly)

theorem applyInventory_accepts_load :
    let statements : List Statement := [
      [.text "unrelated"],
      [.text Directive.marker, .text "analysis_directive", .ofStrings ["*STATIC"],
        .ofStrings ["mm", "kg", "s"]],
      [.text Directive.marker, .text "mesh_directive", .text "block"],
      [.text Directive.marker, .text "select_volume_directive", .text "core"],
      [.text Directive.marker, .text "load_volume_directive", .text "push", .text "core",
        .number 5]]
    let applied := (new "part.scad" "/tmp").applyInventory statements
    statements.length < 2 ^ 32 - 1 ∧ applied.2 = .ok () ∧
      ∃ ds, List.Forall₂ Directive.Declares (statements.filter Directive.isDirective) ds ∧
        Declaration.Consistent ds ∧ Records "part.scad" "/tmp" ds applied.1 := by
  intro statements applied
  have few : statements.length < 2 ^ 32 - 1 := by decide
  have ok : applied.2 = .ok () := by rfl
  obtain ⟨accepts, records⟩ := applyInventory_accepts_iff "part.scad" "/tmp" statements few
  obtain ⟨ds, written, consistent⟩ := accepts.mp ok
  exact ⟨few, ok, ds, written, consistent, records ds written consistent⟩

end Study

end SolidStudy
