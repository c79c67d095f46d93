import Mathlib
import SolidStudy.Proofs.Inventory.Bits
import SolidStudy.Proofs.Value.RoundTrip

/-! Why an inventory is refused. The first statement that is refused is blamed, whatever comes after
it; only if none is, the inventory is judged as a whole, with all that the study took in before. -/
namespace SolidStudy

def Directive.isAnalysis : Statement → Bool
  | _ :: .text directive :: _ => DirectiveKind.named directive = some .analysis
  | _ => false

theorem Directive.Declares.isAnalysis {statement : Statement} {d : Declaration}
    (h : Directive.Declares statement d) : Directive.isAnalysis statement = d.isAnalysis := by
  obtain ⟨kind, args, rfl, written⟩ := h
  cases written <;> rfl

theorem exists_isAnalysis_iff {statements : List Statement} {ds : List Declaration}
    (h : List.Forall₂ Directive.Declares statements ds) :
    (∃ statement ∈ statements, Directive.isAnalysis statement = true) ↔
      ∃ d ∈ ds, d.isAnalysis = true := by
  induction h with
  | nil => simp
  | cons declares _ ih => simp only [List.mem_cons, exists_eq_or_imp, declares.isAnalysis, ih]

namespace Study

variable {source outputDir : String} {study : Study} {statement : Statement}
  {statements before : List Statement} {fault : RunFault}

def TakesAll (study : Study) (statements : List Statement) : Prop :=
  ∀ before statement after, statements = before ++ statement :: after →
    ∃ next, (study.attemptAll before).dispatch statement = .ok next

theorem takesAll_nil : study.TakesAll [] := by
  intro before statement after split
  simp at split

theorem takesAll_cons : study.TakesAll (statement :: statements) ↔
    (∃ next, study.dispatch statement = .ok next) ∧
      (study.attempt statement).TakesAll statements := by
  constructor
  · intro taken
    refine ⟨taken [] statement statements rfl, fun before later after split => ?_⟩
    exact taken (statement :: before) later after (by rw [split, List.cons_append])
  · intro given before later after split
    rcases given with ⟨first, rest⟩
    rcases List.cons_eq_append_iff.mp split with ⟨rfl, same⟩ | ⟨before', rfl, same⟩
    · cases same
      exact first
    · exact rest before' later after same

theorem dispatchAll_of_takesAll (taken : study.TakesAll statements) :
    study.dispatchAll statements = (study.attemptAll statements, .ok ()) := by
  induction statements generalizing study with
  | nil => rfl
  | cons statement rest ih =>
    obtain ⟨⟨next, first⟩, later⟩ := takesAll_cons.mp taken
    have same : study.attempt statement = next := by rw [attempt, first, after]
    rw [same] at later
    rw [dispatchAll, first, attemptAll, List.foldl_cons, same]
    exact ih later

/-- Of all statements that are refused when they come, one is the first. -/
theorem takesAll_or_refuses (study : Study) (statements : List Statement) :
    study.TakesAll statements ∨ ∃ before statement after fault,
      statements = before ++ statement :: after ∧ study.TakesAll before ∧
        (study.attemptAll before).dispatch statement = .error fault := by
  induction statements generalizing study with
  | nil => exact .inl takesAll_nil
  | cons first rest ih =>
    cases taken : study.dispatch first with
    | error fault => exact .inr ⟨[], first, rest, fault, rfl, takesAll_nil, taken⟩
    | ok next =>
      rcases ih (study.attempt first) with all | ⟨before, statement, after, fault, rfl, h, refused⟩
      · exact .inl (takesAll_cons.mpr ⟨⟨next, taken⟩, all⟩)
      · exact .inr ⟨first :: before, statement, after, fault, rfl,
          takesAll_cons.mpr ⟨⟨next, taken⟩, h⟩, refused⟩

theorem applyInventory_of_refused (taken : study.TakesAll before)
    (refused : (study.attemptAll before).dispatch statement = .error fault)
    (after : List Statement) : study.applyInventory (before ++ statement :: after) =
      (study.attemptAll before, .error fault) := by
  have stopped : study.dispatchAll (before ++ statement :: after) =
      (study.attemptAll before, .error fault) :=
    dispatchAll_eq_error.mpr
      ⟨before, statement, after, rfl, dispatchAll_of_takesAll taken, refused⟩
  rw [applyInventory, stopped]

/-- A fault that names a statement names the one that was refused. -/
theorem read_of_malformed {text : String} {cause : StatementFault}
    (refused : study.dispatch statement = .error (.malformedStatement text cause)) :
    Statement.read text.toList = .ok statement := by
  obtain ⟨_, reason, -, -, same⟩ := dispatch_eq_error.mp refused
  cases reason with
  | configuration => cases same
  | malformed =>
    cases same
    rw [Statement.render, String.toList_ofList, Statement.read_write]

theorem attemptAll_append (study : Study) (earlier statements : List Statement) :
    study.attemptAll (earlier ++ statements) =
      (study.attemptAll earlier).attemptAll statements :=
  List.foldl_append

/-- What is said in the end of a study that took in some statements and refused others. -/
theorem checkComplete_attemptAll (source outputDir : String) (statements : List Statement)
    (few : ((new source outputDir).chosen statements).length < 2 ^ 32 - 1) :
    ((new source outputDir).attemptAll statements).checkComplete =
      if bitCapacity < ((new source outputDir).chosen statements).length then
        .error (.configuration (.tooManySelections
          ((new source outputDir).chosen statements).length bitCapacity))
      else if ∃ statement ∈ (new source outputDir).accepted statements,
          Directive.isAnalysis statement = true then .ok ()
      else .error (.configuration .missingAnalysis) := by
  obtain ⟨ds, written, admitted, reached⟩ :=
    attemptAll_eq_recordAll (new source outputDir) statements
  have h := records_recordAll admitted
  rw [← reached] at h
  have count : ((new source outputDir).chosen statements).length =
      (ds.filterMap Declaration.selected?).length := by
    rw [chosen, forall₂_declares_selected? written]
  rw [count] at few
  have complete := h.checkComplete_eq
    (fun _ _ listed => (Directive.analysis_written written listed).1)
    (Declaration.length_selections ds ▸ few)
  rw [complete, h.selectionCount_eq few, Declaration.length_selections, count]
  simp only [exists_isAnalysis_iff written]

/-- After any statements, accepted or not, an inventory that holds a refused statement ends with the
fault of the first one, whatever follows it, and a fault that names a statement is read back as that
statement. An inventory without one ends with too many selections, if all that were ever accepted
are too many, otherwise with a missing analysis, if none was ever accepted, and otherwise well. -/
theorem applyInventory_blames (source outputDir : String) (earlier statements : List Statement) :
    let fresh := new source outputDir
    let study := fresh.attemptAll earlier
    let chosen := fresh.chosen (earlier ++ statements)
    let analysed := ∃ statement ∈ fresh.accepted (earlier ++ statements),
      Directive.isAnalysis statement = true
    (∀ before statement fault, study.TakesAll before →
      (study.attemptAll before).dispatch statement = .error fault →
        (∀ after, study.applyInventory (before ++ statement :: after) =
          (study.attemptAll before, .error fault)) ∧
        ∀ text cause, fault = .malformedStatement text cause →
          Statement.read text.toList = .ok statement) ∧
    (study.TakesAll statements → chosen.length < 2 ^ 32 - 1 →
      ∃ result, study.applyInventory statements = (study.attemptAll statements, result) ∧
        (bitCapacity < chosen.length →
          result = .error (.configuration (.tooManySelections chosen.length bitCapacity))) ∧
        (chosen.length ≤ bitCapacity →
          (result = .error (.configuration .missingAnalysis) ↔ ¬ analysed) ∧
          (result = .ok () ↔ analysed))) ∧
    (study.TakesAll statements ∨ ∃ before statement after fault,
      statements = before ++ statement :: after ∧ study.TakesAll before ∧
        (study.attemptAll before).dispatch statement = .error fault) := by
  intro fresh study chosen analysed
  refine ⟨fun before statement fault taken refused => ⟨applyInventory_of_refused taken refused, ?_⟩,
    fun taken few => ⟨(study.attemptAll statements).checkComplete, ?_, ?_⟩,
    takesAll_or_refuses study statements⟩
  · rintro text cause rfl
    exact read_of_malformed refused
  · rw [applyInventory, dispatchAll_of_takesAll taken]
  · have complete := checkComplete_attemptAll source outputDir (earlier ++ statements) few
    rw [attemptAll_append] at complete
    rw [complete]
    constructor
    · intro full
      exact if_pos full
    · intro fits
      rw [if_neg (Nat.not_lt.mpr fits)]
      by_cases given : analysed
      · rw [if_pos given]
        simp [given]
      · rw [if_neg given]
        simp [given]

/-- A bad direction is blamed, not the name that is taken twice behind it. Without the bad statement
the inventory lacks an analysis, unless one was accepted before. -/
theorem applyInventory_blames_direction :
    let analysis : Statement := [.text Directive.marker, .text "analysis_directive",
      .ofStrings ["*STATIC"], .ofStrings ["mm", "kg", "s"]]
    let core : Statement := [.text Directive.marker, .text "select_volume_directive", .text "core"]
    let top : Statement := [.text Directive.marker, .text "select_surface_directive", .text "top",
      .vector [.number 0, .number 1], .number 15]
    let fresh := new "part.scad" "/tmp"
    let analysed := fresh.attemptAll [top, analysis]
    (∃ text cause, (analysed.applyInventory [core, top, core, core]).2 =
        .error (.malformedStatement text cause) ∧ Statement.read text.toList = .ok top) ∧
      (fresh.applyInventory [core]).2 = .error (.configuration .missingAnalysis) ∧
      (analysed.applyInventory [core]).2 = .ok () := by
  intro analysis core top fresh analysed
  have taken (study : Study) (next : Study) (first : study.dispatch core = .ok next) :
      study.TakesAll [core] := takesAll_cons.mpr ⟨⟨next, first⟩, takesAll_nil⟩
  refine ⟨?_, ?_, ?_⟩
  · obtain ⟨blamed, -, -⟩ := applyInventory_blames "part.scad" "/tmp" [top, analysis] []
    obtain ⟨stops, quoted⟩ := blamed [core] top _ (taken analysed _ rfl) rfl
    exact ⟨_, _, congrArg Prod.snd (stops [core, core]), quoted _ _ rfl⟩
  · obtain ⟨-, whole, -⟩ := applyInventory_blames "part.scad" "/tmp" [] [core]
    obtain ⟨result, same, -, fits⟩ := whole (taken fresh _ rfl) (by decide)
    exact (congrArg Prod.snd same).trans ((fits (by decide)).1.mpr (by decide))
  · obtain ⟨-, whole, -⟩ := applyInventory_blames "part.scad" "/tmp" [top, analysis] [core]
    obtain ⟨result, same, -, fits⟩ := whole (taken analysed _ rfl) (by decide)
    exact (congrArg Prod.snd same).trans ((fits (by decide)).2.mpr (by decide))

end Study

end SolidStudy
