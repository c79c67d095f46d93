import Mathlib
import SolidStudy.Proofs.Inventory.Bits
import SolidStudy.Proofs.Run.History
import SolidStudy.Proofs.Study.Geometry
import SolidStudy.Proofs.Study.References

/-! What the progress of a study says about it. `Milestones` holds of every study that runs show or
leave, in any sequence of runs from a new study on; progress does not go back, and what is declared
stays once the inventory is taken. -/
namespace SolidStudy.Study

variable {source outputDir : String} {study next : Study} {seen : List Study}
  {ds : List Declaration} {mark : Bool}

structure Inventoried (study : Study) : Prop where
  deck : study.deck ≠ []
  units : ∃ units, study.units = some units ∧ units.length.dimension = .length ∧
    units.mass.dimension = .mass ∧ units.time.dimension = .time
  count : study.selectionCount ≤ bitCapacity
  bits : ∀ bit ∈ study.bits, 1 ≤ bit ∧ bit ≤ bitCapacity
  loads : ∀ name load, study.loads.get? name = some load →
    (study.volumeObject? load.target).isSome = true

/-- What is true of a study, by its progress. -/
structure Milestones (source outputDir : String) (study : Study) : Prop where
  untouched : study.progress = .nothingDone →
    study = { new source outputDir with errored := study.errored }
  inventoried : .inventoryDone ≤ study.progress → study.Inventoried
  unrealized : study.progress = .inventoryDone →
    (∀ kind name, study.solid? kind name = none) ∧ study.scale = 0
  realized : study.progress = .solidsDone →
    ∀ kind name, kind ≠ .load → study.holds kind name = true →
      (study.solid? kind name).isSome = true

theorem milestones_new (source outputDir : String) :
    Milestones source outputDir (new source outputDir) where
  untouched _ := rfl
  inventoried reached :=
    absurd (show Progress.inventoryDone ≤ .nothingDone from reached) (by decide)
  unrealized reached := by cases reached
  realized reached := by cases reached

theorem record_marked (d : Declaration) : ({ study with errored := mark }).record d =
    { study.record d with errored := mark } := by
  cases d <;> rfl

theorem recordAll_marked : ({ study with errored := mark }).recordAll ds =
    { study.recordAll ds with errored := mark } := by
  induction ds generalizing study with
  | nil => rfl
  | cons d rest ih =>
    rw [recordAll, List.foldl_cons, record_marked]
    exact ih

theorem admitsAll_marked : ({ study with errored := mark }).AdmitsAll ds ↔ study.AdmitsAll ds := by
  induction ds generalizing study with
  | nil => exact Iff.rfl
  | cons d rest ih =>
    have admits : ({ study with errored := mark }).Admits d ↔ study.Admits d := by
      cases d <;> exact Iff.rfl
    rw [AdmitsAll, AdmitsAll, record_marked, ih, admits]

theorem inventoried_recordAll {statements : List Statement}
    (written : List.Forall₂ Directive.Declares statements ds)
    (short : (Declaration.selections ds).length < 2 ^ 32 - 1)
    (admitted : (new source outputDir).AdmitsAll ds)
    (complete : ((new source outputDir).recordAll ds).checkComplete = .ok ()) :
    ((new source outputDir).recordAll ds).Inventoried := by
  have records := records_recordAll admitted
  have decks (deck : List String) (units : UnitSystem) (listed : .analysis deck units ∈ ds) :
      deck ≠ [] := (Directive.analysis_written written listed).1
  obtain ⟨⟨d, listed, analysis⟩, few⟩ := (records.checkComplete_eq_ok decks short).mp complete
  have count : (Declaration.selections ds).length =
      (ds.filterMap Declaration.selected?).length := by
    simpa using congrArg List.length (Declaration.selections_map_selected? ds)
  rw [count] at short few
  cases d with
  | analysis deck units =>
    obtain ⟨deckSet, unitsSet⟩ := records.analysed deck units listed
    obtain ⟨some, known⟩ := Directive.analysis_written written listed
    refine ⟨deckSet ▸ some,
      ⟨units, unitsSet, known.length.2, known.mass.2, known.time.2⟩, ?_, ?_, ?_⟩
    · rw [records.selectionCount_eq short]
      exact few
    · intro bit given
      rw [(records.bits_perm short).mem_iff, List.mem_range'_1] at given
      omega
    · intro name load found
      obtain ⟨target, force, declared, rfl⟩ := (records.loads name load).mp found
      obtain ⟨earlier, later, rfl⟩ := List.append_of_mem declared
      rw [Load.target, volumeObject?_recordAll_isSome]
      have before := (admitsAll_iff.mp admitted).targets earlier name target force later rfl
      exact before.imp (List.mem_append_left _) (List.mem_append_left _)
  | _ => contradiction

theorem solid?_recordAll (admitted : (new source outputDir).AdmitsAll ds) (kind : ObjectKind)
    (name : String) : ((new source outputDir).recordAll ds).solid? kind name = none := by
  have records := records_recordAll admitted
  cases kind with
  | mesh =>
    refine Option.bind_eq_none_iff.mpr fun o found => ?_
    obtain ⟨-, rfl⟩ := (records.meshes name o).mp found
    rfl
  | volume =>
    refine Option.bind_eq_none_iff.mpr fun o found => ?_
    obtain ⟨_, -, rfl⟩ := (records.volumes name o).mp found
    rfl
  | surface =>
    refine Option.bind_eq_none_iff.mpr fun o found => ?_
    obtain ⟨_, _, _, -, rfl⟩ := (records.surfaces name o).mp found
    rfl
  | load => rfl

theorem bits_outline (study : Study) : study.outline.bits = study.bits := by
  simp [bits, outline, Table.mapWithName, Function.comp_def]

theorem selectionCount_outline (study : Study) :
    study.outline.selectionCount = study.selectionCount := by
  simp [selectionCount, outline, Table.mapWithName, Table.size]

theorem Inventoried.of_outline (h : study.Inventoried) (same : next.outline = study.outline) :
    next.Inventoried where
  deck := (congrArg (·.deck) same : next.deck = study.deck) ▸ h.deck
  units := (congrArg (·.units) same : next.units = study.units) ▸ h.units
  count := by
    rw [← selectionCount_outline, same, selectionCount_outline]
    exact h.count
  bits := by
    rw [← bits_outline, same, bits_outline]
    exact h.bits
  loads name load found := by
    rw [loads_of_outline same] at found
    have resolves := h.loads name load found
    rwa [volumeObject?_isSome_iff, ← holds_of_outline same, ← volumeObject?_isSome_iff] at resolves

/-- A study that took in its inventory, whether it is marked or not. -/
theorem Milestones.inventory {own : List Job.Event} (short : ∀ event ∈ own, event.Short)
    (gets : ({ new source outputDir with errored := mark }).takeInventory.Gets own next) :
    Milestones source outputDir next := by
  obtain ⟨evaluation, declared, rfl, -, taken, rfl⟩ := takeInventory_gets_iff.mp gets
  -- The mark is read by no directive, so the declarations are those of an unmarked study.
  obtain ⟨ds, written, admitted, rfl, complete⟩ := declareAll_eq_recordAll taken
  rw [admitsAll_marked] at admitted
  rw [recordAll_marked] at complete
  rw [recordAll_marked]
  have bounded : evaluation.statements.length < 2 ^ 32 - 1 :=
    short (.asked _ (.ok evaluation)) List.mem_cons_self
  have few := selections_lt written bounded
  have inventoried := inventoried_recordAll written few admitted complete
  refine ⟨by simp, fun _ => inventoried.of_outline rfl, fun _ => ⟨?_, ?_⟩, by simp⟩
  · exact solid?_recordAll admitted
  · exact (records_recordAll admitted).scale

theorem Milestones.objects {own : List Job.Event} (h : Milestones source outputDir study)
    (reached : .inventoryDone ≤ study.progress) (gets : study.realizeObjects.Gets own next) :
    Milestones source outputDir next := by
  have same := outline_of_realizeObjects gets
  have progress : next.progress = .solidsDone := by
    obtain ⟨_, -, -, rfl⟩ := realizeObjects_gets_iff.mp gets
    rfl
  refine ⟨by simp [progress], fun _ => (h.inventoried reached).of_outline same, by simp [progress],
    fun _ kind name geometric held => ?_⟩
  exact solid?_of_realizeObjects gets geometric held

theorem Milestones.marked (h : Milestones source outputDir study) :
    Milestones source outputDir { study with errored := mark } where
  untouched fresh := congrArg (fun s => { s with errored := mark }) (h.untouched fresh)
  inventoried reached := (h.inventoried reached).of_outline rfl
  unrealized reached := h.unrealized reached
  realized reached := h.realized reached

theorem Milestones.advances (step : Advances study next) (h : Milestones source outputDir study) :
    Milestones source outputDir next := by
  cases step with
  | marked => exact h.marked
  | inventory due short gets =>
    rw [h.untouched due] at gets
    exact .inventory short gets
  | objects due gets => exact h.objects (due ▸ Nat.le_refl _) gets

theorem History.milestones (history : History source outputDir seen study) :
    Milestones source outputDir study :=
  history.forall_seen (milestones_new source outputDir) (fun _ _ => Milestones.advances) study
    history.study_mem

theorem declareAll_of_marked {statements : List Statement}
    (h : ({ study with errored := mark }).declareAll statements = .ok next) :
    ∃ declared, study.declareAll statements = .ok declared ∧
      next = { declared with errored := mark } := by
  obtain ⟨ds, written, admitted, rfl, complete⟩ := declareAll_eq_recordAll h
  rw [admitsAll_marked] at admitted
  rw [recordAll_marked] at complete ⊢
  have dispatched := dispatchAll_eq_ok.mpr ⟨ds, written, admitted, rfl⟩
  exact ⟨_, declareAll_eq_ok.mpr (applyInventory_eq_ok.mpr ⟨dispatched, complete⟩), rfl⟩

/-- A study that runs lead to declares nothing, or what a new study declares in answer to the
question for the inventory. -/
theorem Chronicle.inventory {events : List Job.Event}
    (chronicle : Chronicle source outputDir events study) :
    study.outline = (new source outputDir).outline ∨
      ∃ evaluation declared,
        .asked (new source outputDir).inventoryInvocation (.ok evaluation) ∈ events ∧
        (new source outputDir).declareAll evaluation.statements = .ok declared ∧
        study.outline = declared.outline := by
  induction chronicle with
  | fresh => exact .inl rfl
  | @run told own study outcome earlier target runs short ih =>
    rcases run_inventory runs with same | ⟨evaluation, declared, fresh, asked, taken, same⟩
    · rw [same]
      refine ih.imp_right fun ⟨evaluation, declared, asked, rest⟩ => ?_
      exact ⟨evaluation, declared, List.mem_append_left _ asked, rest⟩
    · obtain ⟨seen, history⟩ := earlier.history
      have untouched := history.milestones.untouched fresh
      rw [untouched] at asked taken
      obtain ⟨plain, accepted, rfl⟩ := declareAll_of_marked taken
      exact .inr ⟨evaluation, plain, List.mem_append_right _ asked, accepted, same⟩

/-- Every study that is seen is what its progress says it is. Of two studies that are seen, the
later one has come as far, and if the inventory was taken it declares the same. -/
theorem progress_tells_truth (history : History source outputDir seen study) :
    (∀ s ∈ seen, Milestones source outputDir s) ∧ seen.Pairwise Follows := by
  refine ⟨history.forall_seen (milestones_new source outputDir) fun _ _ => Milestones.advances, ?_⟩
  · obtain ⟨-, -, chain⟩ := history.advances
    have follows : seen.IsChain Follows := chain.imp fun _ _ => Advances.follows
    have : Trans Follows Follows Follows := ⟨Follows.trans⟩
    exact List.isChain_iff_pairwise.mp follows

/-- A first run is interrupted after the inventory, a second one fails at the only object, and a
third one comes to its end. -/
theorem progress_tells_truth_resumed :
    let solid : Polyhedron := ⟨[⟨0, 0, 0⟩, ⟨1, 0, 0⟩, ⟨0, 1, 0⟩], [[0, 1, 2]]⟩
    let fresh := new "part.scad" "/tmp"
    let listed := { fresh with
      progress := .inventoryDone
      deck := ["*STEP"]
      units := some ⟨⟨"mm", .length, 1e-3⟩, ⟨"t", .mass, 1e3⟩, ⟨"s", .time, 1⟩⟩
      meshes := ⟨[("block", ⟨.automatic, none⟩)], List.pairwise_singleton _ _⟩ }
    let failed := { listed with errored := true }
    let meshed : Table Mesh := ⟨[("block", ⟨.automatic, some solid⟩)], List.pairwise_singleton _ _⟩
    let ended := { failed with
      progress := .solidsDone
      meshes := meshed
      scale := { failed with meshes := meshed }.largestScale }
    let seen := [fresh, fresh, listed, listed, listed, failed, failed, ended, ended]
    History "part.scad" "/tmp" seen ended ∧
      (∀ s ∈ seen, Milestones "part.scad" "/tmp" s) ∧ seen.Pairwise Follows := by
  intro solid fresh listed failed meshed ended seen
  let declared := [Directive.analysis ["*STEP"] ["mm", "t", "s"], Directive.mesh "block"]
  let asked (study : Study) (geometry : Option Polyhedron) : Job.Event :=
    .asked (study.objectInvocation "mesh" "block") (.ok ⟨geometry, [], []⟩)
  have first : Job.Runs (fresh.run .solidsDone) [.shown fresh false,
      .logged Stage.inventory.announcement,
      .asked fresh.inventoryInvocation (.ok ⟨none, [], declared⟩), .shown listed true]
      ⟨listed, .error .interrupted⟩ :=
    .checkpoint false (.log (.ask _ (.checkpoint true (.done _))))
  have second : Job.Runs (listed.run .solidsDone) [.shown listed false,
      .logged Stage.objects.announcement, asked listed none]
      ⟨failed, .error (.configuration (.emptyObject .mesh "block"))⟩ :=
    .checkpoint false (.log (.ask _ (.done _)))
  have third : Job.Runs (failed.run .solidsDone) [.shown failed false,
      .logged Stage.objects.announcement, asked failed (some solid), .shown ended false,
      .logged Stage.closing] ⟨ended, .ok ()⟩ :=
    .checkpoint false (.log (.ask _ (.checkpoint false (.log (.done _)))))
  have once := History.fresh.run _ first (by simp [Job.Event.Short, declared])
  have twice := once.run _ second (by simp [Job.Event.Short, asked])
  have history := twice.run _ third (by simp [Job.Event.Short, asked])
  exact ⟨history, progress_tells_truth history⟩

end SolidStudy.Study
