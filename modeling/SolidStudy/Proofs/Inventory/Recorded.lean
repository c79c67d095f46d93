import Mathlib
import SolidStudy.Proofs.Study.Names

/-! What a sequence of declarations makes of a new study. `Records` describes the study in full,
and `Orderly` says of the sequence alone that each declaration is admitted when it comes. -/
namespace SolidStudy

namespace Declaration

def isAnalysis : Declaration → Bool
  | .analysis _ _ => true
  | _ => false

@[simp] def isSelection : Declaration → Bool
  | .volume _ | .surface _ _ _ => true
  | _ => false

def selections (ds : List Declaration) : List Declaration := ds.filter isSelection

@[simp] theorem selections_concat (ds : List Declaration) (d : Declaration) :
    selections (ds ++ [d]) = selections ds ++ if d.isSelection then [d] else [] := by
  rw [selections, List.filter_append, ← selections]
  cases d <;> rfl

def name? (d : Declaration) : Option String := d.declared?.map (·.2)

end Declaration

theorem getElem?_concat_eq_some {α : Type} {l : List α} {a b : α} {k : Nat} :
    (l ++ [a])[k]? = some b ↔ l[k]? = some b ∨ k = l.length ∧ b = a := by
  rcases Nat.lt_trichotomy k l.length with below | rfl | above
  · simp [List.getElem?_append_left below, below.ne]
  · simp [eq_comm]
  · have beyond : l[k]? = none := List.getElem?_eq_none above.le
    have past : (l ++ [a])[k]? = none := List.getElem?_eq_none (by simpa using above)
    simp [beyond, past, above.ne']

namespace Study

variable {source outputDir : String} {study : Study} {ds : List Declaration} {d : Declaration}
  {kind : ObjectKind} {name : String}

def recordAll (study : Study) (ds : List Declaration) : Study := ds.foldl record study

/-- Each declaration is admitted when it comes. -/
def AdmitsAll : Study → List Declaration → Prop
  | _, [] => True
  | study, d :: rest => study.Admits d ∧ (study.record d).AdmitsAll rest

theorem recordAll_concat : study.recordAll (ds ++ [d]) = (study.recordAll ds).record d := by
  simp [recordAll]

theorem admitsAll_concat :
    study.AdmitsAll (ds ++ [d]) ↔ study.AdmitsAll ds ∧ (study.recordAll ds).Admits d := by
  induction ds generalizing study with
  | nil => simp [AdmitsAll, recordAll]
  | cons first rest ih =>
    rw [List.cons_append, AdmitsAll, ih, AdmitsAll, and_assoc]
    rfl

theorem holds_recordAll : (study.recordAll ds).holds kind name = true ↔
    (∃ d ∈ ds, d.declared? = some (kind, name)) ∨ study.holds kind name = true := by
  induction ds generalizing study with
  | nil => simp [recordAll]
  | cons first rest ih =>
    rw [recordAll, List.foldl_cons, ← recordAll, ih, holds_record]
    simp only [List.mem_cons, exists_eq_or_imp, or_assoc, or_left_comm]

theorem kindOf_recordAll_eq_none : ((new source outputDir).recordAll ds).kindOf name = none ↔
    name ∉ ds.filterMap Declaration.name? := by
  simp only [kindOf_eq_none, ← Bool.not_eq_true, holds_recordAll, holds_new]
  simp [Declaration.name?]
  tauto

/-- A study that has taken in exactly these declarations, in this order. Selections are numbered
through from one. -/
structure Records (source outputDir : String) (ds : List Declaration) (study : Study) : Prop where
  source : study.source = source
  outputDir : study.outputDir = outputDir
  progress : study.progress = .nothingDone
  errored : study.errored = false
  materials : study.materials = .empty
  scale : study.scale = 0
  analysed : ∀ deck units, .analysis deck units ∈ ds →
    study.deck = deck ∧ study.units = some units
  unanalysed : (∀ d ∈ ds, d.isAnalysis = false) → study.deck = [] ∧ study.units = none
  nextBit : study.nextBit = .ofNat ((Declaration.selections ds).length + 1)
  meshes : ∀ name mesh, study.meshes.get? name = some mesh ↔
    .mesh name ∈ ds ∧ mesh = ⟨.automatic, none⟩
  volumes : ∀ name selection, study.volumes.get? name = some selection ↔
    ∃ k, (Declaration.selections ds)[k]? = some (.volume name) ∧
      selection = ⟨.ofNat (k + 1), none⟩
  surfaces : ∀ name selection, study.surfaces.get? name = some selection ↔
    ∃ k direction tolerance,
      (Declaration.selections ds)[k]? = some (.surface name direction tolerance) ∧
      selection = ⟨.ofNat (k + 1), direction, tolerance, none⟩
  loads : ∀ name load, study.loads.get? name = some load ↔
    ∃ target force, .load name target force ∈ ds ∧ load = .onVolume target ⟨0, 0, force⟩

theorem Records.new (source outputDir : String) :
    Records source outputDir [] (new source outputDir) := by
  constructor <;> simp [Study.new, Declaration.selections, solidBit]

theorem get?_eq_none_of_kindOf (h : study.kindOf name = none) :
    study.meshes.get? name = none ∧ study.volumes.get? name = none ∧
      study.surfaces.get? name = none ∧ study.loads.get? name = none := by
  have free := kindOf_eq_none.mp h
  exact ⟨(Table.not_contains_iff _).mp (free .mesh), (Table.not_contains_iff _).mp (free .volume),
    (Table.not_contains_iff _).mp (free .surface), (Table.not_contains_iff _).mp (free .load)⟩

namespace Records

variable (h : Records source outputDir ds study)
include h

theorem record_unanalysed (unlisted : ∀ e ∈ ds ++ [d], e.isAnalysis = false) :
    (study.record d).deck = [] ∧ (study.record d).units = none := by
  have known := h.unanalysed fun e listed => unlisted e (by simp [listed])
  have last := unlisted d (by simp)
  cases d with
  | analysis => contradiction
  | _ => exact known

theorem record_nextBit : (study.record d).nextBit =
    .ofNat ((Declaration.selections (ds ++ [d])).length + 1) := by
  have known := h.nextBit
  cases d with
  | volume | surface =>
    simp [record, known, UInt32.ofNat_add]
  | _ => simpa [record] using known

variable (admitted : study.Admits d)
include admitted

theorem record_analysed (deck : List String) (units : UnitSystem)
    (listed : .analysis deck units ∈ ds ++ [d]) :
    (study.record d).deck = deck ∧ (study.record d).units = some units := by
  rcases List.mem_append.mp listed with earlier | last
  · have known := h.analysed deck units earlier
    cases d with
    | analysis =>
      have fresh : study.deck = [] ∧ study.units = none := admitted
      simp [known.2] at fresh
    | _ => exact known
  · rw [List.mem_singleton] at last
    subst last
    exact ⟨rfl, rfl⟩

theorem record_meshes (name : String) (mesh : Mesh) :
    (study.record d).meshes.get? name = some mesh ↔
      .mesh name ∈ ds ++ [d] ∧ mesh = ⟨.automatic, none⟩ := by
  cases d with
  | mesh declared =>
    have fresh := (get?_eq_none_of_kindOf (admitted : study.kindOf declared = none)).1
    rw [record, Table.get?_insert_fresh _ fresh, h.meshes]
    simp [or_and_right]
  | _ => simpa [record] using h.meshes name mesh

theorem record_volumes (name : String) (selection : VolumeSelection) :
    (study.record d).volumes.get? name = some selection ↔
      ∃ k, (Declaration.selections (ds ++ [d]))[k]? = some (.volume name) ∧
        selection = ⟨.ofNat (k + 1), none⟩ := by
  cases d with
  | volume declared =>
    have fresh := (get?_eq_none_of_kindOf (admitted : study.kindOf declared = none)).2.1
    rw [record, Table.get?_insert_fresh _ fresh, h.volumes, h.nextBit]
    simp [getElem?_concat_eq_some, or_and_right, exists_or, and_assoc]
  | surface =>
    simpa [record, getElem?_concat_eq_some] using h.volumes name selection
  | _ => simpa [record] using h.volumes name selection

theorem record_surfaces (name : String) (selection : SurfaceSelection) :
    (study.record d).surfaces.get? name = some selection ↔
      ∃ k direction tolerance,
        (Declaration.selections (ds ++ [d]))[k]? =
          some (.surface name direction tolerance) ∧
        selection = ⟨.ofNat (k + 1), direction, tolerance, none⟩ := by
  cases d with
  | surface declared direction tolerance =>
    have fresh := (get?_eq_none_of_kindOf (admitted : study.kindOf declared = none)).2.2.1
    rw [record, Table.get?_insert_fresh _ fresh, h.surfaces, h.nextBit]
    simp [getElem?_concat_eq_some, or_and_right, exists_or, and_assoc]
  | volume =>
    simpa [record, getElem?_concat_eq_some] using h.surfaces name selection
  | _ => simpa [record] using h.surfaces name selection

theorem record_loads (name : String) (load : Load) :
    (study.record d).loads.get? name = some load ↔
      ∃ target force, .load name target force ∈ ds ++ [d] ∧
        load = .onVolume target ⟨0, 0, force⟩ := by
  cases d with
  | load declared target force =>
    have free : study.kindOf declared = none := admitted.fresh rfl
    rw [record, Table.get?_insert_fresh _ (get?_eq_none_of_kindOf free).2.2.2, h.loads]
    simp [or_and_right, exists_or, and_assoc]
  | _ => simpa [record] using h.loads name load

theorem record : Records source outputDir (ds ++ [d]) (study.record d) where
  source := by cases d <;> exact h.source
  outputDir := by cases d <;> exact h.outputDir
  progress := by cases d <;> exact h.progress
  errored := by cases d <;> exact h.errored
  materials := by cases d <;> exact h.materials
  scale := by cases d <;> exact h.scale
  analysed := h.record_analysed admitted
  unanalysed := h.record_unanalysed
  nextBit := h.record_nextBit
  meshes := h.record_meshes admitted
  volumes := h.record_volumes admitted
  surfaces := h.record_surfaces admitted
  loads := h.record_loads admitted

end Records

end Study

end SolidStudy
