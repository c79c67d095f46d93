import Mathlib
import SolidStudy.Proofs.Inventory.Acceptance
import SolidStudy.Proofs.Inventory.Orderly

/-! The bits of selections. Volumes and surfaces share one numbering: the selections that a study
accepted hold the bits from one on, in the order in which they came. -/
namespace SolidStudy

def Declaration.selected? : Declaration → Option (ObjectKind × String)
  | .volume name => some (.volume, name)
  | .surface name _ _ => some (.surface, name)
  | _ => none

/-- The kind and the name of a selection, as its directive spells them. -/
def Directive.selected? : Statement → Option (ObjectKind × String)
  | _ :: .text directive :: .text name :: _ =>
    match DirectiveKind.named directive with
    | some .selectVolume => some (.volume, name)
    | some .selectSurface => some (.surface, name)
    | _ => none
  | _ => none

theorem Directive.Declares.selected? {statement : Statement} {d : Declaration}
    (h : Directive.Declares statement d) : Directive.selected? statement = d.selected? := by
  obtain ⟨kind, args, rfl, written⟩ := h
  cases written <;> rfl

theorem forall₂_declares_selected? {statements : List Statement} {ds : List Declaration}
    (h : List.Forall₂ Directive.Declares statements ds) :
    statements.filterMap Directive.selected? = ds.filterMap Declaration.selected? := by
  induction h with
  | nil => rfl
  | cons declares _ ih => rw [List.filterMap_cons, List.filterMap_cons, declares.selected?, ih]

theorem Declaration.selections_map_selected? (ds : List Declaration) :
    (selections ds).map selected? = (ds.filterMap selected?).map some := by
  induction ds with
  | nil => rfl
  | cons d rest ih =>
    cases d with
    | volume | surface => exact congrArg (_ :: ·) ih
    | _ => exact ih

theorem Declaration.length_selections (ds : List Declaration) :
    (selections ds).length = (ds.filterMap selected?).length := by
  simpa using congrArg List.length (selections_map_selected? ds)

theorem Declaration.getElem?_selected? {ds : List Declaration} {k : Nat}
    {o : ObjectKind × String} : (ds.filterMap selected?)[k]? = some o ↔
      ∃ d, (selections ds)[k]? = some d ∧ d.selected? = some o := by
  have same := congrArg (·[k]?) (selections_map_selected? ds)
  simp only [List.getElem?_map] at same
  cases found : (selections ds)[k]? with
  | none => simp_all [eq_comm]
  | some d =>
    cases chosen : (ds.filterMap selected?)[k]? <;> simp_all

namespace Study

variable {source outputDir : String} {study : Study} {ds : List Declaration}

def bit? (study : Study) : ObjectKind → String → Option UInt32
  | .volume, name => (study.volumes.get? name).map (·.bit)
  | .surface, name => (study.surfaces.get? name).map (·.bit)
  | _, _ => none

def bits (study : Study) : List Nat :=
  study.volumes.entries.map (·.2.bit.toNat) ++ study.surfaces.entries.map (·.2.bit.toNat)

/-- Selections without geometry, numbered through from one. -/
def numbered (chosen : List (ObjectKind × String)) : List Selection :=
  chosen.mapIdx fun k o => ⟨.ofNat (k + 1), o.1, o.2, none⟩

theorem Records.bit?_eq (h : Records source outputDir ds study) {k : Nat} {kind : ObjectKind}
    {name : String} (chosen : (ds.filterMap Declaration.selected?)[k]? = some (kind, name)) :
    study.bit? kind name = some (.ofNat (k + 1)) := by
  obtain ⟨d, found, selected⟩ := Declaration.getElem?_selected?.mp chosen
  cases d with
  | volume declared =>
    cases selected
    rw [bit?, (h.volumes name _).mpr ⟨k, found, rfl⟩]
    rfl
  | surface declared direction tolerance =>
    cases selected
    rw [bit?, (h.surfaces name _).mpr ⟨k, direction, tolerance, found, rfl⟩]
    rfl
  | _ => simp [Declaration.selected?] at selected

theorem mem_numbered_iff {chosen : List (ObjectKind × String)} {s : Selection} :
    s ∈ numbered chosen ↔
      ∃ k o, chosen[k]? = some o ∧ s = ⟨.ofNat (k + 1), o.1, o.2, none⟩ := by
  simp only [numbered, List.mem_mapIdx, List.getElem?_eq_some_iff]
  constructor
  · intro given
    rcases given with ⟨k, below, rfl⟩
    exact ⟨k, chosen[k], ⟨below, rfl⟩, rfl⟩
  · intro given
    rcases given with ⟨k, _, ⟨below, rfl⟩, rfl⟩
    exact ⟨k, below, rfl⟩

theorem numbered_bits (chosen : List (ObjectKind × String)) (few : chosen.length < 2 ^ 32 - 1) :
    (numbered chosen).map (·.bit.toNat) = List.range' 1 chosen.length := by
  refine List.ext_getElem (by simp [numbered]) fun k below _ => ?_
  have bound : chosen.length + 1 < UInt32.size := Nat.add_lt_of_lt_sub few
  simp only [numbered, List.length_map, List.length_mapIdx] at below
  simp only [numbered, List.getElem_map, List.getElem_mapIdx, List.getElem_range']
  rw [UInt32.toNat_ofNat_of_lt' (by omega)]
  omega

theorem numbered_increasing (chosen : List (ObjectKind × String))
    (few : chosen.length < 2 ^ 32 - 1) :
    (numbered chosen).Pairwise fun a b => a.bit < b.bit := by
  have increasing : ((numbered chosen).map (·.bit.toNat)).Pairwise (· < ·) := by
    rw [numbered_bits chosen few]
    exact List.pairwise_lt_range'
  rw [List.pairwise_map] at increasing
  exact increasing.imp fun below => UInt32.lt_iff_toNat_lt.mpr below

def unsorted (study : Study) : List Selection :=
  study.volumes.entries.map (fun (name, o) => ⟨o.bit, .volume, name, o.mask⟩) ++
    study.surfaces.entries.map (fun (name, o) => ⟨o.bit, .surface, name, o.mask⟩)

theorem selections_perm (study : Study) : study.selections.Perm study.unsorted :=
  List.mergeSort_perm _ _

theorem selections_sorted (study : Study) :
    study.selections.Pairwise fun a b => a.bit ≤ b.bit := by
  have trans (a b c : Selection) : decide (a.bit ≤ b.bit) → decide (b.bit ≤ c.bit) →
      decide (a.bit ≤ c.bit) := by
    simpa using UInt32.le_trans
  have total (a b : Selection) : decide (a.bit ≤ b.bit) || decide (b.bit ≤ a.bit) := by
    simpa using UInt32.le_total a.bit b.bit
  exact (List.pairwise_mergeSort trans total study.unsorted).imp of_decide_eq_true

theorem unsorted_nodup (study : Study) : study.unsorted.Nodup := by
  have volumes : (study.volumes.entries.map fun (name, o) =>
      (⟨o.bit, .volume, name, o.mask⟩ : Selection)).Nodup := by
    refine List.Nodup.of_map Selection.name ?_
    simpa [Table.names, Function.comp_def] using study.volumes.names_nodup
  have surfaces : (study.surfaces.entries.map fun (name, o) =>
      (⟨o.bit, .surface, name, o.mask⟩ : Selection)).Nodup := by
    refine List.Nodup.of_map Selection.name ?_
    simpa [Table.names, Function.comp_def] using study.surfaces.names_nodup
  refine volumes.append surfaces ?_
  intro s first second
  obtain ⟨_, -, rfl⟩ := List.mem_map.mp first
  obtain ⟨_, -, same⟩ := List.mem_map.mp second
  simp at same

theorem mem_unsorted_iff {s : Selection} : s ∈ study.unsorted ↔
    (∃ name o, study.volumes.get? name = some o ∧ s = ⟨o.bit, .volume, name, o.mask⟩) ∨
    ∃ name o, study.surfaces.get? name = some o ∧ s = ⟨o.bit, .surface, name, o.mask⟩ := by
  simp only [unsorted, List.mem_append, List.mem_map, Prod.exists, Table.get?_eq_some_iff,
    @eq_comm _ s]

theorem Records.mem_unsorted_iff (h : Records source outputDir ds study) {s : Selection} :
    s ∈ study.unsorted ↔ s ∈ numbered (ds.filterMap Declaration.selected?) := by
  simp only [Study.mem_unsorted_iff, mem_numbered_iff, Declaration.getElem?_selected?, h.volumes,
    h.surfaces]
  constructor
  · intro given
    rcases given with ⟨name, _, ⟨k, found, rfl⟩, rfl⟩ | ⟨name, _, ⟨k, _, _, found, rfl⟩, rfl⟩
    · exact ⟨k, (.volume, name), ⟨_, found, rfl⟩, rfl⟩
    · exact ⟨k, (.surface, name), ⟨_, found, rfl⟩, rfl⟩
  · intro given
    rcases given with ⟨k, o, ⟨d, found, selected⟩, rfl⟩
    cases d with
    | volume name =>
      cases selected
      exact .inl ⟨name, _, ⟨k, found, rfl⟩, rfl⟩
    | surface name direction tolerance =>
      cases selected
      exact .inr ⟨name, _, ⟨k, direction, tolerance, found, rfl⟩, rfl⟩
    | _ => simp [Declaration.selected?] at selected

theorem Records.selections_eq (h : Records source outputDir ds study)
    (few : (ds.filterMap Declaration.selected?).length < 2 ^ 32 - 1) :
    study.selections = numbered (ds.filterMap Declaration.selected?) := by
  have increasing := numbered_increasing _ few
  have perm : study.selections.Perm (numbered (ds.filterMap Declaration.selected?)) := by
    refine study.selections_perm.trans ?_
    refine (List.perm_ext_iff_of_nodup study.unsorted_nodup ?_).mpr fun s => h.mem_unsorted_iff
    exact increasing.imp fun below same => by simp [same] at below
  refine List.Perm.eq_of_pairwise ?_ study.selections_sorted
    (increasing.imp fun below => UInt32.le_of_lt below) perm
  intro a b ha hb below above
  have distinct : ((numbered (ds.filterMap Declaration.selected?)).map (·.bit)).Nodup :=
    List.pairwise_map.mpr (increasing.imp fun below same => by simp [same] at below)
  exact List.inj_on_of_nodup_map distinct (perm.mem_iff.mp ha) hb (UInt32.le_antisymm below above)

theorem bits_eq (study : Study) : study.bits = study.unsorted.map (·.bit.toNat) := by
  simp [bits, unsorted, Function.comp_def]

theorem selectionCount_eq (study : Study) : study.selectionCount = study.unsorted.length := by
  simp [selectionCount, unsorted, Table.size]

theorem Records.bits_perm (h : Records source outputDir ds study)
    (few : (ds.filterMap Declaration.selected?).length < 2 ^ 32 - 1) :
    study.bits.Perm (List.range' 1 (ds.filterMap Declaration.selected?).length) := by
  rw [bits_eq, ← numbered_bits _ few, ← h.selections_eq few]
  exact study.selections_perm.symm.map _

theorem Records.selectionCount_eq (h : Records source outputDir ds study)
    (few : (ds.filterMap Declaration.selected?).length < 2 ^ 32 - 1) :
    study.selectionCount = (ds.filterMap Declaration.selected?).length := by
  rw [Study.selectionCount_eq, ← study.selections_perm.length_eq, h.selections_eq few, numbered,
    List.length_mapIdx]

/-- The selections that a study accepts, of statements that are tried one after another. -/
def chosen (study : Study) (statements : List Statement) : List (ObjectKind × String) :=
  (study.accepted statements).filterMap Directive.selected?

/-- The selections that a study accepted hold the bits from one on, in their order, whatever it
refused or passed over in between. -/
theorem attemptAll_bits (source outputDir : String) (statements : List Statement)
    (few : ((new source outputDir).chosen statements).length < 2 ^ 32 - 1) :
    let chosen := (new source outputDir).chosen statements
    let study := (new source outputDir).attemptAll statements
    (∀ k kind name, chosen[k]? = some (kind, name) →
      (study.bit? kind name).map UInt32.toNat = some (k + 1)) ∧
    study.bits.Perm (List.range' 1 chosen.length) ∧ solidBit.toNat ∉ study.bits ∧
    study.nextBit.toNat = chosen.length + 1 ∧ study.selectionCount = chosen.length ∧
    study.selections = numbered chosen ∧ (study.selections.Pairwise fun a b => a.bit < b.bit) ∧
    (study.bitCapacityExceeded = true ↔ bitCapacity < chosen.length) := by
  obtain ⟨ds, written, admitted, reached⟩ :=
    attemptAll_eq_recordAll (new source outputDir) statements
  have h := records_recordAll admitted
  rw [← reached] at h
  have same : (new source outputDir).chosen statements = ds.filterMap Declaration.selected? :=
    forall₂_declares_selected? written
  rw [same] at few ⊢
  intro chosen study
  have count : (Declaration.selections ds).length = chosen.length := by
    simpa using congrArg List.length (Declaration.selections_map_selected? ds)
  have bound : chosen.length + 1 < UInt32.size := Nat.add_lt_of_lt_sub few
  have perm : study.bits.Perm (List.range' 1 chosen.length) := h.bits_perm few
  have ordered : study.selections = numbered chosen := h.selections_eq few
  refine ⟨fun k kind name found => ?_, perm, ?_, ?_, h.selectionCount_eq few, ordered, ?_, ?_⟩
  · have below : k < chosen.length := (List.getElem?_eq_some_iff.mp found).1
    rw [h.bit?_eq found, Option.map_some, UInt32.toNat_ofNat_of_lt' (by omega)]
  · rw [perm.mem_iff]
    simp [solidBit]
  · rw [h.nextBit, count, UInt32.toNat_ofNat_of_lt' bound]
  · rw [ordered]
    exact numbered_increasing chosen few
  · rw [h.bitCapacityExceeded_iff (count ▸ few), count]

/-- A name that is taken and a bad direction leave no gap between the bits. -/
theorem attemptAll_bits_refused :
    let top (direction : Value) : Statement := [.text Directive.marker,
      .text "select_surface_directive", .text "top", direction, .number 15]
    let core : Statement := [.text Directive.marker, .text "select_volume_directive", .text "core"]
    let statements := [core, core, top (.vector [.number 0, .number 1]), [.text "unrelated"],
      top (.vector [.number 0, .number 0, .number 1])]
    let study := (new "part.scad" "/tmp").attemptAll statements
    (new "part.scad" "/tmp").chosen statements = [(.volume, "core"), (.surface, "top")] ∧
      study.bits.Perm [1, 2] ∧ (study.bit? .surface "top").map UInt32.toNat = some 2 ∧
      study.nextBit.toNat = 3 ∧ study.selectionCount = 2 := by
  intro top core statements study
  have chosen : (new "part.scad" "/tmp").chosen statements =
      [(.volume, "core"), (.surface, "top")] := by rfl
  obtain ⟨numbered, perm, -, next, count, -⟩ :=
    attemptAll_bits "part.scad" "/tmp" statements (by rw [chosen]; decide)
  rw [chosen] at numbered perm next count
  exact ⟨chosen, perm, numbered 1 .surface "top" rfl, next, count⟩

end Study

end SolidStudy
