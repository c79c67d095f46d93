import Mathlib
import SolidStudy.Proofs.Fallible
import SolidStudy.Proofs.Json.Document
import SolidStudy.Proofs.Report.Rows
import SolidStudy.Proofs.Table
import SolidStudy.Study.Saved

/-! The saved form of a study. The text decides what is opened again, and a study comes back, less
its geometry, exactly if each of its numbers comes back from its own text. -/
namespace SolidStudy

open Json (Document reread)
open Number (kept)

namespace Json

theorem reread_congr {x y : Float} (same : kept x = kept y) : reread x = reread y := by
  rw [← Document.kept_real_inj, Document.kept_real, Document.kept_real] at same
  by_cases finite : Number.rankOf x < Number.infinityRank
  · by_cases finite' : Number.rankOf y < Number.infinityRank
    · simp only [finite, finite', if_true, Document.real.injEq] at same
      rw [same]
    · simp [finite, finite'] at same
  · by_cases finite' : Number.rankOf y < Number.infinityRank
    · simp [finite, finite'] at same
    · rw [reread, reread, if_neg finite, if_neg finite']

end Json

/-- What is opened depends on what the text of a document keeps, and on nothing else. -/
def Opens {α : Type} (document : α → Document) (reopen : α → Except Json.Fault α) : Prop :=
  ∀ ⦃a b⦄, (document a).kept = (document b).kept → reopen a = reopen b

theorem Dimension.title_injective : Function.Injective Dimension.title := by
  intro dimension dimension' same
  cases dimension <;> cases dimension' <;> simp [title] at same ⊢

theorem PhysicalUnit.opens : Opens document reopen := by
  rintro ⟨name, dimension, factor⟩ ⟨name', dimension', factor'⟩ same
  obtain ⟨rfl, rfl, factors⟩ : name = name' ∧ dimension = dimension' ∧ kept factor = kept factor' :=
    by simpa [document, Dimension.title_injective.eq_iff] using same
  simp only [reopen, Json.reread_congr factors]

theorem UnitSystem.opens : Opens document reopen := by
  rintro ⟨length, mass, time⟩ ⟨length', mass', time'⟩ same
  obtain ⟨lengths, masses, times⟩ : length.document.kept = length'.document.kept ∧
      mass.document.kept = mass'.document.kept ∧ time.document.kept = time'.document.kept := by
    simpa [document] using same
  simp only [reopen, PhysicalUnit.opens lengths, PhysicalUnit.opens masses,
    PhysicalUnit.opens times]

theorem Point.opens : Opens document reopen := by
  rintro ⟨x, y, z⟩ ⟨x', y', z'⟩ same
  obtain ⟨xs, ys, zs⟩ : kept x = kept x' ∧ kept y = kept y' ∧ kept z = kept z' := by
    simpa [document] using same
  simp only [reopen, Json.reread_congr xs, Json.reread_congr ys, Json.reread_congr zs]

theorem Fineness.opens : Opens document reopen := by
  intro fineness fineness' same
  cases fineness <;> cases fineness'
  case automatic.automatic => rfl
  case volumeAtMost.volumeAtMost volume volume' =>
    have volumes : kept volume = kept volume' := by simpa [document] using same
    simp only [reopen, Json.reread_congr volumes]
  all_goals simp [document] at same

theorem Mesh.opens : Opens document reopen := by
  rintro ⟨fineness, _⟩ ⟨fineness', _⟩ same
  have limits : fineness.document.kept = fineness'.document.kept := by simpa [document] using same
  simp only [reopen, Fineness.opens limits]

theorem VolumeSelection.opens : Opens document reopen := by
  rintro ⟨bit, _⟩ ⟨bit', _⟩ same
  obtain rfl : bit = bit' := by simpa [document, UInt32.toNat_inj] using same
  rfl

theorem SurfaceSelection.opens : Opens document reopen := by
  rintro ⟨bit, direction, tolerance, _⟩ ⟨bit', direction', tolerance', _⟩ same
  obtain ⟨rfl, directions, tolerances⟩ : bit = bit' ∧
      direction.document.kept = direction'.document.kept ∧ kept tolerance = kept tolerance' := by
    simpa [document, UInt32.toNat_inj] using same
  simp only [reopen, Point.opens directions, Json.reread_congr tolerances]

theorem Load.opens : Opens document reopen := by
  intro load load' same
  cases load <;> cases load'
  case onVolume.onVolume target force target' force' | onSurface.onSurface target force target' force' =>
    obtain ⟨rfl, forces⟩ : target = target' ∧ force.document.kept = force'.document.kept := by
      simpa [document] using same
    simp only [reopen, Point.opens forces]
  all_goals simp [document] at same

theorem Material.opens : Opens document reopen := by
  rintro ⟨modulus, ratio⟩ ⟨modulus', ratio'⟩ same
  obtain ⟨moduli, ratios⟩ : kept modulus = kept modulus' ∧ kept ratio = kept ratio' := by
    simpa [document] using same
  simp only [reopen, Json.reread_congr moduli, Json.reread_congr ratios]

theorem mapM_congr_of_map {ε α β γ : Type} {key : α → β} {check : α → Except ε γ}
    (h : ∀ ⦃a b⦄, key a = key b → check a = check b) {items items' : List α}
    (same : items.map key = items'.map key) : items.mapM check = items'.mapM check := by
  induction items generalizing items' with
  | nil => rw [List.map_eq_nil_iff.mp same.symm]
  | cons item rest ih =>
    obtain ⟨item', rest', rfl, first, later⟩ := List.map_eq_cons_iff.mp same.symm
    rw [List.mapM_cons, List.mapM_cons, h first.symm, ih later.symm]

theorem Table.opens {α : Type} {f : α → Document} {g : α → Except Json.Fault α} (h : Opens f g) :
    Opens (Table.document f) (Table.reopen g) := by
  intro t t' same
  have entries : t.entries.map (fun entry => (entry.1, (f entry.2).kept)) =
      t'.entries.map fun entry => (entry.1, (f entry.2).kept) := by
    simpa [document, Function.comp_def] using same
  rw [reopen, reopen, mapM_congr_of_map _ entries]
  rintro ⟨name, a⟩ ⟨name', a'⟩ alike
  obtain ⟨rfl, data⟩ := Prod.mk.inj alike
  simp only [h data]

namespace Study

theorem opens_units : Opens (Document.orNull UnitSystem.document) (·.mapM UnitSystem.reopen) := by
  intro units units' same
  cases units <;> cases units'
  case none.none => rfl
  case some.some units units' =>
    have systems : units.document.kept = units'.document.kept := by
      simpa [Document.orNull] using same
    simp only [Option.mapM_some, UnitSystem.opens systems]
  all_goals simp [Document.orNull, UnitSystem.document] at same

/-- Studies that are saved alike are opened alike: opening needs no more than the text. -/
theorem reopen_eq_of_save_eq {s t : Study} (same : s.save = t.save) : s.reopen = t.reopen := by
  have kept := Document.compact_eq_iff.mp same
  simp only [document, Document.kept_object, Document.kept_text, Document.kept_boolean,
    Document.kept_natural, Document.kept_list, Document.kept_real_inj, List.map_map,
    List.map_cons, List.map_nil, Document.object.injEq, Document.text.injEq, Document.boolean.injEq,
    Document.natural.injEq, Document.list.injEq, List.cons.injEq, Prod.mk.injEq, true_and, and_true,
    Progress.name_injective.eq_iff, Document.kept_comp_text_injective.list_map.eq_iff, UInt32.toNat_inj] at kept
  obtain ⟨source, directory, progress, errored, units, lines, bit, meshes, volumes, surfaces, loads,
    materials, scale⟩ := kept
  have opened := opens_units units
  dsimp only at opened
  simp only [reopen, source, directory, progress, errored, lines, bit, opened,
    Table.opens Mesh.opens meshes, Table.opens VolumeSelection.opens volumes,
    Table.opens SurfaceSelection.opens surfaces, Table.opens Load.opens loads,
    Table.opens Material.opens materials, Json.reread_congr scale]

end Study

/-- Each of the numbers is read back from what is written for it. -/
def Json.Last (numbers : List Float) : Prop := ∀ x ∈ numbers, reread x = .ok x

open Json (Last)

@[simp] theorem Json.last_nil : Last [] := by simp [Last]

@[simp] theorem Json.last_cons {x : Float} {rest : List Float} :
    Last (x :: rest) ↔ reread x = .ok x ∧ Last rest := by
  simp [Last]

@[simp] theorem Json.last_append {first rest : List Float} :
    Last (first ++ rest) ↔ Last first ∧ Last rest := by
  simp [Last, or_imp, forall_and]

def PhysicalUnit.numbers (unit : PhysicalUnit) : List Float := [unit.factor]

theorem PhysicalUnit.reopen_eq_ok_iff (unit : PhysicalUnit) :
    unit.reopen = .ok unit ↔ Last unit.numbers := by
  obtain ⟨name, dimension, factor⟩ := unit
  simp [reopen, numbers, bind_eq_ok, pure, Except.pure]

def UnitSystem.numbers (units : UnitSystem) : List Float :=
  units.length.numbers ++ units.mass.numbers ++ units.time.numbers

theorem UnitSystem.reopen_eq_ok_iff (units : UnitSystem) :
    units.reopen = .ok units ↔ Last units.numbers := by
  obtain ⟨length, mass, time⟩ := units
  simp [reopen, numbers, ← PhysicalUnit.reopen_eq_ok_iff, bind_eq_ok, pure, Except.pure]

def Point.numbers (p : Point) : List Float := [p.x, p.y, p.z]

theorem Point.reopen_eq_ok_iff (p : Point) : p.reopen = .ok p ↔ Last p.numbers := by
  obtain ⟨x, y, z⟩ := p
  simp [reopen, numbers, bind_eq_ok, pure, Except.pure]

def Mesh.numbers (mesh : Mesh) : List Float :=
  match mesh.fineness with
  | .automatic => []
  | .volumeAtMost volume => [volume]

def Mesh.stripped (mesh : Mesh) : Mesh := { mesh with solid := none }

theorem Mesh.reopen_eq_ok_iff (mesh : Mesh) :
    mesh.reopen = .ok mesh.stripped ↔ Last mesh.numbers := by
  obtain ⟨fineness, solid⟩ := mesh
  cases fineness <;>
    simp [reopen, Fineness.reopen, numbers, stripped, bind_eq_ok, pure, Except.pure]

/-- Bits are no doubles. -/
def VolumeSelection.numbers (_ : VolumeSelection) : List Float := []

def VolumeSelection.stripped (selection : VolumeSelection) : VolumeSelection :=
  { selection with mask := none }

theorem VolumeSelection.reopen_eq_ok_iff (selection : VolumeSelection) :
    selection.reopen = .ok selection.stripped ↔ Last selection.numbers := by
  simp [reopen, numbers, stripped]

def SurfaceSelection.numbers (selection : SurfaceSelection) : List Float :=
  selection.direction.numbers ++ [selection.tolerance]

def SurfaceSelection.stripped (selection : SurfaceSelection) : SurfaceSelection :=
  { selection with mask := none }

theorem SurfaceSelection.reopen_eq_ok_iff (selection : SurfaceSelection) :
    selection.reopen = .ok selection.stripped ↔ Last selection.numbers := by
  obtain ⟨bit, direction, tolerance, mask⟩ := selection
  simp [reopen, numbers, stripped, ← Point.reopen_eq_ok_iff, bind_eq_ok, pure, Except.pure]

def Load.numbers : Load → List Float
  | .onVolume _ force | .onSurface _ force => force.numbers

theorem Load.reopen_eq_ok_iff (load : Load) : load.reopen = .ok load ↔ Last load.numbers := by
  cases load <;>
    simp [reopen, numbers, ← Point.reopen_eq_ok_iff, bind_eq_ok, pure, Except.pure]

def Material.numbers (material : Material) : List Float :=
  [material.youngsModulus, material.poissonsRatio]

theorem Material.reopen_eq_ok_iff (material : Material) :
    material.reopen = .ok material ↔ Last material.numbers := by
  obtain ⟨modulus, ratio⟩ := material
  simp [reopen, numbers, bind_eq_ok, pure, Except.pure]

namespace Table

variable {α : Type} {f : α → Except Json.Fault α} {t t' : Table α}

theorem reopen_eq_ok_iff : t.reopen f = .ok t' ↔ List.Forall₂
    (fun entry entry' => entry'.1 = entry.1 ∧ f entry.2 = .ok entry'.2) t.entries t'.entries := by
  have opened (entry entry' : String × α) :
      (do return (entry.1, ← f entry.2) : Except Json.Fault (String × α)) = .ok entry' ↔
        entry'.1 = entry.1 ∧ f entry.2 = .ok entry'.2 := by
    rw [bind_eq_ok]
    constructor
    · rintro ⟨a, found, made⟩
      cases made
      exact ⟨rfl, found⟩
    · rintro ⟨named, found⟩
      exact ⟨entry'.2, found, by rw [← named]; rfl⟩
  simp only [reopen, bind_eq_ok, mapM_eq_ok_iff, opened]
  constructor
  · rintro ⟨entries, each, made⟩
    have names : entries.map (·.1) = t.entries.map (·.1) := by
      rw [← List.forall₂_eq_eq_eq, List.forall₂_map_left_iff, List.forall₂_map_right_iff]
      exact each.flip.imp fun _ _ same => same.1
    have ordered : entries.Pairwise fun a b => a.1 < b.1 := by
      rw [← List.pairwise_map, names, List.pairwise_map]
      exact t.ordered
    cases made
    rwa [ofList_entries ⟨entries, ordered⟩]
  · intro each
    exact ⟨t'.entries, each, congrArg _ t'.ofList_entries⟩

def numbers (f : α → List Float) (t : Table α) : List Float :=
  t.entries.flatMap fun entry => f entry.2

theorem reopen_eq_ok_mapWithName_iff {numbers : α → List Float} {stripped : α → α}
    (h : ∀ a, f a = .ok (stripped a) ↔ Last (numbers a)) :
    t.reopen f = .ok (t.mapWithName fun _ => stripped) ↔ Last (t.numbers numbers) := by
  refine reopen_eq_ok_iff.trans ?_
  simp only [mapWithName, List.forall₂_map_right_iff, List.forall₂_same, true_and, h, Last,
    Table.numbers, List.mem_flatMap]
  constructor
  · rintro each x ⟨entry, listed, among⟩
    exact each entry listed x among
  · intro each entry listed x among
    exact each x ⟨entry, listed, among⟩

/-- Entries without geometry come back as they were. -/
theorem reopen_eq_ok_self_iff {numbers : α → List Float}
    (h : ∀ a, f a = .ok a ↔ Last (numbers a)) : t.reopen f = .ok t ↔ Last (t.numbers numbers) := by
  rw [← reopen_eq_ok_mapWithName_iff h, mapWithName_self]

end Table

namespace Study

def numbers (s : Study) : List Float :=
  s.units.elim [] UnitSystem.numbers ++ s.meshes.numbers Mesh.numbers ++
    s.volumes.numbers VolumeSelection.numbers ++ s.surfaces.numbers SurfaceSelection.numbers ++ s.loads.numbers Load.numbers ++
    s.materials.numbers Material.numbers ++ [s.scale]

def stripped (s : Study) : Study := { s with
  meshes := s.meshes.mapWithName fun _ => Mesh.stripped
  volumes := s.volumes.mapWithName fun _ => VolumeSelection.stripped
  surfaces := s.surfaces.mapWithName fun _ => SurfaceSelection.stripped }

/-- Geometry is not saved. -/
theorem save_stripped (s : Study) : s.stripped.save = s.save := by
  have table {α : Type} (f : α → Document) (strip : α → α) (kept : ∀ a, f (strip a) = f a)
      (t : Table α) : (t.mapWithName fun _ => strip).document f = t.document f := by
    simp [Table.document, Table.mapWithName, kept]
  simp only [save, document, stripped, table Mesh.document Mesh.stripped fun _ => rfl,
    table VolumeSelection.document VolumeSelection.stripped fun _ => rfl,
    table SurfaceSelection.document SurfaceSelection.stripped fun _ => rfl]

theorem reopen_units_eq_ok_iff (units : Option UnitSystem) :
    units.mapM UnitSystem.reopen = .ok units ↔ Last (units.elim [] UnitSystem.numbers) := by
  cases units with
  | none => simp [pure, Except.pure]
  | some units => simp [← UnitSystem.reopen_eq_ok_iff, map_eq_ok, Functor.map]

/-- Opening a saved study loses nothing but the geometry exactly if each number is read back as the
double that was written. -/
theorem reopen_eq_ok_stripped_iff (s : Study) : s.reopen = .ok s.stripped ↔ Last s.numbers := by
  simp only [numbers, Json.last_append, ← reopen_units_eq_ok_iff,
    ← Table.reopen_eq_ok_mapWithName_iff Mesh.reopen_eq_ok_iff,
    ← Table.reopen_eq_ok_mapWithName_iff VolumeSelection.reopen_eq_ok_iff,
    ← Table.reopen_eq_ok_mapWithName_iff SurfaceSelection.reopen_eq_ok_iff,
    ← Table.reopen_eq_ok_self_iff Load.reopen_eq_ok_iff,
    ← Table.reopen_eq_ok_self_iff Material.reopen_eq_ok_iff]
  simp [reopen, stripped, bind_eq_ok, pure, Except.pure, and_assoc]

end Study

end SolidStudy
