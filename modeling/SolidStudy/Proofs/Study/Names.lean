import Mathlib
import SolidStudy.Proofs.Directive.Declaration
import SolidStudy.Proofs.Table

/-! The names of a study. A study keeps its names apart if each is plain and belongs to one kind
only; then all look-ups agree about it. Declarations that are admitted, and geometry, keep names
apart. -/
namespace SolidStudy

/-- The kind and the name of what is declared. An analysis has no name. -/
def Declaration.declared? : Declaration → Option (ObjectKind × String)
  | .analysis _ _ => none
  | .mesh name => some (.mesh, name)
  | .volume name => some (.volume, name)
  | .surface name _ _ => some (.surface, name)
  | .load name _ _ => some (.load, name)

theorem Directive.Declares.plainName {statement : Statement} {d : Declaration}
    (h : Directive.Declares statement d) {kind : ObjectKind} {name : String}
    (declared : d.declared? = some (kind, name)) : PlainName name := by
  obtain ⟨_, _, -, written⟩ := h
  cases written with
  | analysis => simp [Declaration.declared?] at declared
  | mesh plain | volume plain | surface plain | load plain =>
    simp only [Declaration.declared?, Option.some.injEq, Prod.mk.injEq] at declared
    exact declared.2 ▸ plain

namespace ObjectKind

variable {kind other : ObjectKind}

theorem nodup_names (kind : ObjectKind) {names : List String} (distinct : names.Nodup) :
    (names.map (kind, ·)).Nodup :=
  distinct.map (Prod.mk_right_injective kind)

theorem disjoint_names (different : kind ≠ other) (names others : List String) :
    (names.map (kind, ·)).Disjoint (others.map (other, ·)) := by
  intro o first second
  obtain ⟨_, -, rfl⟩ := List.mem_map.mp first
  obtain ⟨_, -, same⟩ := List.mem_map.mp second
  exact different (Prod.mk.inj same).1.symm

end ObjectKind

namespace Study

variable {study next : Study} {kind other : ObjectKind} {name : String}

def holds (study : Study) : ObjectKind → String → Bool
  | .mesh, name => study.meshes.contains name
  | .volume, name => study.volumes.contains name
  | .surface, name => study.surfaces.contains name
  | .load, name => study.loads.contains name

theorem holds_new (source outputDir : String) : (new source outputDir).holds kind name = false := by
  cases kind <;> rfl

theorem kindOf_eq_none : study.kindOf name = none ↔ ∀ kind, study.holds kind name = false := by
  constructor
  · intro h kind
    unfold kindOf at h
    split_ifs at h with mesh volume surface load
    cases kind <;> simp_all [holds]
  · intro h
    have mesh := h .mesh
    have volume := h .volume
    have surface := h .surface
    have load := h .load
    simp_all [holds, kindOf]

theorem holds_of_kindOf (h : study.kindOf name = some kind) : study.holds kind name = true := by
  unfold kindOf at h
  split_ifs at h with mesh volume surface load <;> cases h <;> assumption

theorem holds_record {d : Declaration} : (study.record d).holds kind name = true ↔
    d.declared? = some (kind, name) ∨ study.holds kind name = true := by
  cases d <;> cases kind <;>
    simp [record, holds, Declaration.declared?, Table.contains_insert]

theorem holds_setGeometry (solid : Polyhedron) :
    (study.setGeometry kind name solid).holds = study.holds := by
  funext k n
  cases kind <;> cases k <;> simp [setGeometry, holds, Table.contains_modify]

theorem Admits.fresh {d : Declaration} (h : study.Admits d)
    (declared : d.declared? = some (kind, name)) : study.kindOf name = none := by
  cases d with
  | analysis => simp [Declaration.declared?] at declared
  | mesh | volume | surface =>
    simp only [Declaration.declared?, Option.some.injEq, Prod.mk.injEq] at declared
    exact declared.2 ▸ h
  | load =>
    simp only [Declaration.declared?, Option.some.injEq, Prod.mk.injEq] at declared
    exact declared.2 ▸ h.1

/-- Names are plain and belong to one kind only. -/
structure NamesApart (study : Study) : Prop where
  plain : ∀ kind name, study.holds kind name = true → PlainName name
  apart : ∀ kind other name,
    study.holds kind name = true → study.holds other name = true → kind = other

namespace NamesApart

theorem new (source outputDir : String) : (new source outputDir).NamesApart where
  plain kind name held := by simp [holds_new] at held
  apart kind other name held := by simp [holds_new] at held

theorem of_holds_eq (h : study.NamesApart) (same : next.holds = study.holds) :
    next.NamesApart where
  plain kind name held := h.plain kind name (same ▸ held)
  apart kind other name held held' := h.apart kind other name (same ▸ held) (same ▸ held')

theorem record {statement : Statement} {d : Declaration} (h : study.NamesApart)
    (written : Directive.Declares statement d) (admitted : study.Admits d) :
    (study.record d).NamesApart where
  plain kind name held := by
    rcases holds_record.mp held with declared | held
    · exact written.plainName declared
    · exact h.plain kind name held
  apart kind other name held held' := by
    rcases holds_record.mp held with declared | old <;>
      rcases holds_record.mp held' with declared' | old'
    · rw [declared, Option.some.injEq, Prod.mk.injEq] at declared'
      exact declared'.1
    · have free := kindOf_eq_none.mp (admitted.fresh declared) other
      simp [free] at old'
    · have free := kindOf_eq_none.mp (admitted.fresh declared') kind
      simp [free] at old
    · exact h.apart kind other name old old'

theorem dispatch {statement : Statement} (h : study.NamesApart)
    (ok : study.dispatch statement = .ok next) : next.NamesApart := by
  rcases dispatch_eq_ok.mp ok with ⟨-, rfl⟩ | ⟨d, written, admitted, rfl⟩
  · exact h
  · exact h.record written admitted

theorem kindOf_eq_some_iff (h : study.NamesApart) :
    study.kindOf name = some kind ↔ study.holds kind name = true := by
  constructor
  · exact holds_of_kindOf
  · intro held
    cases found : study.kindOf name with
    | none =>
      have free := kindOf_eq_none.mp found kind
      simp [free] at held
    | some k => rw [h.apart k kind name (holds_of_kindOf found) held]

theorem volumeObject?_eq_some_iff (h : study.NamesApart) {object : VolumeObject} :
    study.volumeObject? name = some object ↔
      (∃ mesh, study.meshes.get? name = some mesh ∧ object = .mesh mesh) ∨
      ∃ selection, study.volumes.get? name = some selection ∧ object = .selection selection := by
  unfold volumeObject?
  cases found : study.meshes.get? name with
  | none => simp [eq_comm]
  | some mesh =>
    have absent : study.volumes.get? name = none := by
      rw [← Table.not_contains_iff, Bool.eq_false_iff]
      intro held
      have held' : study.holds .mesh name = true := Table.contains_iff _ |>.mpr ⟨mesh, found⟩
      have same := h.apart .mesh .volume name held' held
      contradiction
    simp [absent, eq_comm]

end NamesApart

theorem volumeObject?_isSome_iff : (study.volumeObject? name).isSome = true ↔
    study.holds .mesh name = true ∨ study.holds .volume name = true := by
  unfold volumeObject?
  split
  · rename_i mesh found
    simp [holds, Table.contains, found]
  · rename_i absent
    simp [holds, Table.contains, absent]

theorem surfaceObject?_isSome_iff :
    (study.surfaceObject? name).isSome = true ↔ study.holds .surface name = true :=
  .rfl

theorem object?_isSome_iff : (study.object? name).isSome = true ↔
    study.kindOf name = some .mesh ∨ study.kindOf name = some .volume ∨
      study.kindOf name = some .surface := by
  cases found : study.kindOf name with
  | none => simp [object?, found]
  | some kind =>
    have held := holds_of_kindOf found
    cases kind with
    | mesh | volume | surface => simpa [object?, found, holds, Table.contains] using held
    | load => simp [object?, found]

end Study

end SolidStudy
