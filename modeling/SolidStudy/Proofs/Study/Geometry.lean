import Mathlib
import SolidStudy.Proofs.Study.Reachable

/-! The geometry that the objects of a study have. After an extraction all of them have some. -/
namespace SolidStudy.Study

variable {study next : Study} {kind other : ObjectKind} {name : String}

def solid? (study : Study) : ObjectKind → String → Option Polyhedron
  | .mesh, name => (study.meshes.get? name).bind (·.solid)
  | .volume, name => (study.volumes.get? name).bind (·.mask)
  | .surface, name => (study.surfaces.get? name).bind (·.mask)
  | .load, _ => none

theorem mem_geometricObjects_iff :
    (kind, name) ∈ study.geometricObjects ↔ kind ≠ .load ∧ study.holds kind name = true := by
  cases kind <;> simp [geometricObjects, holds, Table.mem_names_iff]

theorem solid?_setGeometry_self (solid : Polyhedron) (geometric : kind ≠ .load)
    (held : study.holds kind name = true) :
    (study.setGeometry kind name solid).solid? kind name = some solid := by
  cases kind with
  | mesh | volume | surface =>
    obtain ⟨o, found⟩ := (Table.contains_iff _).mp held
    simp [setGeometry, solid?, Table.get?_modify, found]
  | load => contradiction

theorem solid?_setGeometry_other (solid : Polyhedron) {n : String}
    (different : (other, n) ≠ (kind, name)) :
    (study.setGeometry kind name solid).solid? other n = study.solid? other n := by
  have unchanged {α : Type} (t : Table α) (f : α → α) (elsewhere : n ≠ name) :
      (t.modify name f).get? n = t.get? n := by
    simp [Table.get?_modify, elsewhere]
  by_cases same : other = kind
  · subst same
    have elsewhere : n ≠ name := by
      rintro rfl
      exact different rfl
    cases other <;> simp [setGeometry, solid?, unchanged _ _ elsewhere]
  · cases kind <;> cases other <;> simp_all [setGeometry, solid?]

theorem holds_of_solid? (known : (study.solid? kind name).isSome = true) :
    kind ≠ .load ∧ study.holds kind name = true := by
  obtain ⟨solid, found⟩ := Option.isSome_iff_exists.mp known
  cases kind with
  | mesh | volume | surface =>
    obtain ⟨o, listed, -⟩ := Option.bind_eq_some_iff.mp found
    exact ⟨by simp, (Table.contains_iff _).mpr ⟨o, listed⟩⟩
  | load => simp [solid?] at found

/-- Geometry may be replaced, but it does not get lost. -/
theorem solid?_setGeometry_of_isSome (solid : Polyhedron) {n : String}
    (known : (study.solid? other n).isSome = true) :
    ((study.setGeometry kind name solid).solid? other n).isSome = true := by
  by_cases same : (other, n) = (kind, name)
  · cases same
    obtain ⟨geometric, held⟩ := holds_of_solid? known
    rw [solid?_setGeometry_self solid geometric held]
    rfl
  · rw [solid?_setGeometry_other solid same]
    exact known

theorem solid?_fill {solids : List ((ObjectKind × String) × Polyhedron)}
    (geometric : kind ≠ .load) (held : study.holds kind name = true)
    (given : (kind, name) ∈ solids.map (·.1) ∨ (study.solid? kind name).isSome = true) :
    ((study.fill solids).solid? kind name).isSome = true := by
  induction solids generalizing study with
  | nil => exact given.resolve_left (by simp)
  | cons solid rest ih =>
    rw [fill, List.foldl_cons, ← fill]
    refine ih (by rwa [holds_setGeometry]) ?_
    by_cases same : (kind, name) = solid.1
    · rw [← same, solid?_setGeometry_self solid.2 geometric held]
      exact .inr rfl
    · rcases given with listed | known
      · rw [List.map_cons, List.mem_cons] at listed
        exact .inl (listed.resolve_left same)
      · exact .inr (solid?_setGeometry_of_isSome solid.2 known)

theorem solid?_of_realizeObjects {events : List Job.Event}
    (h : study.realizeObjects.Gets events next) (geometric : kind ≠ .load)
    (held : next.holds kind name = true) : (next.solid? kind name).isSome = true := by
  rw [holds_of_realizeObjects h] at held
  obtain ⟨solids, names, -, rfl⟩ := realizeObjects_gets_iff.mp h
  refine solid?_fill geometric held (.inl ?_)
  rw [names]
  exact mem_geometricObjects_iff.mpr ⟨geometric, held⟩

end SolidStudy.Study
