import Mathlib
import SolidStudy.Directive
import SolidStudy.Proofs.Fallible

/-! What the checks of arguments let through: each check comes to a good end exactly on the values
that stand for its result. -/
namespace SolidStudy

/-- ASCII letters, digits and underscores, at least one of them. -/
def PlainName (name : String) : Prop :=
  name ≠ "" ∧ ∀ c ∈ name.toList,
    'A' ≤ c ∧ c ≤ 'Z' ∨ 'a' ≤ c ∧ c ≤ 'z' ∨ '0' ≤ c ∧ c ≤ '9' ∨ c = '_'

/-- Three of the known units, one of each dimension. -/
structure UnitSystem.Known (units : UnitSystem) : Prop where
  length : units.length ∈ PhysicalUnit.known ∧ units.length.dimension = .length
  mass : units.mass ∈ PhysicalUnit.known ∧ units.mass.dimension = .mass
  time : units.time ∈ PhysicalUnit.known ∧ units.time.dimension = .time

theorem isName_iff {name : String} : Argument.isName name = true ↔ PlainName name := by
  have letter (c : Char) : Argument.isNameChar c = true ↔
      'A' ≤ c ∧ c ≤ 'Z' ∨ 'a' ≤ c ∧ c ≤ 'z' ∨ '0' ≤ c ∧ c ≤ '9' ∨ c = '_' := by
    simp [Argument.isNameChar, Char.isAlphanum, Char.isAlpha, Char.isUpper, Char.isLower,
      Char.isDigit, Char.le_def, or_assoc]
  simp [Argument.isName, PlainName, letter]

theorem Value.ofStrings_injective : Function.Injective Value.ofStrings := by
  intro strings others same
  have texts : strings.map Value.text = others.map Value.text := Value.vector.inj same
  exact List.map_injective_iff.mpr (fun _ _ => Value.text.inj) texts

theorem StatementFault.lift_eq_ok {α : Type} {x : Except StatementFault α} {a : α} :
    (liftM x : Except DirectiveFault α) = .ok a ↔ x = .ok a := by
  cases x <;> simp [liftM, monadLift, MonadLift.monadLift]

namespace Argument

theorem text_eq_ok {v : Value} {s : String} : text v = .ok s ↔ v = .text s := by
  cases v <;> simp [text]

theorem number_eq_ok {v : Value} {x : Float} : number v = .ok x ↔ v = .number x := by
  cases v <;> simp [number]

theorem vector_eq_ok {α : Type} {item : Value → Except StatementFault α} {restate : α → Value}
    (h : ∀ v a, item v = .ok a ↔ v = restate a) {v : Value} {results : List α} :
    vector item v = .ok results ↔ v = .vector (results.map restate) := by
  cases v with
  | vector items => simp [vector, mapM_eq_ok h]
  | _ => simp [vector]

theorem texts_eq_ok {v : Value} {strings : List String} :
    vector text v = .ok strings ↔ v = .ofStrings strings :=
  vector_eq_ok fun _ _ => text_eq_ok

theorem point_eq_ok {v : Value} {p : Point} :
    point v = .ok p ↔ v = .vector [.number p.x, .number p.y, .number p.z] := by
  rw [point, bind_eq_ok]
  constructor
  · intro given
    rcases given with ⟨coordinates, items, h⟩
    rw [vector_eq_ok fun _ _ => number_eq_ok] at items
    split at h
    · simp only [Except.ok.injEq] at h
      simp [items, ← h]
    · simp at h
  · rintro rfl
    exact ⟨[p.x, p.y, p.z], (vector_eq_ok fun _ _ => number_eq_ok).mpr rfl, rfl⟩

theorem name_eq_ok {v : Value} {s : String} : name v = .ok s ↔ v = .text s ∧ PlainName s := by
  rw [name, bind_eq_ok]
  constructor
  · intro given
    rcases given with ⟨t, item, h⟩
    split_ifs at h with plain
    simp only [Except.ok.injEq] at h
    subst h
    exact ⟨text_eq_ok.mp item, isName_iff.mp plain⟩
  · intro given
    rcases given with ⟨item, plain⟩
    exact ⟨s, text_eq_ok.mpr item, if_pos (isName_iff.mpr plain)⟩

theorem newName_eq_ok {study : Study} {kind : ObjectKind} {v : Value} {s : String} :
    newName study kind v = .ok s ↔ v = .text s ∧ PlainName s ∧ study.kindOf s = none := by
  rw [newName, bind_eq_ok]
  constructor
  · intro given
    rcases given with ⟨t, plain, h⟩
    rw [StatementFault.lift_eq_ok, name_eq_ok] at plain
    split at h
    · simp at h
    · rename_i free
      simp only [Except.ok.injEq] at h
      subst h
      exact ⟨plain.1, plain.2, free⟩
  · intro given
    rcases given with ⟨item, plain, free⟩
    refine ⟨s, ?_, ?_⟩
    · rw [StatementFault.lift_eq_ok, name_eq_ok]
      exact ⟨item, plain⟩
    · simp [free]

end Argument

namespace PhysicalUnit

theorem known_name_injective {a b : PhysicalUnit} (ha : a ∈ known) (hb : b ∈ known)
    (h : a.name = b.name) : a = b := by
  have distinct : (known.map name).Nodup := by decide
  exact List.inj_on_of_nodup_map distinct ha hb h

theorem ofDimension_eq_ok {dimension : Dimension} {name : String} {unit : PhysicalUnit} :
    ofDimension dimension name = .ok unit ↔
      (unit ∈ known ∧ unit.dimension = dimension) ∧ unit.name = name := by
  rw [ofDimension, bind_eq_ok]
  constructor
  · intro given
    rcases given with ⟨found, h, same⟩
    rw [named] at h
    split at h
    · rename_i first
      split_ifs at same with right
      simp only [Except.ok.injEq] at h same
      subst h same
      have listed := List.mem_of_find?_eq_some first
      have called := List.find?_some first
      exact ⟨⟨listed, right⟩, by simpa using called⟩
    · simp at h
  · intro given
    rcases given with ⟨⟨listed, rfl⟩, rfl⟩
    refine ⟨unit, ?_, if_pos rfl⟩
    rw [named]
    cases first : known.find? (·.name = unit.name) with
    | none => exact absurd (List.find?_eq_none.mp first unit listed) (by simp)
    | some found =>
      have called := List.find?_some first
      have same : found = unit :=
        known_name_injective (List.mem_of_find?_eq_some first) listed (by simpa using called)
      simp [same]

end PhysicalUnit

theorem UnitSystem.named_eq_ok {length mass time : String} {units : UnitSystem} :
    named length mass time = .ok units ↔
      units.Known ∧ units.length.name = length ∧ units.mass.name = mass ∧
        units.time.name = time := by
  simp only [named, bind_eq_ok, PhysicalUnit.ofDimension_eq_ok, pure, Except.pure,
    Except.ok.injEq]
  constructor
  · intro given
    rcases given with ⟨l, ⟨hl, rfl⟩, m, ⟨hm, rfl⟩, t, ⟨ht, rfl⟩, rfl⟩
    exact ⟨⟨hl, hm, ht⟩, rfl, rfl, rfl⟩
  · intro given
    rcases given with ⟨⟨hl, hm, ht⟩, rfl, rfl, rfl⟩
    exact ⟨units.length, ⟨hl, rfl⟩, units.mass, ⟨hm, rfl⟩, units.time, ⟨ht, rfl⟩, rfl⟩

end SolidStudy
