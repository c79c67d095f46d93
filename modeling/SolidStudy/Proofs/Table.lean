import Mathlib
import SolidStudy.Table

/-! Tables seen through their look-ups. Looking a name up finds exactly the entry of that name, and
the operations on a table are known by what they do to look-ups. -/
namespace SolidStudy.Table

variable {α β γ : Type} (t : Table α)

theorem names_nodup : t.names.Nodup := by
  rw [names, List.Nodup, List.pairwise_map]
  refine t.ordered.imp fun {a b} below => ?_
  intro same
  exact String.lt_irrefl b.1 (same ▸ below)

theorem lookup_eq_some_iff {entries : List (String × α)} (h : (entries.map (·.1)).Nodup)
    {name : String} {a : α} : entries.lookup name = some a ↔ (name, a) ∈ entries := by
  induction entries with
  | nil => simp
  | cons entry rest ih =>
    obtain ⟨n, b⟩ := entry
    obtain ⟨absent, distinct⟩ := List.nodup_cons.mp h
    rw [List.lookup_cons, List.mem_cons, Prod.mk.injEq]
    by_cases same : name = n
    · subst same
      have elsewhere : (name, a) ∉ rest := fun listed =>
        absent (List.mem_map.mpr ⟨_, listed, rfl⟩)
      simp [elsewhere, eq_comm]
    · simp [beq_false_of_ne same, same, ih distinct]

theorem get?_eq_some_iff {name : String} {a : α} :
    t.get? name = some a ↔ (name, a) ∈ t.entries :=
  lookup_eq_some_iff t.names_nodup

theorem contains_iff {name : String} : t.contains name = true ↔ ∃ a, t.get? name = some a :=
  Option.isSome_iff_exists

theorem not_contains_iff {name : String} : t.contains name = false ↔ t.get? name = none := by
  rw [contains, Option.isSome_eq_false_iff, Option.isNone_iff_eq_none]

theorem mem_names_iff {name : String} : name ∈ t.names ↔ t.contains name = true := by
  simp [names, contains_iff, get?_eq_some_iff]

theorem contains_insert {name other : String} {a : α} :
    (t.insert name a).contains other = true ↔ name = other ∨ t.contains other = true := by
  rw [contains, get?_insert]
  by_cases same : other = name
  · simp [same]
  · simp [same, contains, Ne.symm same]

theorem get?_insert_fresh {name other : String} {a b : α} (fresh : t.get? name = none) :
    (t.insert name a).get? other = some b ↔
      t.get? other = some b ∨ other = name ∧ b = a := by
  rw [get?_insert]
  by_cases same : other = name
  · simp [same, fresh, eq_comm]
  · simp [same]

theorem get?_mapWithName (f : String → α → β) (name : String) :
    (t.mapWithName f).get? name = (t.get? name).map (f name) := by
  obtain ⟨entries, ordered⟩ := t
  simp only [mapWithName, get?]
  clear ordered
  induction entries with
  | nil => rfl
  | cons entry rest ih =>
    obtain ⟨n, b⟩ := entry
    rw [List.map_cons, List.lookup_cons, List.lookup_cons, ih]
    by_cases same : name = n
    · simp [same]
    · simp [beq_false_of_ne same]

theorem get?_modify (name other : String) (f : α → α) :
    (t.modify name f).get? other = (t.get? other).map fun a => if other = name then f a else a :=
  get?_mapWithName ..

theorem contains_modify (name other : String) (f : α → α) :
    (t.modify name f).contains other = t.contains other := by
  simp [contains, get?_modify]

theorem ext_get? {t t' : Table α} (same : ∀ name, t.get? name = t'.get? name) : t = t' := by
  have entries : t.entries = t'.entries := by
    have distinct (t : Table α) : t.entries.Nodup := .of_map _ t.names_nodup
    have perm : t.entries.Perm t'.entries := by
      refine (List.perm_ext_iff_of_nodup (distinct t) (distinct t')).mpr ?_
      rintro ⟨name, a⟩
      rw [← get?_eq_some_iff, ← get?_eq_some_iff, same]
    refine perm.eq_of_pairwise ?_ t.ordered t'.ordered
    intro a b _ _ below above
    exact absurd above (String.lt_asymm below)
  obtain ⟨_, _⟩ := t
  obtain ⟨_, _⟩ := t'
  congr

theorem get?_foldl_insert {entries : List (String × α)} (distinct : (entries.map (·.1)).Nodup)
    (t : Table α) (name : String) :
    (entries.foldl (fun t entry => t.insert entry.1 entry.2) t).get? name =
      (entries.lookup name).or (t.get? name) := by
  induction entries generalizing t with
  | nil => rfl
  | cons entry rest ih =>
    obtain ⟨fresh, distinct⟩ := List.nodup_cons.mp distinct
    rw [List.foldl_cons, ih distinct, get?_insert, List.lookup_cons]
    by_cases same : name = entry.1
    · subst same
      have absent : rest.lookup entry.1 = none := by
        refine Option.eq_none_iff_forall_ne_some.mpr fun a found => fresh ?_
        exact List.mem_map.mpr ⟨_, (lookup_eq_some_iff distinct).mp found, rfl⟩
      simp [absent]
    · simp [same, beq_false_of_ne same]

theorem ofList_entries : ofList t.entries = t :=
  ext_get? fun name => (get?_foldl_insert t.names_nodup empty name).trans (Option.or_none ..)

theorem insert_comm {name other : String} (different : name ≠ other) (a b : α) :
    (t.insert name a).insert other b = (t.insert other b).insert name a := by
  refine ext_get? fun n => ?_
  simp only [get?_insert]
  by_cases first : n = name
  · simp [first, different]
  · simp [first]

theorem mapWithName_mapWithName (f : String → α → β) (g : String → β → γ) :
    (t.mapWithName f).mapWithName g = t.mapWithName fun name a => g name (f name a) := by
  simp [mapWithName]

theorem mapWithName_congr {f g : String → α → β} (same : ∀ name ∈ t.names, f name = g name) :
    t.mapWithName f = t.mapWithName g := by
  simp only [mapWithName, mk.injEq]
  refine List.map_congr_left fun entry listed => ?_
  rw [same entry.1 (List.mem_map_of_mem listed)]

theorem mapWithName_self : t.mapWithName (fun _ a => a) = t := by
  simp [mapWithName]

/-- What is mapped away need not be changed first. -/
theorem mapWithName_modify {name : String} {change : α → α} {f : String → α → β}
    (same : ∀ n a, f n (change a) = f n a) :
    (t.modify name change).mapWithName f = t.mapWithName f := by
  rw [modify, mapWithName_mapWithName]
  congr 1
  funext n a
  by_cases named : n = name <;> simp [named, same]

/-- An entry that is changed first may be changed again with the others. -/
theorem mapWithName_modify_self (change : String → α → α) (chosen : String → Prop)
    [DecidablePred chosen] (settled : ∀ name a, change name (change name a) = change name a)
    (first : String) :
    (t.modify first (change first)).mapWithName
        (fun name a => if chosen name then change name a else a) =
      t.mapWithName fun name a => if name = first ∨ chosen name then change name a else a := by
  rw [modify, mapWithName_mapWithName]
  congr 1
  funext name a
  by_cases same : name = first <;> by_cases later : chosen name <;> simp_all

end SolidStudy.Table
