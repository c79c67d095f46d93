/-! Tables from names to data. The entries are kept in the order of their names, each name once,
so two tables with the same entries are the same table. -/
namespace SolidStudy

structure Table (α : Type) where
  entries : List (String × α)
  ordered : entries.Pairwise fun a b => a.1 < b.1
  deriving DecidableEq

namespace Table

variable {α β : Type}

instance [Repr α] : Repr (Table α) := ⟨fun t => reprPrec t.entries⟩

def empty : Table α := ⟨[], .nil⟩

instance : Inhabited (Table α) := ⟨empty⟩

def get? (t : Table α) (name : String) : Option α := t.entries.lookup name

def contains (t : Table α) (name : String) : Bool := (t.get? name).isSome

def names (t : Table α) : List String := t.entries.map (·.1)

def size (t : Table α) : Nat := t.entries.length

def insertEntry (name : String) (a : α) : List (String × α) → List (String × α)
  | [] => [(name, a)]
  | (n, b) :: rest =>
    if name < n then (name, a) :: (n, b) :: rest
    else if n < name then (n, b) :: insertEntry name a rest
    else (name, a) :: rest

theorem mem_insertEntry {name : String} {a : α} {e : String × α} {entries : List (String × α)}
    (h : e ∈ insertEntry name a entries) : e = (name, a) ∨ e ∈ entries := by
  induction entries with
  | nil => simpa [insertEntry] using h
  | cons head rest ih =>
    simp only [insertEntry] at h
    split at h
    · simpa using h
    · split at h
      · rcases List.mem_cons.mp h with h | h
        · simp [h]
        · rcases ih h with h | h <;> simp [h]
      · rcases List.mem_cons.mp h with h | h <;> simp [h]

theorem insertEntry_ordered {name : String} {a : α} {entries : List (String × α)}
    (h : entries.Pairwise fun a b => a.1 < b.1) :
    (insertEntry name a entries).Pairwise fun a b => a.1 < b.1 := by
  induction entries with
  | nil => simp [insertEntry]
  | cons head rest ih =>
    obtain ⟨first, tail⟩ := List.pairwise_cons.mp h
    simp only [insertEntry]
    split
    · rename_i below
      refine List.pairwise_cons.mpr ⟨fun e he => ?_, h⟩
      rcases List.mem_cons.mp he with rfl | he
      · exact below
      · exact String.lt_trans below (first e he)
    · split
      · rename_i above
        refine List.pairwise_cons.mpr ⟨fun e he => ?_, ih tail⟩
        rcases mem_insertEntry he with rfl | he
        · exact above
        · exact first e he
      · rename_i notBelow notAbove
        have same : head.1 = name :=
          String.le_antisymm (String.not_lt.mp notBelow) (String.not_lt.mp notAbove)
        exact List.pairwise_cons.mpr ⟨fun e he => same ▸ first e he, tail⟩

/-- An entry of the same name is replaced. -/
def insert (t : Table α) (name : String) (a : α) : Table α :=
  ⟨insertEntry name a t.entries, insertEntry_ordered t.ordered⟩

theorem lookup_insertEntry (name other : String) (a : α) (entries : List (String × α))
    (h : entries.Pairwise fun a b => a.1 < b.1) :
    (insertEntry name a entries).lookup other =
      if other = name then some a else entries.lookup other := by
  induction entries with
  | nil =>
    by_cases same : other = name
    · simp [insertEntry, same]
    · simp [insertEntry, List.lookup_cons, same, beq_false_of_ne same]
  | cons head rest ih =>
    obtain ⟨first, tail⟩ := List.pairwise_cons.mp h
    obtain ⟨n, b⟩ := head
    simp only [insertEntry]
    split
    · by_cases same : other = name
      · simp [same]
      · simp [List.lookup_cons, same, beq_false_of_ne same]
    · split
      · rename_i above
        by_cases same : other = n
        · have distinct : n ≠ name := fun e => String.lt_irrefl n (e ▸ above)
          simp [same, distinct]
        · simp [List.lookup_cons, beq_false_of_ne same, ih tail]
      · rename_i notBelow notAbove
        have equal : n = name :=
          String.le_antisymm (String.not_lt.mp notBelow) (String.not_lt.mp notAbove)
        subst equal
        by_cases same : other = n
        · simp [same]
        · simp [List.lookup_cons, same, beq_false_of_ne same]

@[simp] theorem get?_empty (name : String) : (empty : Table α).get? name = none := rfl

theorem get?_insert (t : Table α) (name other : String) (a : α) :
    (t.insert name a).get? other = if other = name then some a else t.get? other :=
  lookup_insertEntry name other a t.entries t.ordered

def ofList (entries : List (String × α)) : Table α :=
  entries.foldl (fun t (name, a) => t.insert name a) empty

/-- The same names with other data. -/
def mapWithName (t : Table α) (f : String → α → β) : Table β :=
  ⟨t.entries.map fun (name, a) => (name, f name a), by
    simpa [List.pairwise_map] using t.ordered⟩

/-- The datum of one name is changed; a table without that name stays as it is. -/
def modify (t : Table α) (name : String) (f : α → α) : Table α :=
  t.mapWithName fun n a => if n = name then f a else a

end Table

end SolidStudy
