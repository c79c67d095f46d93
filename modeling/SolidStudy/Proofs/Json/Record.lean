import Mathlib
import SolidStudy.Json.Record
import SolidStudy.Proofs.Json.Grammar

/-! Lists and records in any spelling. The members of a record stand in any order, among others that
are passed over, and what is read of them is put into the record one after another. -/
namespace SolidStudy.Json

open Value (Gaps)

/-- A member of an object: its name, the text in front of its value, and the text of its value. -/
structure Member where
  name : String
  label : List Char
  value : List Char
  labelled : LabelText (QuotedText · name) label

def Member.text (m : Member) : List Char := m.label ++ m.value

variable {α : Type} {r s t left before after : List Char} {bound : Nat} {first : Bool}
  {pieces : List (List Char)} {close : Char} {name : String} {seen : List String}
  {members : List Member}

section

variable {read : List Char → Except Fault (α × List Char)} {spelled : List Char → α → Prop}
  {items : List α}

theorem nextItem?_first (opened : Gaps before) (begun : Begun t) :
    nextItem? true (before ++ t) = .ok (some t) := by
  have place := skipGaps_begun opened begun
  obtain ⟨c, tail, rfl, other⟩ := begun
  unfold nextItem?
  rw [place]
  split <;> simp_all [delimiters]

theorem nextItem?_further (ended : Gaps after) (opened : Gaps before) (begun : Begun t) :
    nextItem? false (after ++ ',' :: (before ++ t)) = .ok (some t) := by
  have comma := skipGaps_mark ',' ended (by decide) (before ++ t)
  have place := skipGaps_begun opened begun
  obtain ⟨c, tail, rfl, other⟩ := begun
  unfold nextItem?
  simp only [comma, place]
  split <;> simp_all [delimiters]

theorem nextItem?_closed (first : Bool) (ended : Gaps after) (r : List Char) :
    nextItem? first (after ++ ']' :: r) = .ok none := by
  simp only [nextItem?, skipGaps_mark ']' ended (by decide)]

theorem endList_closed (ended : Gaps after) (r : List Char) :
    endList (after ++ ']' :: r) = .ok r := by
  simp only [endList, skipGaps_mark ']' ended (by decide)]

theorem readItems_none (h : nextItem? first s = .ok none) :
    readItems read (bound + 1) first s = .ok ([], s) := by
  simp only [readItems, h, bind, Except.bind, pure, Except.pure]

theorem readItems_some {item : α} (h : nextItem? first s = .ok (some t))
    (found : read t = .ok (item, left)) (later : readItems read bound false left = .ok (items, r)) :
    readItems read (bound + 1) first s = .ok (item :: items, r) := by
  simp only [readItems, h, found, later, bind, Except.bind, pure, Except.pure]

variable (begun : ∀ s a, spelled s a → Begun s)

include begun in
theorem begun_of_spelled (each : List.Forall₂ spelled pieces items) :
    ∀ piece ∈ pieces, Begun piece := by
  induction each with
  | nil => simp
  | cons first _ ih => exact List.forall_mem_cons.mpr ⟨begun _ _ first, ih⟩

variable (reads : ∀ s a, spelled s a → ∀ r, read (s ++ r) = .ok (a, r))
include begun reads

theorem readItems_append (joined : Joined ']' pieces t)
    (each : List.Forall₂ spelled pieces items) (next : nextItem? first s = .ok (some (t ++ r)))
    (enough : pieces.length < bound) :
    ∃ left, readItems read bound first s = .ok (items, left) ∧ endList left = .ok r := by
  induction joined generalizing bound first s items with
  | @last piece after ended =>
    obtain ⟨item, _, found, none, rfl⟩ := List.forall₂_cons_left_iff.mp each
    obtain rfl := List.forall₂_nil_left_iff.mp none
    obtain ⟨bound, rfl⟩ := Nat.exists_eq_add_of_lt enough
    rw [List.length_singleton, Nat.add_comm 1]
    rw [List.append_assoc, List.append_assoc] at next
    exact ⟨after ++ ']' :: r, readItems_some next (reads piece item found _)
      (readItems_none (nextItem?_closed false ended r)), endList_closed ended r⟩
  | @more piece after before t pieces ended blank further ih =>
    obtain ⟨item, items, found, others, rfl⟩ := List.forall₂_cons_left_iff.mp each
    obtain ⟨bound, rfl⟩ := Nat.exists_eq_add_of_lt enough
    have starts := further.begun (begun_of_spelled begun others)
    have place := nextItem?_further ended blank (starts.append r)
    have size : pieces.length < (piece :: pieces).length + bound := by
      simp only [List.length_cons]
      omega
    obtain ⟨left, later, ended⟩ := ih others place size
    refine ⟨left, readItems_some ?_ (reads piece item found _) later, ended⟩
    simpa using next

theorem readList_append (listed : Listed ']' pieces s)
    (each : List.Forall₂ spelled pieces items) (r : List Char) :
    readList read ('[' :: (s ++ r)) = .ok (items, r) := by
  have found : ∃ left, readItems read ((s ++ r).length + 1) true (s ++ r) = .ok (items, left) ∧
      endList left = .ok r := by
    cases listed with
    | @none gaps blank =>
      obtain rfl := List.forall₂_nil_left_iff.mp each
      rw [List.append_assoc, List.singleton_append]
      exact ⟨_, readItems_none (nextItem?_closed true blank r), endList_closed blank r⟩
    | @some before t _ opened joined =>
      have count := joined.length_le
      have starts := joined.begun (begun_of_spelled begun each)
      rw [List.append_assoc]
      exact readItems_append begun reads joined each
        (nextItem?_first opened (starts.append r)) (by simp only [List.length_append]; omega)
  obtain ⟨left, read, ended⟩ := found
  simp only [readList, read, ended, bind, Except.bind, pure, Except.pure]

end

variable {fields : List (Field α)} {records : List String → α}

/-- Reading a member leads from the record with the fields seen so far to the next one. -/
inductive Member.Read (fields : List (Field α)) (records : List String → α) (m : Member) : Prop
  | field {field : Field α} (begun : Begun m.value)
      (found : fields.find? (·.name = m.name) = some field)
      (reads : ∀ seen r, Ended r →
        field.read (records seen) (m.value ++ r) = .ok (records (m.name :: seen), r))
  | other (unknown : fields.find? (·.name = m.name) = none) (h : ValueText m.value)

theorem Member.Read.begun {m : Member} (h : m.Read fields records) : Begun m.value := by
  cases h with
  | field begun => exact begun
  | other _ h => exact h.begun

/-- The label of a member is its name, which is read from its opening quote on, and the colon. -/
theorem Member.label_cases (m : Member) :
    ∃ s, m.label = '"' :: s ∧ ∀ t, Begun t →
      ∃ left, readText (s ++ t) = .ok (m.name, left) ∧ readColon left = .ok t := by
  obtain ⟨name, label, value, labelled⟩ := m
  cases labelled with
  | @colon quoted after before spelled ended blank =>
    cases spelled with
    | @spelled pieces _ spelled =>
      refine ⟨pieces.flatten ++ '"' :: (after ++ ':' :: before), by simp, fun t begun =>
        ⟨after ++ ':' :: (before ++ t), ?_, ?_⟩⟩
      · simpa using readText_append spelled (after ++ ':' :: (before ++ t))
      · simp only [readColon, skipGaps_mark ':' ended (by decide), skipGaps_begun blank begun]

theorem find?_eq_none_iff_name :
    fields.find? (·.name = name) = none ↔ name ∉ fields.map Field.name := by
  simp [List.find?_eq_none]

/-- The known names that are seen once a name is read. -/
def seenWith (fields : List (Field α)) (name : String) (seen : List String) : List String :=
  if name ∈ fields.map Field.name then name :: seen else seen

theorem count_seenWith (known : name ∈ fields.map Field.name) (other : String)
    (seen : List String) :
    (seenWith fields other seen).count name = (other :: seen).count name := by
  unfold seenWith
  split_ifs with given
  · rfl
  · have different : other ≠ name := by
      rintro rfl
      exact given known
    exact (List.count_cons_of_ne different).symm

theorem mem_seenWith (known : name ∈ fields.map Field.name) {other : String} :
    name ∈ seenWith fields other seen ↔ name ∈ other :: seen := by
  rw [← List.count_pos_iff, count_seenWith known, List.count_pos_iff]

/-- No known name is given twice, among those seen and those to come. -/
def Once (fields : List (Field α)) (seen names : List String) : Prop :=
  ∀ name ∈ fields.map Field.name, seen.count name + names.count name ≤ 1

theorem Once.fresh {names : List String} (h : Once fields seen (name :: names))
    (known : name ∈ fields.map Field.name) : name ∉ seen := by
  have most := h name known
  rw [List.count_cons_self] at most
  exact List.count_eq_zero.mp (by omega)

theorem Once.tail {names : List String} (h : Once fields seen (name :: names)) :
    Once fields (seenWith fields name seen) names := by
  intro other known
  have most := h other known
  rw [count_seenWith known]
  simp only [List.count_cons] at most ⊢
  omega

/-- A known member takes the record to the next one, any other leaves it as it is. -/
theorem readField_append {m : Member} (read : m.Read fields records) (quoted : m.label = '"' :: s)
    (fresh : m.name ∈ fields.map Field.name → m.name ∉ seen) (ended : Ended r) :
    readField fields seen (records seen) (s ++ (m.value ++ r)) =
      .ok ((seenWith fields m.name seen, records (seenWith fields m.name seen)), r) := by
  obtain ⟨s', quoted', named⟩ := m.label_cases
  obtain rfl : s' = s := (List.cons.inj (quoted'.symm.trans quoted)).2
  obtain ⟨left, named, colon⟩ := named _ (read.begun.append r)
  cases read with
  | @field field begun found reads =>
    have known : m.name ∈ fields.map Field.name := by
      by_contra other
      rw [find?_eq_none_iff_name.mpr other] at found
      cases found
    rw [seenWith, if_pos known]
    simp only [readField, named, found, if_neg (fresh known), colon, reads seen r ended, bind,
      Except.bind, pure, Except.pure]
  | other unknown value =>
    rw [seenWith, if_neg (find?_eq_none_iff_name.mp unknown)]
    simp only [readField, named, unknown, colon, skipValue_append value ended, bind, Except.bind,
      pure, Except.pure]

theorem Joined.exists_quote (joined : Joined close (members.map Member.text) t) :
    ∃ tail, t = '"' :: tail := by
  cases members with
  | nil => cases joined
  | cons m members =>
    obtain ⟨s, quoted, -⟩ := m.label_cases
    generalize texts : (m :: members).map Member.text = pieces at joined
    cases joined <;>
    · obtain ⟨rfl, -⟩ := List.cons.inj texts
      rw [Member.text, quoted]
      exact ⟨_, rfl⟩

/-- Behind the value of a member the object ends, or there is the quote of a further member. -/
theorem Joined.member_cases {m : Member}
    (joined : Joined close ((m :: members).map Member.text) ('"' :: t))
    (quoted : m.label = '"' :: s) :
    ∃ after, Gaps after ∧
      (members = [] ∧ t = s ++ (m.value ++ (after ++ [close])) ∨
        ∃ before t', Gaps before ∧ Joined close (members.map Member.text) ('"' :: t') ∧
          t = s ++ (m.value ++ (after ++ ',' :: (before ++ '"' :: t')))) := by
  generalize texts : (m :: members).map Member.text = pieces at joined
  generalize whole : '"' :: t = text at joined
  cases joined with
  | @last piece after ended =>
    obtain ⟨rfl, none⟩ := List.cons.inj texts
    refine ⟨after, ended, .inl ⟨List.map_eq_nil_iff.mp none, ?_⟩⟩
    simpa [Member.text, quoted] using whole
  | @more piece after before further pieces ended blank joined =>
    obtain ⟨rfl, rfl⟩ := List.cons.inj texts
    obtain ⟨t', rfl⟩ := joined.exists_quote
    refine ⟨after, ended, .inr ⟨before, t', blank, joined, ?_⟩⟩
    simpa [Member.text, quoted] using whole

theorem readFields_last {record record' : α} {seen' : List String} (bound : Nat)
    (step : readField fields seen record s = .ok ((seen', record'), left))
    (closing : Text.skipGaps left = '\x7d' :: r) :
    readFields fields (bound + 1) seen record s = .ok (record', r) := by
  simp only [readFields, step, closing, bind, Except.bind, pure, Except.pure]

theorem readFields_more {record record' : α} {seen' : List String} (bound : Nat)
    (step : readField fields seen record s = .ok ((seen', record'), left))
    (comma : Text.skipGaps left = ',' :: r) (next : Text.skipGaps r = '"' :: t) :
    readFields fields (bound + 1) seen record s = readFields fields bound seen' record' t := by
  simp only [readFields, step, comma, next, bind, Except.bind]

/-- Members that are read one after another, up to the end of the object. -/
theorem readFields_append (joined : Joined '\x7d' (members.map Member.text) ('"' :: t))
    (read : ∀ m ∈ members, m.Read fields records)
    (once : Once fields seen (members.map Member.name)) (enough : members.length ≤ bound)
    (r : List Char) :
    ∃ seen', readFields fields bound seen (records seen) (t ++ r) = .ok (records seen', r) ∧
      ∀ name ∈ fields.map Field.name,
        name ∈ seen' ↔ name ∈ seen ∨ name ∈ members.map Member.name := by
  -- What is carried along is that the record is the one of the names seen.
  induction members generalizing bound seen t with
  | nil => cases joined
  | cons m members ih =>
    obtain ⟨bound, rfl⟩ := Nat.exists_eq_add_of_le' enough
    obtain ⟨first, others⟩ := List.forall_mem_cons.mp read
    obtain ⟨s, quoted, -⟩ := m.label_cases
    obtain ⟨after, ended, ⟨rfl, rfl⟩ | ⟨before, t', blank, further, rfl⟩⟩ :=
      joined.member_cases quoted
    · have step := readField_append first quoted once.fresh
        (ended_mark '\x7d' ended (by decide) r)
      have closing := skipGaps_mark '\x7d' ended (by decide) r
      refine ⟨seenWith fields m.name seen, ?_, fun name known => ?_⟩
      · simpa using readFields_last bound step closing
      · simp [mem_seenWith known, or_comm]
    · have step := readField_append first quoted once.fresh
        (ended_mark ',' ended (by decide) (before ++ '"' :: (t' ++ r)))
      have comma := skipGaps_mark ',' ended (by decide) (before ++ '"' :: (t' ++ r))
      have next := skipGaps_mark '"' blank (by decide) (t' ++ r)
      have enough : members.length ≤ bound + members.length := Nat.le_add_left _ _
      obtain ⟨seen', later, exactly⟩ := ih further others once.tail enough
      refine ⟨seen', ?_, fun name known => ?_⟩
      · rw [← later, ← readFields_more _ step comma next]
        simp [Nat.add_assoc]
      · rw [exactly name known, mem_seenWith known]
        simp [or_assoc, or_left_comm]

/-- An object is read to its closing brace, and the known names among its members are those seen. -/
theorem readRecord_append (listed : Listed '\x7d' (members.map Member.text) s)
    (read : ∀ m ∈ members, m.Read fields records)
    (once : ∀ name ∈ fields.map Field.name, (members.map Member.name).count name ≤ 1)
    (wanted : String) (r : List Char) :
    ∃ seen, readRecord fields wanted (records []) ('\x7b' :: (s ++ r)) = .ok (records seen, r) ∧
      ∀ name ∈ fields.map Field.name, name ∈ seen ↔ name ∈ members.map Member.name := by
  generalize texts : members.map Member.text = pieces at listed
  cases listed with
  | @none gaps blank =>
    obtain rfl := List.map_eq_nil_iff.mp texts
    refine ⟨[], ?_, by simp⟩
    rw [List.append_assoc, List.singleton_append]
    simp only [readRecord, skipGaps_mark '\x7d' blank (by decide)]
  | @some before t _ opened joined =>
    subst texts
    obtain ⟨t, rfl⟩ := joined.exists_quote
    have first := skipGaps_mark '"' opened (by decide) (t ++ r)
    have count := joined.length_le
    have enough : members.length ≤ (t ++ r).length + 1 := by
      rw [List.length_map, List.length_cons] at count
      rw [List.length_append]
      omega
    have once' : Once fields [] (members.map Member.name) := by simpa [Once] using once
    obtain ⟨seen, found, exactly⟩ := readFields_append joined read once' enough r
    refine ⟨seen, ?_, by simpa using exactly⟩
    rw [List.append_assoc, List.cons_append]
    simpa only [readRecord, first] using found

theorem gaps_nil : Gaps [] := by simp [Gaps]

theorem Joined.closing (close : Char) (piece : List Char) :
    Joined close [piece] (piece ++ [close]) :=
  .last gaps_nil

theorem Joined.comma (joined : Joined close pieces t) (piece : List Char) :
    Joined close (piece :: pieces) (piece ++ ',' :: t) :=
  .more gaps_nil gaps_nil joined

/-- The member that is written for a field. -/
def Member.compact (depth : Nat) (field : String × Document) : Member :=
  ⟨field.1, writeText field.1 ++ [':'], field.2.write .compact depth,
    .colon (quotedText_writeText field.1) gaps_nil gaps_nil⟩

theorem joined_writeItems (depth : Nat) (item : Document) (items : List Document) :
    Joined ']' ((item :: items).map (Document.write .compact depth))
      (item.write .compact depth ++ (Document.writeItems .compact depth items ++ [']'])) := by
  induction items generalizing item with
  | nil => exact .closing ']' _
  | cons next items ih =>
    simpa [Document.writeItems, Layout.compact] using (ih next).comma (item.write .compact depth)

theorem joined_writeFields (depth : Nat) (field : String × Document)
    (fields : List (String × Document)) :
    Joined '\x7d' ((field :: fields).map fun f => (Member.compact depth f).text)
      ((Member.compact depth field).text ++
        (Document.writeFields .compact depth fields ++ ['\x7d'])) := by
  induction fields generalizing field with
  | nil => exact .closing '\x7d' _
  | cons next fields ih =>
    simpa [Document.writeFields, Layout.compact, Member.text, Member.compact] using
      (ih next).comma (Member.compact depth field).text

theorem write_list_compact (depth : Nat) (items : List Document) :
    ∃ s, (Document.list items).write .compact depth = '[' :: s ∧
      Listed ']' (items.map (Document.write .compact (depth + 1))) s := by
  cases items with
  | nil => exact ⟨_, rfl, .none gaps_nil⟩
  | cons item items =>
    refine ⟨_, ?_, .some gaps_nil (joined_writeItems (depth + 1) item items)⟩
    simp [Document.write, Layout.compact]

theorem write_object_compact (depth : Nat) (fields : List (String × Document)) :
    ∃ s, (Document.object fields).write .compact depth = '\x7b' :: s ∧
      Listed '\x7d' ((fields.map (Member.compact (depth + 1))).map Member.text) s := by
  rw [List.map_map]
  cases fields with
  | nil => exact ⟨_, rfl, .none gaps_nil⟩
  | cons field fields =>
    refine ⟨_, ?_, .some gaps_nil (joined_writeFields (depth + 1) field fields)⟩
    simp [Document.write, Layout.compact, Member.text, Member.compact]

end SolidStudy.Json
