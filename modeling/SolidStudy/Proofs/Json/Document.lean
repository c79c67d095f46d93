import Mathlib
import SolidStudy.Proofs.Json.Text
import SolidStudy.Proofs.Number.Form
import SolidStudy.Proofs.Text.Pieces

/-! What the text of a JSON document keeps of it: everything but which double it was that is not
finite. Two documents have the same text exactly if what is kept of them is the same. -/
namespace SolidStudy

namespace Number

theorem isNaN_of_finite {x : Float} (finite : rankOf x < infinityRank) : x.isNaN = false := by
  rw [← Bool.not_eq_true]
  intro nan
  rw [eq_notANumber nan] at finite
  exact absurd finite (by decide)

theorem point_mem_positional (d : Decimal) : '.' ∈ d.positional true := by
  obtain ⟨digits, exponent⟩ := d
  cases exponent with
  | ofNat e => simp [Decimal.positional]
  | negSucc e =>
    simp only [Decimal.positional]
    split_ifs <;> simp

theorem mark_mem_scientific (d : Decimal) : 'e' ∈ d.scientific := by
  simp [Decimal.scientific]

end Number

namespace Json

open Number

variable {x y : Float}

theorem writeReal_of_finite (finite : rankOf x < infinityRank) :
    writeReal x = numberForm.write x :=
  if_pos finite

theorem writeReal_of_not_finite (h : ¬ rankOf x < infinityRank) :
    writeReal x = ['n', 'u', 'l', 'l'] :=
  if_neg h

theorem numeralText_writeReal (finite : rankOf x < infinityRank) :
    ∃ numeral, NumeralText (writeReal x) numeral ∧ numeral.toFloat = x := by
  rw [writeReal_of_finite finite]
  exact numeralText_write numberForm (isNaN_of_finite finite) finite.ne

theorem readDouble_writeReal (finite : rankOf x < infinityRank) :
    readDouble (writeReal x) = some x := by
  obtain ⟨numeral, written, rfl⟩ := numeralText_writeReal finite
  exact readDouble_eq_some_iff.mpr (.numeral written)

theorem exists_not_digit_writeReal (finite : rankOf x < infinityRank) :
    ∃ c ∈ writeReal x, c.isDigit = false := by
  have decimal (d : Decimal) : ∃ c ∈ numberForm.writeDecimal d, c.isDigit = false := by
    have places : ∃ c ∈ d.positional true, c.isDigit = false :=
      ⟨'.', point_mem_positional d, by decide⟩
    rw [Form.writeDecimal]
    dsimp only [numberForm]
    split_ifs
    · exact places
    · exact ⟨'e', mark_mem_scientific d, by decide⟩
  obtain ⟨c, listed, other⟩ := decimal (shortest numberForm.tie (rankOf x))
  refine ⟨c, ?_, other⟩
  rw [writeReal_of_finite finite, Form.write, isNaN_of_finite finite,
    if_neg Bool.false_ne_true, if_neg finite.ne]
  exact List.mem_append_right _ listed

namespace Document

variable {layout : Layout} {depth : Nat} {d d' : Document} {r s t : List Char}

mutual

/-- What a text keeps of a document. -/
def kept : Document → Document
  | .null => .null
  | .boolean b => .boolean b
  | .natural n => .natural n
  | .real x => if rankOf x < infinityRank then .real x else .null
  | .text s => .text s
  | .list items => .list (keptItems items)
  | .object fields => .object (keptFields fields)

def keptItems : List Document → List Document
  | [] => []
  | item :: rest => kept item :: keptItems rest

def keptFields : List (String × Document) → List (String × Document)
  | [] => []
  | (name, value) :: rest => (name, kept value) :: keptFields rest

end

theorem keptItems_eq (items : List Document) : keptItems items = items.map kept := by
  induction items with
  | nil => rfl
  | cons item rest ih => rw [keptItems, ih, List.map_cons]

theorem kept_real (x : Float) :
    kept (.real x) = if rankOf x < infinityRank then .real x else .null := by
  rw [kept]

mutual

theorem write_kept (layout : Layout) : ∀ (depth : Nat) (d : Document),
    d.kept.write layout depth = d.write layout depth
  | _, .null | _, .boolean _ | _, .natural _ | _, .text _ => rfl
  | _, .real x => by
    rw [kept]
    split_ifs with finite
    · rfl
    · rw [write, write, writeReal_of_not_finite finite]
  | _, .list [] | _, .object [] => rfl
  | depth, .list (item :: rest) => by
    rw [kept, keptItems, write, write, write_kept layout _ item, writeItems_kept layout _ rest]
  | depth, .object ((name, value) :: rest) => by
    rw [kept, keptFields, write, write, write_kept layout _ value, writeFields_kept layout _ rest]

theorem writeItems_kept (layout : Layout) : ∀ (depth : Nat) (items : List Document),
    writeItems layout depth (keptItems items) = writeItems layout depth items
  | _, [] => rfl
  | depth, item :: rest => by
    rw [keptItems, writeItems, writeItems, write_kept layout _ item, writeItems_kept layout _ rest]

theorem writeFields_kept (layout : Layout) : ∀ (depth : Nat) (fields : List (String × Document)),
    writeFields layout depth (keptFields fields) = writeFields layout depth fields
  | _, [] => rfl
  | depth, (name, value) :: rest => by
    rw [keptFields, writeFields, writeFields, write_kept layout _ value,
      writeFields_kept layout _ rest]

end

/-- A document whose text is a single word without marks. -/
def isScalar : Document → Bool
  | .null | .boolean _ | .natural _ | .real _ => true
  | _ => false

def isScalarChar (c : Char) : Bool := c.isAlphanum || c = '+' || c = '-' || c = '.'

theorem isScalarChar_of_isDigit {c : Char} (h : c.isDigit = true) : isScalarChar c = true := by
  simp [isScalarChar, Char.isAlphanum, h]

theorem isScalarChar_of_numeralChar {c : Char} (h : NumeralChar c) : isScalarChar c = true := by
  rcases h with digit | listed
  · exact isScalarChar_of_isDigit digit
  · simp only [List.mem_cons, List.not_mem_nil, or_false] at listed
    rcases listed with rfl | rfl | rfl | rfl | rfl <;> decide

theorem chars_writeReal (finite : rankOf x < infinityRank) :
    ∀ c ∈ writeReal x, NumeralChar c := by
  obtain ⟨numeral, written, -⟩ := numeralText_writeReal finite
  exact written.chars

theorem write_scalar (h : d.isScalar = true) (layout : Layout) (depth : Nat) :
    d.write layout depth ≠ [] ∧ ∀ c ∈ d.write layout depth, isScalarChar c = true := by
  have word {letters : List Char} (some : letters ≠ []) (all : letters.all isScalarChar = true) :
      letters ≠ [] ∧ ∀ c ∈ letters, isScalarChar c = true := ⟨some, List.all_eq_true.mp all⟩
  cases d with
  | null => exact word (List.cons_ne_nil _ _) rfl
  | boolean b => cases b <;> exact word (List.cons_ne_nil _ _) rfl
  | natural n =>
    refine ⟨Nat.toDigits_ne_nil, fun c listed => isScalarChar_of_isDigit ?_⟩
    exact Nat.isDigit_of_mem_toDigits (by decide) (by decide) listed
  | real x =>
    rw [write]
    by_cases finite : rankOf x < infinityRank
    · obtain ⟨c, listed, -⟩ := exists_not_digit_writeReal finite
      exact ⟨List.ne_nil_of_mem listed,
        fun c listed => isScalarChar_of_numeralChar (chars_writeReal finite c listed)⟩
    · rw [writeReal_of_not_finite finite]
      exact word (List.cons_ne_nil _ _) rfl
  | text | list | object => cases h

def ofWord (word : List Char) : Document :=
  if word.all Char.isDigit then .natural (Nat.ofDigitChars 10 word 0)
  else match readDouble word with
    | some x => .real x
    | none =>
      if word = ['t', 'r', 'u', 'e'] then .boolean true
      else if word = ['f', 'a', 'l', 's', 'e'] then .boolean false
      else .null

/-- What a text keeps of a word is read back from it. -/
theorem ofWord_write (h : d.isScalar = true) (layout : Layout) (depth : Nat) :
    ofWord (d.write layout depth) = d.kept := by
  have null : ofWord ['n', 'u', 'l', 'l'] = .null := rfl
  cases d with
  | null => exact null
  | boolean b => cases b <;> rfl
  | natural n =>
    have digits : (Nat.toDigits 10 n).all Char.isDigit = true := List.all_eq_true.mpr
      fun c listed => Nat.isDigit_of_mem_toDigits (by decide) (by decide) listed
    rw [write, ofWord, if_pos digits, Nat.ofDigitChars_toDigits (by decide) (by decide), kept]
  | real x =>
    rw [write, kept]
    split_ifs with finite
    · obtain ⟨c, listed, other⟩ := exists_not_digit_writeReal finite
      have digits : ¬ (writeReal x).all Char.isDigit = true :=
        fun all => absurd (List.all_eq_true.mp all c listed) (by simp [other])
      rw [ofWord, if_neg digits, readDouble_writeReal finite]
    · rw [writeReal_of_not_finite finite, null]
  | text | list | object => cases h

/-- The mark that a text begins with, if it is not a word. -/
def opening : Document → Option Char
  | .text _ => some '"'
  | .list _ => some '['
  | .object _ => some '\x7b'
  | _ => none

theorem isScalar_iff : d.isScalar = true ↔ d.opening = none := by
  cases d <;> simp [isScalar, opening]

theorem exists_head_write (d : Document) (layout : Layout) (depth : Nat) :
    ∃ c tail, d.write layout depth = c :: tail ∧
      d.opening = if isScalarChar c then none else some c := by
  by_cases scalar : d.isScalar = true
  · obtain ⟨some, chars⟩ := write_scalar scalar layout depth
    obtain ⟨c, tail, first⟩ := List.exists_cons_of_ne_nil some
    refine ⟨c, tail, first, ?_⟩
    rw [if_pos (chars c (first ▸ List.mem_cons_self)), isScalar_iff.mp scalar]
  · cases d with
    | text s => exact ⟨'"', _, rfl, rfl⟩
    | list items => cases items <;> exact ⟨'[', _, rfl, rfl⟩
    | object fields =>
      cases fields with
      | nil => exact ⟨'\x7b', _, rfl, rfl⟩
      | cons field rest =>
        obtain ⟨name, value⟩ := field
        exact ⟨'\x7b', _, rfl, rfl⟩
    | null | boolean | natural | real => exact absurd rfl scalar

/-- Texts that begin alike are texts of documents of one shape. -/
theorem opening_eq_of_write (same : d.write layout depth ++ r = d'.write layout depth ++ t) :
    d.opening = d'.opening := by
  obtain ⟨c, tail, front, opens⟩ := exists_head_write d layout depth
  obtain ⟨c', tail', front', opens'⟩ := exists_head_write d' layout depth
  rw [front, front', List.cons_append, List.cons_append, List.cons.injEq] at same
  rw [opens, opens', same.1]

/-- A text that does not prolong a word. -/
def Ends (r : List Char) : Prop :=
  ∀ c ∈ r.head?, isScalarChar c = false

theorem ends_cons {c : Char} (h : isScalarChar c = false) (r : List Char) : Ends (c :: r) := by
  simpa [Ends] using h

variable {name : String} {value item : Document} {rest : List Document}
  {others : List (String × Document)}

theorem write_list_cons : (list (item :: rest)).write layout depth ++ r =
    '[' :: (layout.lineBreak (depth + 1) ++ (item.write layout (depth + 1) ++
      (writeItems layout (depth + 1) rest ++ (layout.lineBreak depth ++ ']' :: r)))) := by
  simp [write]

theorem writeItems_cons : writeItems layout depth (item :: rest) ++ r =
    ',' :: (layout.lineBreak depth ++ (item.write layout depth ++
      (writeItems layout depth rest ++ r))) := by
  simp [writeItems]

theorem write_object_cons : (object ((name, value) :: others)).write layout depth ++ r =
    '\x7b' :: (layout.lineBreak (depth + 1) ++ (writeText name ++ ':' :: (layout.afterColon ++
      (value.write layout (depth + 1) ++
        (writeFields layout (depth + 1) others ++ (layout.lineBreak depth ++ '\x7d' :: r)))))) := by
  simp [write]

theorem writeFields_cons : writeFields layout depth ((name, value) :: others) ++ r =
    ',' :: (layout.lineBreak depth ++ (writeText name ++ ':' :: (layout.afterColon ++
      (value.write layout depth ++ (writeFields layout depth others ++ r))))) := by
  simp [writeFields]

/-- What stands between marks is nothing, or begins a line. -/
def Lined (layout : Layout) : Prop :=
  ∀ depth, layout.lineBreak depth = [] ∨ ∃ blanks, layout.lineBreak depth = '\n' :: blanks

theorem lined_compact : Lined .compact := fun _ => .inl rfl

theorem lined_indented : Lined .indented := fun _ => .inr ⟨_, rfl⟩

/-- The first character behind a break that is no blank tells what follows. -/
theorem Lined.break_ne (lined : Lined layout) {c : Char} (mark : c ≠ '\n')
    (other : s.head? ≠ some c) : layout.lineBreak depth ++ s ≠ c :: t := by
  rcases lined depth with none | ⟨blanks, line⟩
  · rw [none, List.nil_append]
    rintro rfl
    exact other rfl
  · rw [line]
    rintro same
    exact mark (List.cons.inj same).1.symm

theorem Lined.ends_break (lined : Lined layout) {c : Char} (mark : isScalarChar c = false)
    (outer : Nat) (r : List Char) : Ends (layout.lineBreak outer ++ c :: r) := by
  rcases lined outer with none | ⟨blanks, line⟩
  · rw [none]
    exact ends_cons mark r
  · rw [line]
    exact ends_cons rfl _

theorem Lined.ends_items (lined : Lined layout) (items : List Document) (outer : Nat)
    (r : List Char) :
    Ends (writeItems layout depth items ++ (layout.lineBreak outer ++ ']' :: r)) := by
  cases items with
  | nil => exact lined.ends_break rfl outer r
  | cons item rest =>
    rw [writeItems_cons]
    exact ends_cons rfl _

theorem Lined.ends_fields (lined : Lined layout) (fields : List (String × Document)) (outer : Nat)
    (r : List Char) :
    Ends (writeFields layout depth fields ++ (layout.lineBreak outer ++ '\x7d' :: r)) := by
  cases fields with
  | nil => exact lined.ends_break rfl outer r
  | cons field others =>
    rw [writeFields_cons]
    exact ends_cons rfl _

/-- No document begins with a closing bracket. -/
theorem head_write_append (d : Document) (layout : Layout) (depth : Nat) (r : List Char) :
    (d.write layout depth ++ r).head? ≠ some ']' := by
  obtain ⟨c, tail, first, opens⟩ := exists_head_write d layout depth
  rw [first]
  rintro same
  obtain rfl : c = ']' := Option.some.inj same
  have shut : d.opening = some ']' := opens
  cases d <;> simp [opening] at shut

theorem write_inj_of_scalar (scalar : d.isScalar = true) (ends : Ends r) (ends' : Ends t)
    (same : d.write layout depth ++ r = d'.write layout depth ++ t) :
    d.kept = d'.kept ∧ r = t := by
  have scalar' : d'.isScalar = true := by
    rwa [isScalar_iff, ← opening_eq_of_write same, ← isScalar_iff]
  obtain ⟨word, rfl⟩ := Text.append_inj_of_head (write_scalar scalar layout depth).2
    (write_scalar scalar' layout depth).2 ends ends' same
  rw [← ofWord_write scalar layout depth, word, ofWord_write scalar']
  exact ⟨rfl, rfl⟩

theorem write_inj_of_text
    (same : (text name).write layout depth ++ r = d'.write layout depth ++ t) :
    (text name).kept = d'.kept ∧ r = t := by
  have opens := opening_eq_of_write same
  cases d' with
  | text other =>
    rw [write, write] at same
    obtain ⟨rfl, rest⟩ := writeText_inj same
    exact ⟨rfl, rest⟩
  | _ => cases opens

mutual

-- By recursion on the first document: how its text begins tells the shape of the second one.
/-- In front of a text that does not prolong a word only one kept document is written. -/
theorem write_inj (lined : Lined layout) : ∀ (depth : Nat) (d d' : Document) {r t : List Char},
    Ends r → Ends t → d.write layout depth ++ r = d'.write layout depth ++ t →
    d.kept = d'.kept ∧ r = t
  | _, .null, _, _, _, ends, ends', same => write_inj_of_scalar rfl ends ends' same
  | _, .boolean _, _, _, _, ends, ends', same => write_inj_of_scalar rfl ends ends' same
  | _, .natural _, _, _, _, ends, ends', same => write_inj_of_scalar rfl ends ends' same
  | _, .real _, _, _, _, ends, ends', same => write_inj_of_scalar rfl ends ends' same
  | _, .text _, _, _, _, _, _, same => write_inj_of_text same
  | depth, .list items, d', r, t, _, _, same => by
    have opens := opening_eq_of_write same
    cases d' with
    | list items' =>
      rw [kept, kept, Document.list.injEq]
      exact writeList_inj lined depth items items' same
    | _ => cases opens
  | depth, .object fields, d', r, t, _, _, same => by
    have opens := opening_eq_of_write same
    cases d' with
    | object fields' =>
      rw [kept, kept, Document.object.injEq]
      exact writeObject_inj lined depth fields fields' same
    | _ => cases opens

theorem writeList_inj (lined : Lined layout) : ∀ (depth : Nat) (items items' : List Document)
    {r t : List Char},
    (list items).write layout depth ++ r = (list items').write layout depth ++ t →
    keptItems items = keptItems items' ∧ r = t
  | _, [], [], _, _, same => ⟨rfl, by simpa [write] using same⟩
  | _, [], item :: _, _, _, same => by
    rw [write_list_cons] at same
    exact absurd (List.cons.inj same).2.symm
      (lined.break_ne (by decide) (head_write_append item _ _ _))
  | _, item :: _, [], _, _, same => by
    rw [write_list_cons] at same
    exact absurd (List.cons.inj same).2
      (lined.break_ne (by decide) (head_write_append item _ _ _))
  | depth, item :: rest, item' :: rest', r, t, same => by
    rw [write_list_cons, write_list_cons, List.cons.injEq, List.append_cancel_left_eq] at same
    obtain ⟨first, same⟩ := write_inj lined (depth + 1) item item' (lined.ends_items _ _ _)
      (lined.ends_items _ _ _) same.2
    obtain ⟨later, same⟩ := writeItems_inj lined (depth + 1) rest rest' same
    rw [keptItems, keptItems, first, later]
    exact ⟨rfl, same⟩

theorem writeItems_inj (lined : Lined layout) : ∀ (depth : Nat) (items items' : List Document)
    {outer : Nat} {r t : List Char},
    writeItems layout depth items ++ (layout.lineBreak outer ++ ']' :: r) =
      writeItems layout depth items' ++ (layout.lineBreak outer ++ ']' :: t) →
    keptItems items = keptItems items' ∧ r = t
  | _, [], [], _, _, _, same => ⟨rfl, (List.cons.inj (List.append_cancel_left same)).2⟩
  | _, [], item :: _, _, _, _, same => by
    rw [writeItems_cons] at same
    exact absurd same (lined.break_ne (by decide) (by simp))
  | _, _ :: _, [], _, _, _, same => by
    rw [writeItems_cons] at same
    exact absurd same.symm (lined.break_ne (by decide) (by simp))
  | depth, item :: rest, item' :: rest', _, _, _, same => by
    rw [writeItems_cons, writeItems_cons, List.cons.injEq, List.append_cancel_left_eq] at same
    obtain ⟨first, same⟩ := write_inj lined depth item item' (lined.ends_items _ _ _)
      (lined.ends_items _ _ _) same.2
    obtain ⟨later, same⟩ := writeItems_inj lined depth rest rest' same
    rw [keptItems, keptItems, first, later]
    exact ⟨rfl, same⟩

theorem writeObject_inj (lined : Lined layout) : ∀ (depth : Nat)
    (fields fields' : List (String × Document)) {r t : List Char},
    (object fields).write layout depth ++ r = (object fields').write layout depth ++ t →
    keptFields fields = keptFields fields' ∧ r = t
  | _, [], [], _, _, same => ⟨rfl, by simpa [write] using same⟩
  | _, [], (name, value) :: _, _, _, same => by
    rw [write_object_cons] at same
    exact absurd (List.cons.inj same).2.symm (lined.break_ne (by decide) (by simp [writeText]))
  | _, (name, value) :: _, [], _, _, same => by
    rw [write_object_cons] at same
    exact absurd (List.cons.inj same).2 (lined.break_ne (by decide) (by simp [writeText]))
  | depth, (name, value) :: rest, (name', value') :: rest', r, t, same => by
    rw [write_object_cons, write_object_cons, List.cons.injEq, List.append_cancel_left_eq] at same
    obtain ⟨called, same⟩ := writeText_inj same.2
    obtain ⟨first, same⟩ := write_inj lined (depth + 1) value value' (lined.ends_fields _ _ _)
      (lined.ends_fields _ _ _) (List.append_cancel_left (List.cons.inj same).2)
    obtain ⟨later, same⟩ := writeFields_inj lined (depth + 1) rest rest' same
    rw [keptFields, keptFields, called, first, later]
    exact ⟨rfl, same⟩

theorem writeFields_inj (lined : Lined layout) : ∀ (depth : Nat)
    (fields fields' : List (String × Document)) {outer : Nat} {r t : List Char},
    writeFields layout depth fields ++ (layout.lineBreak outer ++ '\x7d' :: r) =
      writeFields layout depth fields' ++ (layout.lineBreak outer ++ '\x7d' :: t) →
    keptFields fields = keptFields fields' ∧ r = t
  | _, [], [], _, _, _, same => ⟨rfl, (List.cons.inj (List.append_cancel_left same)).2⟩
  | _, [], (_, _) :: _, _, _, _, same => by
    rw [writeFields_cons] at same
    exact absurd same (lined.break_ne (by decide) (by simp))
  | _, (_, _) :: _, [], _, _, _, same => by
    rw [writeFields_cons] at same
    exact absurd same.symm (lined.break_ne (by decide) (by simp))
  | depth, (name, value) :: rest, (name', value') :: rest', _, _, _, same => by
    rw [writeFields_cons, writeFields_cons, List.cons.injEq, List.append_cancel_left_eq] at same
    obtain ⟨called, same⟩ := writeText_inj same.2
    obtain ⟨first, same⟩ := write_inj lined depth value value' (lined.ends_fields _ _ _)
      (lined.ends_fields _ _ _) (List.append_cancel_left (List.cons.inj same).2)
    obtain ⟨later, same⟩ := writeFields_inj lined depth rest rest' same
    rw [keptFields, keptFields, called, first, later]
    exact ⟨rfl, same⟩

end

theorem ofList_write_eq_iff (lined : Lined layout) :
    String.ofList (d.write layout 0) = String.ofList (d'.write layout 0) ↔ d.kept = d'.kept := by
  constructor
  · intro same
    have written := String.ofList_injective same
    have none : Ends [] := by simp [Ends]
    rw [← List.append_nil (d.write _ _), ← List.append_nil (d'.write _ _)] at written
    exact (write_inj lined 0 d d' none none written).1
  · intro same
    rw [← write_kept, same, write_kept]

theorem indented_eq_iff : d.indented = d'.indented ↔ d.kept = d'.kept :=
  ofList_write_eq_iff lined_indented

theorem compact_eq_iff : d.compact = d'.compact ↔ d.kept = d'.kept :=
  ofList_write_eq_iff lined_compact

theorem kept_orNull {α : Type} (f : α → Document) (a : Option α) :
    (orNull f a).kept = orNull (fun x => (f x).kept) a := by
  cases a <;> rfl

theorem orNull_injective {α : Type} {f : α → Document} (injective : Function.Injective f)
    (some : ∀ a, f a ≠ .null) : Function.Injective (orNull f) := by
  intro a b same
  cases a with
  | none =>
    cases b with
    | none => rfl
    | some b => exact absurd same.symm (some b)
  | some a =>
    cases b with
    | none => exact absurd same (some a)
    | some b => rw [injective same]

end Document

end Json

open Json (Document)
open Number (rankOf infinityRank notANumber)

/-- A double, where none but the finite ones are told apart. -/
def Number.kept (x : Float) : Float := if rankOf x < infinityRank then x else notANumber

namespace Json.Document

@[simp] theorem kept_null : null.kept = null := rfl

@[simp] theorem kept_boolean (b : Bool) : (boolean b).kept = boolean b := rfl

@[simp] theorem kept_natural (n : Nat) : (natural n).kept = natural n := rfl

@[simp] theorem kept_text (s : String) : (text s).kept = text s := rfl

theorem kept_comp_text_injective : Function.Injective (kept ∘ text) :=
  fun _ _ same => text.inj same

@[simp] theorem kept_real_inj {x y : Float} :
    (real x).kept = (real y).kept ↔ Number.kept x = Number.kept y := by
  have not_finite : ¬ rankOf notANumber < infinityRank := by decide
  simp only [kept_real, Number.kept]
  split_ifs with finite finite' finite'
  · simp
  · simp only [false_iff]
    rintro rfl
    exact not_finite finite
  · simp only [false_iff]
    rintro rfl
    exact not_finite finite'
  · simp

@[simp] theorem kept_list (items : List Document) : (list items).kept = list (items.map kept) := by
  rw [kept, keptItems_eq]

@[simp] theorem kept_object (fields : List (String × Document)) :
    (object fields).kept = object (fields.map fun field => (field.1, field.2.kept)) := by
  rw [kept, object.injEq]
  induction fields with
  | nil => rfl
  | cons field rest ih => rw [keptFields, ih, List.map_cons]

end Json.Document

end SolidStudy
