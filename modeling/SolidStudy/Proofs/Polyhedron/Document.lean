import Mathlib
import SolidStudy.Polyhedron.Off
import SolidStudy.Proofs.Fallible
import SolidStudy.Proofs.Number.Word
import SolidStudy.Proofs.Text.Pieces

/-! Which documents describe a solid, and which one. Every reader takes exactly the words of what it
reads off the front, so no count makes it lose its place, and what it reads is no larger than the
document. -/
namespace SolidStudy

namespace Off

variable {α β : Type} {words front rest : Words} {count : Nat}

inductive Listing (Text : Words → α → Prop) : Words → List α → Prop
  | nil : Listing Text [] []
  | cons {front later : Words} {a : α} {items : List α} (first : Text front a)
      (further : Listing Text later items) : Listing Text (front ++ later) (a :: items)

inductive VertexText : Words → Point → Prop
  | coordinates {first second third : List Char} {x y z : Float}
      (hx : Number.DoubleText first x) (hy : Number.DoubleText second y)
      (hz : Number.DoubleText third z) : VertexText [first, second, third] ⟨x, y, z⟩

/-- The position of one of as many vertices. -/
inductive CornerText (count : Nat) : Words → Nat → Prop
  | position {word : List Char} {index : Nat} (counted : Number.CountText word index)
      (below : index < count) : CornerText count [word] index

inductive FaceText (count : Nat) : Words → List Nat → Prop
  | loop {size : List Char} {front : Words} {corners : List Nat}
      (sized : Number.CountText size corners.length)
      (listed : Listing (CornerText count) front corners) : FaceText count (size :: front) corners

/-- The numbers of vertices, of faces and of edges, of which the last may be any, then the vertices
and the faces. What follows them does not matter. -/
inductive SolidText : Words → Polyhedron → Prop
  | document {vertexCount faceCount edgeCount : List Char} {edges : Nat}
      {vertices faces rest : Words} {solid : Polyhedron}
      (counted : Number.CountText vertexCount solid.vertices.length)
      (indexed : solid.vertices.length < 2 ^ 32)
      (looped : Number.CountText faceCount solid.faces.length)
      (edged : Number.CountText edgeCount edges)
      (placed : Listing VertexText vertices solid.vertices)
      (joined : Listing (FaceText solid.vertices.length) faces solid.faces) :
      SolidText (['O', 'F', 'F'] :: vertexCount :: faceCount :: edgeCount ::
        (vertices ++ (faces ++ rest))) solid

theorem words_eq (text : List Char) : Off.words text =
    (text.splitOnP (· = '\n')).flatMap fun line =>
      ((line.takeWhile (· ≠ '#')).splitOnP Text.isBlank).filter (· ≠ []) := by
  simp only [Off.words, Text.lines, Text.words, Text.splitAt_eq_splitOnP]

theorem Listing.length_words {Text : Words → α → Prop} {items : List α} {size : α → Nat}
    (h : Listing Text words items) (each : ∀ front a, Text front a → front.length = size a) :
    words.length = (items.map size).sum := by
  induction h with
  | nil => rfl
  | cons first _ ih => rw [List.length_append, each _ _ first, ih, List.map_cons, List.sum_cons]

theorem Listing.exists_text {Text : Words → α → Prop} {items : List α}
    (h : Listing Text words items) : ∀ a ∈ items, ∃ front, Text front a := by
  induction h with
  | nil => simp
  | cons first _ ih => exact List.forall_mem_cons.mpr ⟨⟨_, first⟩, ih⟩

theorem FaceText.length_words {corners : List Nat} (h : FaceText count words corners) :
    words.length = 1 + corners.length := by
  cases h with
  | loop _ listed =>
    have one : ∀ front index, CornerText count front index → front.length = 1 := by
      rintro _ _ ⟨⟩
      rfl
    rw [List.length_cons, listed.length_words one]
    simp [Nat.add_comm]

theorem FaceText.below {corners : List Nat} (h : FaceText count words corners) :
    ∀ index ∈ corners, index < count := by
  cases h with
  | loop _ listed =>
    intro index listed_index
    obtain ⟨_, _, below⟩ := listed.exists_text index listed_index
    exact below

/-- A reader of such words takes exactly them off the front. -/
def Reads (reader : Reader α) (Text : Words → α → Prop) : Prop :=
  ∀ words a rest, reader.run words = .ok (a, rest) ↔ ∃ front, words = front ++ rest ∧ Text front a

theorem run_bind_eq_ok {reader : Reader α} {further : α → Reader β} {b : β} :
    (reader >>= further).run words = .ok (b, rest) ↔
      ∃ a mid, reader.run words = .ok (a, mid) ∧ (further a).run mid = .ok (b, rest) := by
  rw [StateT.run_bind, bind_eq_ok, Prod.exists]

theorem run_pure_eq_ok {a b : α} :
    (pure a : Reader α).run words = .ok (b, rest) ↔ a = b ∧ words = rest := by
  simp [pure, StateT.pure, StateT.run, Except.pure]

theorem readCount_eq_ok {wanted : String} {n : Nat} :
    (readCount wanted).run words = .ok (n, rest) ↔
      ∃ word, words = word :: rest ∧ Number.CountText word n := by
  simp only [← Number.readCount_eq_some_iff, StateT.run]
  cases words with
  | nil => simp [readCount]
  | cons word later =>
    cases read : Number.readCount word <;> simp [readCount, read, and_comm, eq_comm]

theorem readCoordinate_eq_ok {x : Float} : readCoordinate.run words = .ok (x, rest) ↔
    ∃ word, words = word :: rest ∧ Number.DoubleText word x := by
  simp only [← Number.readDouble_eq_some_iff, StateT.run]
  cases words with
  | nil => simp [readCoordinate]
  | cons word later =>
    cases read : Number.readDouble word <;> simp [readCoordinate, read, and_comm, eq_comm]

theorem reads_vertex : Reads readVertex VertexText := by
  intro words vertex rest
  simp only [readVertex, run_bind_eq_ok, readCoordinate_eq_ok, run_pure_eq_ok]
  constructor
  · rintro ⟨x, _, ⟨_, rfl, hx⟩, y, _, ⟨_, rfl, hy⟩, z, _, ⟨_, rfl, hz⟩, rfl, rfl⟩
    exact ⟨_, rfl, .coordinates hx hy hz⟩
  · rintro ⟨_, rfl, ⟨hx, hy, hz⟩⟩
    exact ⟨_, _, ⟨_, rfl, hx⟩, _, _, ⟨_, rfl, hy⟩, _, _, ⟨_, rfl, hz⟩, rfl, rfl⟩

theorem reads_corner (small : count ≤ indexSize) (face : Nat) :
    Reads (readCorner face count) (CornerText count) := by
  have narrowed {index : Nat} (below : index < count) : narrow index = index :=
    Nat.mod_eq_of_lt (below.trans_le small)
  intro words corner rest
  simp only [readCorner, run_bind_eq_ok, readCount_eq_ok]
  constructor
  · rintro ⟨index, _, ⟨_, rfl, counted⟩, read⟩
    split_ifs at read with above
    · cases read
    · have below : index < count := Nat.lt_of_not_le above
      rw [run_pure_eq_ok, narrowed below] at read
      obtain ⟨rfl, rfl⟩ := read
      exact ⟨_, rfl, .position counted below⟩
  · rintro ⟨_, rfl, ⟨counted, below⟩⟩
    refine ⟨corner, _, ⟨_, rfl, counted⟩, ?_⟩
    rw [if_neg (Nat.not_le.mpr below), narrowed below]
    rfl

theorem reads_items {item : Nat → Reader α} {Text : Words → α → Prop}
    (each : ∀ position, Reads (item position) Text) (first n : Nat) :
    Reads (readItems item first n) fun front items =>
      items.length = n ∧ Listing Text front items := by
  induction n generalizing first with
  | zero =>
    intro words items rest
    rw [readItems, run_pure_eq_ok]
    constructor
    · rintro ⟨rfl, rfl⟩
      exact ⟨[], rfl, rfl, .nil⟩
    · rintro ⟨front, rfl, none, listed⟩
      cases listed with
      | nil => exact ⟨rfl, rfl⟩
      | cons => cases none
  | succ n ih =>
    intro words items rest
    simp only [readItems, run_bind_eq_ok, each first _, ih (first + 1) _, run_pure_eq_ok]
    constructor
    · rintro ⟨a, _, ⟨front, rfl, text⟩, later, _, ⟨further, rfl, rfl, listed⟩, rfl, rfl⟩
      exact ⟨front ++ further, (List.append_assoc ..).symm, rfl, .cons text listed⟩
    · rintro ⟨front, rfl, all, listed⟩
      cases listed with
      | nil => cases all
      | cons text listed =>
        exact ⟨_, _, ⟨_, List.append_assoc .., text⟩, _, _,
          ⟨_, rfl, Nat.succ.inj all, listed⟩, rfl, rfl⟩

theorem reads_face (small : count ≤ indexSize) (face : Nat) :
    Reads (readFace count face) (FaceText count) := by
  intro words corners rest
  simp only [readFace, run_bind_eq_ok, readCount_eq_ok,
    reads_items (fun _ => reads_corner small face) 0 _ _]
  constructor
  · rintro ⟨_, _, ⟨size, rfl, sized⟩, front, rfl, rfl, listed⟩
    exact ⟨size :: front, rfl, .loop sized listed⟩
  · rintro ⟨_, rfl, ⟨sized, listed⟩⟩
    exact ⟨_, _, ⟨_, rfl, sized⟩, _, rfl, rfl, listed⟩

theorem readBody_eq_ok {solid : Polyhedron} :
    (∃ rest, readBody.run words = .ok (solid, rest)) ↔
      SolidText (['O', 'F', 'F'] :: words) solid := by
  simp only [readBody, run_bind_eq_ok, readCount_eq_ok]
  constructor
  · rintro ⟨rest, vertexCount, _, ⟨_, rfl, counted⟩, faceCount, _, ⟨_, rfl, looped⟩, _, _,
      ⟨_, rfl, edged⟩, read⟩
    split_ifs at read with above
    · cases read
    · have small : vertexCount ≤ indexSize := (Nat.lt_of_not_le above).le
      simp only [run_bind_eq_ok, reads_items (fun _ => reads_vertex) 0 _ _,
        reads_items (reads_face small) 0 _ _, run_pure_eq_ok] at read
      obtain ⟨vertices, _, ⟨_, rfl, rfl, placed⟩, faces, _, ⟨_, rfl, rfl, joined⟩, rfl, rfl⟩ := read
      exact .document counted (Nat.lt_of_not_le above) looped edged placed joined
  · intro h
    cases h with
    | @document _ _ _ _ _ _ rest _ counted indexed looped edged placed joined =>
      have small : solid.vertices.length ≤ indexSize := indexed.le
      have fits : ¬indexSize ≤ solid.vertices.length := Nat.not_le.mpr indexed
      refine ⟨rest, _, _, ⟨_, rfl, counted⟩, _, _, ⟨_, rfl, looped⟩, _, _, ⟨_, rfl, edged⟩, ?_⟩
      rw [if_neg fits]
      simp only [run_bind_eq_ok, reads_items (fun _ => reads_vertex) 0 _ _,
        reads_items (reads_face small) 0 _ _, run_pure_eq_ok]
      exact ⟨_, _, ⟨_, rfl, rfl, placed⟩, _, _, ⟨_, rfl, rfl, joined⟩, rfl, rfl⟩

theorem run'_eq_ok {reader : Reader α} {a : α} :
    reader.run' words = .ok a ↔ ∃ rest, reader.run words = .ok (a, rest) := by
  have first : reader.run' words = (reader.run words).map (·.1) := rfl
  rw [first, map_eq_ok]
  simp

end Off

namespace Polyhedron

open Off

variable {text : List Char} {solid : Polyhedron}

theorem ofOff_eq_none : ofOff text = .ok none ↔ Off.words text = [] := by
  rw [ofOff]
  cases Off.words text with
  | nil => simp
  | cons header rest =>
    dsimp only
    split_ifs <;> simp [map_eq_ok]

theorem ofOff_eq_some : ofOff text = .ok (some solid) ↔ SolidText (Off.words text) solid := by
  rw [ofOff]
  cases Off.words text with
  | nil => constructor <;> rintro ⟨⟩
  | cons header rest =>
    dsimp only
    split_ifs with named
    · subst named
      rw [← readBody_eq_ok, ← run'_eq_ok, map_eq_ok]
      simp
    · constructor <;> rintro ⟨⟩
      exact absurd rfl named

/-- What a document of a solid is made of is no larger than the document. -/
theorem length_of_solidText {words : Words} (h : SolidText words solid) :
    4 + 3 * solid.vertices.length + (solid.faces.map fun face => 1 + face.length).sum ≤
      words.length := by
  cases h with
  | document _ _ _ _ placed joined =>
    have three : ∀ front vertex, VertexText front vertex → front.length = 3 := by
      rintro _ _ ⟨⟩
      rfl
    have vertices := placed.length_words three
    have faces := joined.length_words fun _ _ => FaceText.length_words
    simp only [List.map_const', List.sum_replicate, smul_eq_mul] at vertices
    simp only [List.length_cons, List.length_append, vertices, faces]
    omega

theorem below_of_solidText {words : Words} (h : SolidText words solid) :
    ∀ face ∈ solid.faces, ∀ index ∈ face, index < solid.vertices.length ∧ index < 2 ^ 32 := by
  cases h with
  | document _ indexed _ _ _ joined =>
    intro face listed index at_face
    obtain ⟨_, text⟩ := joined.exists_text face listed
    have below := text.below index at_face
    exact ⟨below, below.trans indexed⟩

/-- A document is read if and only if its words are those of a solid, and it is read as that solid,
whose positions are all there and fit into 32 bits. A document without words has no content. -/
theorem ofOff_accepts (text : List Char) :
    let words := (text.splitOnP (· = '\n')).flatMap fun line =>
      ((line.takeWhile (· ≠ '#')).splitOnP Text.isBlank).filter (· ≠ [])
    (ofOff text = .ok none ↔ words = []) ∧
    (∀ solid, ofOff text = .ok (some solid) ↔ SolidText words solid) ∧
    ∀ solid, ofOff text = .ok (some solid) →
      (∀ face ∈ solid.faces, ∀ index ∈ face, index < solid.vertices.length ∧ index < 2 ^ 32) ∧
      4 + 3 * solid.vertices.length + (solid.faces.map fun face => 1 + face.length).sum ≤
        words.length := by
  intro words
  have same : Off.words text = words := words_eq text
  rw [← same]
  refine ⟨ofOff_eq_none, fun solid => ofOff_eq_some, fun solid read => ?_⟩
  have written := ofOff_eq_some.mp read
  exact ⟨below_of_solidText written, length_of_solidText written⟩

/-- A comment, the ends of the lines and the words after the only face are passed over. -/
theorem ofOff_accepts_comment :
    let text := "OFF # 9\n1 1 +0\r\n0 0 0 2 0 00 rest".toList
    let zero := Number.ofRank false 0
    let solid : Polyhedron := ⟨[⟨zero, zero, zero⟩], [[0, 0]]⟩
    Off.words text = ["OFF".toList, ['1'], ['1'], ['+', '0'], ['0'], ['0'], ['0'], ['2'], ['0'],
      ['0', '0'], "rest".toList] ∧
    SolidText (Off.words text) solid ∧ ofOff text = .ok (some solid) ∧
      4 + 3 * 1 + 3 ≤ (Off.words text).length := by
  intro text zero solid
  have words : Off.words text = ["OFF".toList, ['1'], ['1'], ['+', '0'], ['0'], ['0'], ['0'], ['2'],
      ['0'], ['0', '0'], "rest".toList] := by decide +kernel
  have origin : VertexText [['0'], ['0'], ['0']] ⟨zero, zero, zero⟩ :=
    have coordinate : Number.DoubleText ['0'] zero := Number.readDouble_eq_some_iff.mp rfl
    .coordinates coordinate coordinate coordinate
  have corner {word : List Char} (read : Number.readCount word = some 0) : CornerText 1 [word] 0 :=
    .position (Number.readCount_eq_some_iff.mp read) Nat.one_pos
  have face : FaceText 1 [['2'], ['0'], ['0', '0']] [0, 0] :=
    .loop (Number.readCount_eq_some_iff.mp rfl) (.cons (corner rfl) (.cons (corner rfl) .nil))
  have placed : Listing VertexText [['0'], ['0'], ['0']] solid.vertices := .cons origin .nil
  have joined : Listing (FaceText solid.vertices.length) [['2'], ['0'], ['0', '0']] solid.faces :=
    .cons face .nil
  have counted : Number.CountText ['1'] solid.vertices.length :=
    Number.readCount_eq_some_iff.mp rfl
  have looped : Number.CountText ['1'] solid.faces.length := Number.readCount_eq_some_iff.mp rfl
  have edged : Number.CountText ['+', '0'] 0 := Number.readCount_eq_some_iff.mp rfl
  have indexed : solid.vertices.length < 2 ^ 32 := by decide
  have written : SolidText (Off.words text) solid := by
    rw [words]
    exact .document counted indexed looped edged placed joined
  obtain ⟨-, accepts, bounded⟩ := ofOff_accepts text
  rw [← words_eq] at accepts bounded
  have read := (accepts solid).mpr written
  exact ⟨words, written, read, (bounded solid read).2⟩

end Polyhedron

end SolidStudy
