import Mathlib
import SolidStudy.Proofs.Polyhedron.Document

/-! Documents that are refused for a corner that is no vertex. Everything before that corner was
read as it stands; the corner itself is called by the low 32 bits of its position, so a position
that needs more of them is called by another one. -/
namespace SolidStudy

namespace Off

variable {α β : Type} {words rest : Words} {count face index f i c : Nat} {fault : OffFault}

/-- A face up to a corner at a position beyond the vertices. -/
inductive StrayFace (count : Nat) : Words → Nat → Prop
  | loop {size word : List Char} {total position : Nat} {corners : List Nat} {front rest : Words}
      (sized : Number.CountText size total) (listed : Listing (CornerText count) front corners)
      (further : corners.length < total) (placed : Number.CountText word position)
      (beyond : count ≤ position) : StrayFace count (size :: (front ++ word :: rest)) position

/-- A document up to a corner beyond the vertices: the number of the face, the position of the
corner, and the number of vertices. -/
inductive StrayText : Words → Nat → Nat → Nat → Prop
  | document {vertexCount faceCount edgeCount : List Char} {total edges position : Nat}
      {vertices : List Point} {faces : List (List Nat)} {points loops rest : Words}
      (counted : Number.CountText vertexCount vertices.length)
      (indexed : vertices.length < 2 ^ 32) (looped : Number.CountText faceCount total)
      (edged : Number.CountText edgeCount edges) (placed : Listing VertexText points vertices)
      (joined : Listing (FaceText vertices.length) loops faces) (further : faces.length < total)
      (stray : StrayFace vertices.length rest position) :
      StrayText (['O', 'F', 'F'] :: vertexCount :: faceCount :: edgeCount ::
        (points ++ (loops ++ rest))) faces.length position vertices.length

theorem run_bind_eq_error {reader : Reader α} {further : α → Reader β} :
    (reader >>= further).run words = .error fault ↔ reader.run words = .error fault ∨
      ∃ a mid, reader.run words = .ok (a, mid) ∧ (further a).run mid = .error fault := by
  rw [StateT.run_bind]
  cases reader.run words with
  | error => simp [bind, Except.bind]
  | ok read =>
    obtain ⟨a, mid⟩ := read
    simp [bind, Except.bind]

theorem run_pure_ne_error {a : α} : (pure a : Reader α).run words ≠ .error fault := by
  rintro ⟨⟩

theorem readCount_ne_stray {wanted : String} :
    (readCount wanted).run words ≠ .error (.vertexOutOfRange f i c) := by
  intro refused
  cases words with
  | nil => cases refused
  | cons word rest =>
    simp only [StateT.run, readCount] at refused
    split at refused <;> cases refused

theorem readCoordinate_ne_stray :
    readCoordinate.run words ≠ .error (.vertexOutOfRange f i c) := by
  intro refused
  cases words with
  | nil => cases refused
  | cons word rest =>
    simp only [StateT.run, readCoordinate] at refused
    split at refused <;> cases refused

theorem readVertex_ne_stray : readVertex.run words ≠ .error (.vertexOutOfRange f i c) := by
  simp only [readVertex, ne_eq, run_bind_eq_error, readCoordinate_ne_stray, run_pure_ne_error,
    and_false, exists_false, or_self, not_false_eq_true]

/-- Items are refused for the first of them that is. -/
theorem readItems_eq_error {item : Nat → Reader α} {Text : Words → α → Prop}
    (each : ∀ position, Reads (item position) Text) (first n : Nat) :
    (readItems item first n).run words = .error fault ↔ ∃ front items later,
      words = front ++ later ∧ Listing Text front items ∧ items.length < n ∧
        (item (first + items.length)).run later = .error fault := by
  induction n generalizing first words with
  | zero =>
    simp only [readItems, run_pure_ne_error, Nat.not_lt_zero, false_and, and_false, exists_false]
  | succ n ih =>
    simp only [readItems, run_bind_eq_error, ih, run_pure_ne_error, and_false, exists_false,
      or_false, each first _]
    constructor
    · rintro (refused | ⟨a, _, ⟨head, rfl, text⟩, front, items, later, rfl, listed, fewer, refused⟩)
      · exact ⟨[], [], words, rfl, .nil, Nat.succ_pos n, refused⟩
      · refine ⟨head ++ front, a :: items, later, (List.append_assoc ..).symm, .cons text listed,
          Nat.succ_lt_succ fewer, ?_⟩
        rwa [List.length_cons, Nat.add_comm items.length, ← Nat.add_assoc]
    · rintro ⟨_, _, later, rfl, listed, fewer, refused⟩
      cases listed with
      | nil => exact .inl refused
      | @cons head front a items text listed =>
        refine .inr ⟨a, _, ⟨head, List.append_assoc .., text⟩, front, items, later, rfl, listed,
          Nat.lt_of_succ_lt_succ fewer, ?_⟩
        rwa [List.length_cons, Nat.add_comm items.length, ← Nat.add_assoc] at refused

theorem readCorner_eq_stray : (readCorner face count).run words = .error (.vertexOutOfRange f i c) ↔
    f = face ∧ c = count ∧ ∃ word rest position, words = word :: rest ∧
      Number.CountText word position ∧ count ≤ position ∧ i = narrow position := by
  simp only [readCorner, run_bind_eq_error, readCount_ne_stray, false_or, readCount_eq_ok]
  constructor
  · rintro ⟨position, rest, ⟨word, rfl, placed⟩, refused⟩
    split_ifs at refused with beyond
    · cases refused
      exact ⟨rfl, rfl, word, rest, position, rfl, placed, beyond, rfl⟩
    · exact absurd refused run_pure_ne_error
  · rintro ⟨rfl, rfl, word, rest, position, rfl, placed, beyond, rfl⟩
    refine ⟨position, rest, ⟨word, rfl, placed⟩, ?_⟩
    rw [if_pos beyond]
    rfl

theorem readFace_eq_stray (small : count ≤ indexSize) :
    (readFace count face).run words = .error (.vertexOutOfRange f i c) ↔
      f = face ∧ c = count ∧ ∃ position, StrayFace count words position ∧ i = narrow position := by
  simp only [readFace, run_bind_eq_error, readCount_ne_stray, false_or, readCount_eq_ok,
    readItems_eq_error (fun _ => reads_corner small face), readCorner_eq_stray]
  constructor
  · rintro ⟨total, _, ⟨size, rfl, sized⟩, front, corners, _, rfl, listed, further, rfl, rfl, word,
      rest, position, rfl, placed, beyond, rfl⟩
    exact ⟨rfl, rfl, position, .loop sized listed further placed beyond, rfl⟩
  · rintro ⟨rfl, rfl, position, ⟨sized, listed, further, placed, beyond⟩, rfl⟩
    exact ⟨_, _, ⟨_, rfl, sized⟩, _, _, _, rfl, listed, further, rfl, rfl, _, _, position, rfl,
      placed, beyond, rfl⟩

theorem readBody_eq_stray :
    readBody.run words = .error (.vertexOutOfRange face index count) ↔
      ∃ position, StrayText (['O', 'F', 'F'] :: words) face position count ∧
        index = narrow position := by
  simp only [readBody, run_bind_eq_error, readCount_ne_stray, false_or, readCount_eq_ok]
  constructor
  · rintro ⟨vertexCount, _, ⟨_, rfl, counted⟩, faceCount, _, ⟨_, rfl, looped⟩, _, _,
      ⟨_, rfl, edged⟩, refused⟩
    split_ifs at refused with above
    · cases refused
    · have small : vertexCount ≤ indexSize := (Nat.lt_of_not_le above).le
      simp only [run_bind_eq_error, readItems_eq_error (fun _ => reads_vertex),
        readItems_eq_error (reads_face small), readVertex_ne_stray, and_false, exists_false,
        false_or, run_pure_ne_error, or_false, reads_items (fun _ => reads_vertex) 0 _ _,
        readFace_eq_stray small] at refused
      obtain ⟨vertices, _, ⟨points, rfl, rfl, placed⟩, loops, faces, rest, rfl, joined, further,
        rfl, rfl, position, stray, rfl⟩ := refused
      rw [Nat.zero_add]
      exact ⟨position, .document counted (Nat.lt_of_not_le above) looped edged placed joined further
        stray, rfl⟩
  · rintro ⟨position, h, rfl⟩
    cases h with
    | @document _ _ _ total _ _ vertices faces _ _ _ counted indexed looped edged placed joined
        further stray =>
      have small : vertices.length ≤ indexSize := indexed.le
      have fits : ¬indexSize ≤ vertices.length := Nat.not_le.mpr indexed
      refine ⟨_, _, ⟨_, rfl, counted⟩, _, _, ⟨_, rfl, looped⟩, _, _, ⟨_, rfl, edged⟩, ?_⟩
      rw [if_neg fits]
      simp only [run_bind_eq_error, readItems_eq_error (reads_face small),
        reads_items (fun _ => reads_vertex) 0 _ _, readFace_eq_stray small]
      exact .inr ⟨vertices, _, ⟨_, rfl, rfl, placed⟩, .inl ⟨_, faces, _, rfl, joined, further,
        (Nat.zero_add _).symm, trivial, position, stray, rfl⟩⟩

theorem run'_eq_error {reader : Reader α} :
    reader.run' words = .error fault ↔ reader.run words = .error fault := by
  have first : reader.run' words = (reader.run words).map (·.1) := rfl
  rw [first]
  cases reader.run words <;> simp [Except.map]

end Off

namespace Polyhedron

open Off

variable {text : List Char} {face index count position : Nat}

theorem ofOff_eq_stray : ofOff text = .error (.vertexOutOfRange face index count) ↔
    ∃ position, StrayText (Off.words text) face position count ∧ index = narrow position := by
  rw [ofOff]
  cases Off.words text with
  | nil =>
    constructor
    · rintro ⟨⟩
    · rintro ⟨_, ⟨⟩, _⟩
  | cons header rest =>
    dsimp only
    split_ifs with named
    · subst named
      rw [← readBody_eq_stray, ← run'_eq_error]
      cases readBody.run' rest <;> simp [Except.map]
    · constructor
      · rintro ⟨⟩
      · rintro ⟨_, ⟨⟩, _⟩
        exact absurd rfl named

theorem beyond_of_strayText {words : Words} (h : StrayText words face position count) :
    count ≤ position := by
  cases h with
  | document _ _ _ _ _ _ _ stray =>
    cases stray with
    | loop _ _ _ _ beyond => exact beyond

/-- A document is refused for a corner if and only if it is one up to a corner beyond its vertices.
The face and the number of vertices are then those of the document; the position is the one in the
document exactly if it fits into 32 bits, and is cut down to them otherwise. -/
theorem ofOff_refuses_stray (text : List Char) :
    let words := (text.splitOnP (· = '\n')).flatMap fun line =>
      ((line.takeWhile (· ≠ '#')).splitOnP Text.isBlank).filter (· ≠ [])
    (∀ face index count, ofOff text = .error (.vertexOutOfRange face index count) ↔
      ∃ position, StrayText words face position count ∧ index = position % 2 ^ 32) ∧
    ∀ face position count, StrayText words face position count → count ≤ position ∧
      (ofOff text = .error (.vertexOutOfRange face position count) ↔ position < 2 ^ 32) := by
  intro words
  have same : Off.words text = words := words_eq text
  rw [← same]
  refine ⟨fun face index count => ofOff_eq_stray, fun face position count stray =>
    ⟨beyond_of_strayText stray, ?_⟩⟩
  constructor
  · intro refused
    obtain ⟨written, -, cut⟩ := ofOff_eq_stray.mp refused
    rw [cut]
    exact Nat.mod_lt written (by decide)
  · intro fits
    exact ofOff_eq_stray.mpr ⟨position, stray, (Nat.mod_eq_of_lt fits).symm⟩

/-- The first face is in order, the second is cut short at its second corner; the word behind is not
looked at. -/
theorem ofOff_refuses_stray_second_face :
    let text := "OFF\n1 2 0 # 9\n0 0 0\n1 0\n3 00 +7 x\n".toList
    StrayText (Off.words text) 1 7 1 ∧ 7 < 2 ^ 32 ∧
      ofOff text = .error (.vertexOutOfRange 1 7 1) := by
  intro text
  have words : Off.words text = ["OFF".toList, ['1'], ['2'], ['0'], ['0'], ['0'], ['0'], ['1'],
      ['0'], ['3'], ['0', '0'], ['+', '7'], ['x']] := by decide +kernel
  let zero := Number.ofRank false 0
  have coordinate : Number.DoubleText ['0'] zero := Number.readDouble_eq_some_iff.mp rfl
  have origin : VertexText [['0'], ['0'], ['0']] ⟨zero, zero, zero⟩ :=
    .coordinates coordinate coordinate coordinate
  have placed : Listing VertexText [['0'], ['0'], ['0']] [⟨zero, zero, zero⟩] := .cons origin .nil
  have count {word : List Char} {n : Nat} (read : Number.readCount word = some n) :
      Number.CountText word n := Number.readCount_eq_some_iff.mp read
  have first : CornerText 1 [['0']] 0 := .position (count rfl) Nat.one_pos
  have face : FaceText 1 [['1'], ['0']] [0] := .loop (count rfl) (.cons first .nil)
  have joined : Listing (FaceText 1) [['1'], ['0']] [[0]] := .cons face .nil
  have second : CornerText 1 [['0', '0']] 0 := .position (count rfl) Nat.one_pos
  have listed : Listing (CornerText 1) [['0', '0']] [0] := .cons second .nil
  have three : Number.CountText ['3'] 3 := count rfl
  have stray : StrayFace 1 [['3'], ['0', '0'], ['+', '7'], ['x']] 7 :=
    .loop three listed (by decide) (count rfl) (by decide)
  have two : Number.CountText ['2'] 2 := count rfl
  have none : Number.CountText ['0'] 0 := count rfl
  have written : StrayText (Off.words text) 1 7 1 := by
    rw [words]
    exact .document (count rfl) (by decide) two none placed joined (by decide) stray
  obtain ⟨-, told⟩ := ofOff_refuses_stray text
  rw [← words_eq] at told
  have fits : 7 < 2 ^ 32 := by decide
  exact ⟨written, fits, (told 1 7 1 written).2.mpr fits⟩

/-- A corner at the position `2 ^ 32` is called vertex 0, which is there. -/
theorem ofOff_cuts_position :
    let text := "OFF\n1 1 0\n0 0 0\n1 4294967296\n".toList
    let fault : OffFault := .vertexOutOfRange 0 0 1
    ofOff text = .error fault ∧ ¬ StrayText (Off.words text) 0 0 1 ∧ 0 < 1 ∧
      fault.message = "face 0 refers to vertex 0, but there are only 1 vertices" := by
  intro text fault
  have refused : ofOff text = .error fault := by decide +kernel
  have within : ¬ StrayText (Off.words text) 0 0 1 :=
    fun stray => absurd (beyond_of_strayText stray) (by decide)
  exact ⟨refused, within, Nat.one_pos, rfl⟩

end Polyhedron

end SolidStudy
