import Mathlib
import SolidStudy.Proofs.Json.Document
import SolidStudy.Proofs.Report.Reached

/-! The JSON form of a report. It tells everything about the report but which double it was that is
not finite: infinities and no number all become null. -/
namespace SolidStudy

open Json (Document)
open Number (rankOf infinityRank notANumber)

/-- Functions that tell the same apart tell the same lists apart. -/
theorem map_eq_map_iff {α β γ : Type} {f : α → β} {g : α → γ}
    (h : ∀ a b, f a = f b ↔ g a = g b) (l l' : List α) :
    l.map f = l'.map f ↔ l.map g = l'.map g := by
  induction l generalizing l' with
  | nil => simp [List.map_eq_nil_iff, eq_comm]
  | cons a l ih =>
    cases l' with
    | nil => simp
    | cons b l' => simp [h, ih]

theorem SolidSize.document_injective : Function.Injective SolidSize.document := by
  rintro ⟨vertices, faces⟩ ⟨vertices', faces'⟩ same
  simpa [document] using same

@[simp] theorem SolidSize.kept_document (size : SolidSize) : size.document.kept = size.document :=
  rfl

theorem SolidSize.orNull_document_injective :
    Function.Injective (Document.orNull SolidSize.document) :=
  Document.orNull_injective document_injective fun _ => by simp [document]

def MeshRow.keptLimit (limit : Option Float) : Option Float :=
  limit.filter fun x => rankOf x < infinityRank

theorem MeshRow.keptLimit_eq_iff {limit limit' : Option Float} :
    keptLimit limit = keptLimit limit' ↔
      (Document.orNull .real limit).kept = (Document.orNull .real limit').kept := by
  have kept (limit : Option Float) :
      (Document.orNull .real limit).kept = Document.orNull .real (keptLimit limit) := by
    cases limit with
    | none => rfl
    | some x =>
      rw [Document.orNull, Document.kept_real, keptLimit, Option.filter_some]
      by_cases finite : rankOf x < infinityRank <;> simp [finite, Document.orNull]
  have real : Function.Injective (Document.orNull Document.real) :=
    Document.orNull_injective (fun x y same => Document.real.inj same) fun _ => by simp
  rw [kept, kept, real.eq_iff]

def MeshRow.kept (row : MeshRow) : MeshRow := { row with volumeLimit := keptLimit row.volumeLimit }

theorem MeshRow.kept_eq_iff (row row' : MeshRow) :
    row.document.kept = row'.document.kept ↔ row.kept = row'.kept := by
  simp [document, kept, keptLimit_eq_iff, Document.kept_orNull SolidSize.document,
    SolidSize.orNull_document_injective.eq_iff]

theorem ObjectKind.title_injective : Function.Injective ObjectKind.title := by
  intro kind kind' same
  cases kind <;> cases kind' <;> simp [title] at same ⊢

theorem SelectionRow.kept_document (row : SelectionRow) : row.document.kept = row.document := by
  simp [document, Document.kept_orNull]

theorem SelectionRow.document_injective : Function.Injective SelectionRow.document := by
  intro row row' same
  cases row
  cases row'
  simpa [document, ObjectKind.title_injective.eq_iff,
    SolidSize.orNull_document_injective.eq_iff] using same

def LoadRow.kept (row : LoadRow) : LoadRow :=
  { row with force := ⟨Number.kept row.force.x, Number.kept row.force.y, Number.kept row.force.z⟩ }

theorem LoadRow.kept_eq_iff (row row' : LoadRow) :
    row.document.kept = row'.document.kept ↔ row.kept = row'.kept := by
  simp [document, kept, ObjectKind.name_injective.eq_iff]

/-- A report as far as JSON keeps it. -/
def Report.kept (r : Report) : Report := { r with
  meshes := r.meshes.map MeshRow.kept
  loads := r.loads.map LoadRow.kept
  scale := Number.kept r.scale }

theorem Report.json_eq_iff (r r' : Report) : r.json = r'.json ↔ r.kept = r'.kept := by
  have units : Function.Injective (Document.orNull fun s => Document.text s) :=
    Document.orNull_injective (fun _ _ same => Document.text.inj same) fun _ => by simp
  have selections : Function.Injective (Document.kept ∘ SelectionRow.document) := by
    rw [show Document.kept ∘ SelectionRow.document = SelectionRow.document from
      funext SelectionRow.kept_document]
    exact SelectionRow.document_injective
  have meshes := map_eq_map_iff (f := Document.kept ∘ MeshRow.document) MeshRow.kept_eq_iff
    r.meshes r'.meshes
  have loads := map_eq_map_iff (f := Document.kept ∘ LoadRow.document) LoadRow.kept_eq_iff
    r.loads r'.loads
  rw [json, json, Document.indented_eq_iff]
  simp only [document, kept, Document.kept_object, Document.kept_list, Document.kept_text,
    Document.kept_real_inj, List.map_map, List.map_cons, List.map_nil,
    Document.kept_orNull Document.text, Document.object.injEq, Document.list.injEq,
    Document.text.injEq, List.cons.injEq, Prod.mk.injEq, mk.injEq, true_and, and_true,
    Progress.name_injective.eq_iff, units.eq_iff,
    Document.kept_comp_text_injective.list_map.eq_iff, meshes, (selections.list_map).eq_iff, loads]

/-- The double is read back from what JSON has for it. -/
def Json.ReadsBack (x : Float) : Prop :=
  Number.readDouble (writeReal x) = some x

theorem Json.readsBack_iff {x : Float} : ReadsBack x ↔ rankOf x < infinityRank := by
  constructor
  · intro back
    by_contra infinite
    rw [ReadsBack, writeReal_of_not_finite infinite] at back
    have none : Number.readDouble ['n', 'u', 'l', 'l'] = none := rfl
    simp [none] at back
  · exact readDouble_writeReal

namespace Study

variable {source outputDir : String} {study : Study} {events : List Job.Event}

/-- The JSON form of a report tells all that is kept of it. The force of a load is what a statement
of the answer gives that the study was taken from, and it is read back exactly if it is finite. -/
theorem report_json_tells (chronicle : Chronicle source outputDir events study) :
    (∀ other : Study, study.report.json = other.report.json ↔
      study.report.kept = other.report.kept) ∧
    ∀ row ∈ study.report.loads, ∃ evaluation statement force,
      TakenFrom source outputDir events evaluation study ∧ statement ∈ evaluation.statements ∧
        Directive.Declares statement (.load row.name row.target force) ∧
        row.kind = .volume ∧ row.force = ⟨0, 0, force⟩ ∧
        (Json.ReadsBack row.force.x ∧ Json.ReadsBack row.force.y ∧ Json.ReadsBack row.force.z ↔
          rankOf force < infinityRank) := by
  refine ⟨fun other => study.report.json_eq_iff other.report, fun row listed => ?_⟩
  obtain ⟨statements, ds, declared, origin⟩ := chronicle.transcribes
  obtain ⟨⟨name, load⟩, entry, rfl⟩ := List.mem_map.mp listed
  obtain ⟨target, force, given, rfl⟩ :=
    declared.exists_load ((Table.get?_eq_some_iff _).mpr entry)
  obtain ⟨statement, written, declares⟩ := Directive.exists_statement declared.written given
  obtain ⟨evaluation, taken, among⟩ := origin statement written
  have zero : Json.ReadsBack 0 := Json.readsBack_iff.mpr (by decide)
  refine ⟨evaluation, statement, force, taken, among, declares, rfl, rfl, ?_⟩
  simp only [LoadRow.of, zero, true_and, Json.readsBack_iff]

def loaded (force : Float) : Study := { new "part.scad" "/tmp" with
  progress := .inventoryDone
  deck := ["*STATIC"]
  units := some ⟨⟨"mm", .length, 1e-3⟩, ⟨"t", .mass, 1e3⟩, ⟨"s", .time, 1⟩⟩
  meshes := ⟨[("block", ⟨.automatic, none⟩)], List.pairwise_singleton _ _⟩
  loads := ⟨[("push", .onVolume "block" ⟨0, 0, force⟩)], List.pairwise_singleton _ _⟩ }

def loadedStatements (force : Float) : List Statement :=
  [Directive.analysis ["*STATIC"] ["mm", "t", "s"], Directive.mesh "block",
    Directive.load [.text "push", .text "block", .number force]]

def loadedEvents (force : Float) : List Job.Event :=
  let fresh := new "part.scad" "/tmp"
  [.shown fresh false, .logged Stage.inventory.announcement,
    .asked fresh.inventoryInvocation (.ok ⟨none, [], loadedStatements force⟩),
    .shown (loaded force) false, .logged Stage.closing]

theorem chronicle_loaded (force : Float) :
    Chronicle "part.scad" "/tmp" (loadedEvents force) (loaded force) := by
  have taken : Job.Runs ((new "part.scad" "/tmp").run .inventoryDone) (loadedEvents force)
      ⟨loaded force, .ok ()⟩ :=
    .checkpoint false (.log (.ask _ (.checkpoint false (.log (.done _)))))
  exact Chronicle.fresh.run _ taken (by simp [Job.Event.Short, loadedEvents, loadedStatements])

theorem exists_history_loaded (force : Float) :
    ∃ seen, History "part.scad" "/tmp" seen (loaded force) :=
  (chronicle_loaded force).history

theorem report_json_tells_loaded :
    Chronicle "part.scad" "/tmp" (loadedEvents 5) (loaded 5) ∧
      (∀ other : Study, (loaded 5).report.json = other.report.json ↔
        (loaded 5).report.kept = other.report.kept) ∧
      ∀ row ∈ (loaded 5).report.loads, ∃ evaluation statement force,
        TakenFrom "part.scad" "/tmp" (loadedEvents 5) evaluation (loaded 5) ∧
          statement ∈ evaluation.statements ∧
          Directive.Declares statement (.load row.name row.target force) ∧
          row.kind = .volume ∧ row.force = ⟨0, 0, force⟩ ∧
          (Json.ReadsBack row.force.x ∧ Json.ReadsBack row.force.y ∧ Json.ReadsBack row.force.z ↔
            rankOf force < infinityRank) :=
  ⟨chronicle_loaded 5, report_json_tells (chronicle_loaded 5)⟩

/-- Infinite forces of both signs can be given for a load, and the two reports have the same JSON
form. -/
theorem report_json_infinities :
    let written (force : List Char) : List Char :=
      "\"__openscad2calculix\", \"load_volume_directive\", \"push\", \"block\", ".toList ++ force
    let given (force : Float) : Statement :=
      Directive.load [.text "push", .text "block", .number force]
    let negativeInfinity := Number.ofRank true infinityRank
    Statement.read (written ['i', 'n', 'f']) = .ok (given Number.infinity) ∧
      Statement.read (written ['-', 'i', 'n', 'f']) = .ok (given negativeInfinity) ∧
      (∃ seen, History "part.scad" "/tmp" seen (loaded Number.infinity)) ∧
      (∃ seen, History "part.scad" "/tmp" seen (loaded negativeInfinity)) ∧
      (loaded Number.infinity).report ≠ (loaded negativeInfinity).report ∧
      (loaded Number.infinity).report.json = (loaded negativeInfinity).report.json ∧
      ¬ Json.ReadsBack Number.infinity := by
  intro written given negativeInfinity
  have different : (loaded Number.infinity).report ≠ (loaded negativeInfinity).report := by
    intro same
    exact absurd (congrArg (·.loads) same) (by decide)
  have loads : (loaded Number.infinity).report.loads.map LoadRow.kept =
      (loaded negativeInfinity).report.loads.map LoadRow.kept := by decide
  have kept : (loaded Number.infinity).report.kept = (loaded negativeInfinity).report.kept := by
    rw [Report.kept, loads]
    rfl
  have infinite : ¬ rankOf Number.infinity < infinityRank := by decide
  exact ⟨rfl, rfl, exists_history_loaded _, exists_history_loaded _, different,
    (Report.json_eq_iff _ _).mpr kept, fun back => infinite (Json.readsBack_iff.mp back)⟩

end Study

end SolidStudy
