import Mathlib
import SolidStudy.Proofs.Extraction.Confinement
import SolidStudy.Proofs.Polyhedron.Hull
import SolidStudy.Proofs.Report.Text
import SolidStudy.Proofs.Run.Milestones

/-! The reports of studies that runs lead to. Such a report has one row for each object, and its
text tells everything about it. -/
namespace SolidStudy

def Report.objects (r : Report) : List (ObjectKind × String) :=
  r.meshes.map (fun row => (.mesh, row.name)) ++
    r.selections.map (fun row => (row.kind, row.name)) ++
      r.loads.map (fun row => (.load, row.name))

theorem LoadRow.name_of (name : String) (load : Load) : (of name load).name = name := by
  cases load <;> rfl

theorem LoadRow.target_of (name : String) (load : Load) : (of name load).target = load.target := by
  cases load <;> rfl

namespace Study

variable {source outputDir source' outputDir' : String} {study study' next : Study}
  {seen seen' : List Study} {ds : List Declaration} {kind : ObjectKind} {name : String}

/-- A report says of a study what is to be said: it has one row for each object, which shows that
object, and selections in the order of their bits. -/
structure Tabulated (study : Study) (r : Report) : Prop where
  source : r.source = study.source
  progress : r.progress = study.progress
  units : r.units = study.units.map UnitSystem.render
  deck : r.deck = study.deck
  scale : r.scale = study.scale
  once : r.objects.Nodup
  complete : ∀ kind name, (kind, name) ∈ r.objects ↔ study.holds kind name = true
  meshes : ∀ row ∈ r.meshes, ∃ mesh, study.meshes.get? row.name = some mesh ∧
    mesh.fineness = row.volumeLimit.elim .automatic .volumeAtMost ∧
    row.solid = mesh.solid.map fun solid => ⟨solid.vertices.length, solid.faces.length⟩
  selections : ∀ row ∈ r.selections,
    (study.bit? row.kind row.name).map UInt32.toNat = some row.bit ∧
      row.mask = (study.solid? row.kind row.name).map
        fun mask => ⟨mask.vertices.length, mask.faces.length⟩
  increasing : r.selections.Pairwise fun a b => a.bit < b.bit
  loads : ∀ row ∈ r.loads,
    row.kind = .volume ∧ study.loads.get? row.name = some (.onVolume row.target row.force) ∨
      row.kind = .surface ∧ study.loads.get? row.name = some (.onSurface row.target row.force)

theorem objects_perm (study : Study) : study.report.objects.Perm
    (study.meshes.names.map (.mesh, ·) ++ (study.volumes.names.map (.volume, ·) ++
      study.surfaces.names.map (.surface, ·)) ++ study.loads.names.map (.load, ·)) := by
  have selections : (study.report.selections.map fun row => (row.kind, row.name)).Perm
      (study.volumes.names.map (.volume, ·) ++ study.surfaces.names.map (.surface, ·)) := by
    have perm := study.selections_perm.map fun s => (s.kind, s.name)
    simpa [report, SelectionRow.of, unsorted, Table.names, Function.comp_def] using perm
  have meshes : (study.report.meshes.map fun row => (ObjectKind.mesh, row.name)) =
      study.meshes.names.map (.mesh, ·) := by
    simp [report, MeshRow.of, Table.names, Function.comp_def]
  have loads : (study.report.loads.map fun row => (ObjectKind.load, row.name)) =
      study.loads.names.map (.load, ·) := by
    simp [report, LoadRow.name_of, Table.names, Function.comp_def]
  rw [Report.objects, meshes, loads]
  exact (selections.append_left _).append_right _

theorem objects_nodup (study : Study) : study.report.objects.Nodup := by
  rw [study.objects_perm.nodup_iff]
  have each {α : Type} (t : Table α) (kind : ObjectKind) : (t.names.map (kind, ·)).Nodup :=
    kind.nodup_names t.names_nodup
  simp [List.nodup_append', List.disjoint_append_right, each, ObjectKind.disjoint_names]

theorem mem_objects_iff : (kind, name) ∈ study.report.objects ↔ study.holds kind name = true := by
  rw [study.objects_perm.mem_iff]
  cases kind <;> simp [holds, Table.mem_names_iff]

theorem tabulated (distinct : study.bits.Nodup) : study.Tabulated study.report where
  source := rfl
  progress := rfl
  units := rfl
  deck := rfl
  scale := rfl
  once := study.objects_nodup
  complete _ _ := mem_objects_iff
  meshes row listed := by
    obtain ⟨⟨name, mesh⟩, entry, rfl⟩ := List.mem_map.mp listed
    refine ⟨mesh, (Table.get?_eq_some_iff _).mpr entry, ?_, rfl⟩
    obtain ⟨fineness, solid⟩ := mesh
    cases fineness <;> rfl
  selections row listed := by
    obtain ⟨s, member, rfl⟩ := List.mem_map.mp listed
    rcases mem_unsorted_iff.mp (study.selections_perm.mem_iff.mp member) with
      ⟨name, o, found, rfl⟩ | ⟨name, o, found, rfl⟩
    all_goals
      simp only [SelectionRow.of, bit?, solid?, found, Option.map_some, Option.bind_some, true_and]
      rfl
  increasing := by
    have bits : (study.selections.map (·.bit.toNat)).Nodup := by
      rw [bits_eq] at distinct
      exact (study.selections_perm.map _).nodup_iff.mpr distinct
    have ordered := study.selections_sorted.and (List.pairwise_map.mp bits)
    rw [report, List.pairwise_map]
    exact ordered.imp fun {a b} h => lt_of_le_of_ne (UInt32.le_iff_toNat_le.mp h.1) h.2
  loads row listed := by
    obtain ⟨⟨name, load⟩, entry, rfl⟩ := List.mem_map.mp listed
    have found := (Table.get?_eq_some_iff _).mpr entry
    cases load with
    | onVolume => exact .inl ⟨rfl, found⟩
    | onSurface => exact .inr ⟨rfl, found⟩

/-- Two studies that are alike in all that is reported about them. -/
structure SameFacts (study other : Study) : Prop where
  source : study.source = other.source
  progress : study.progress = other.progress
  units : study.units = other.units
  deck : study.deck = other.deck
  names : ∀ kind name, study.holds kind name = other.holds kind name
  fineness : ∀ name,
    (study.meshes.get? name).map (·.fineness) = (other.meshes.get? name).map (·.fineness)
  sizes : ∀ kind name,
    (study.solid? kind name).map (fun s => SolidSize.mk s.vertices.length s.faces.length) =
      (other.solid? kind name).map fun s => ⟨s.vertices.length, s.faces.length⟩
  bits : ∀ kind name, study.bit? kind name = other.bit? kind name
  loads : study.loads = other.loads
  scale : study.scale = other.scale

theorem solid?_of_not_holds (absent : study.holds kind name = false) :
    study.solid? kind name = none := by
  by_contra known
  have held := (holds_of_solid? (Option.isSome_iff_ne_none.mpr known)).2
  rw [absent] at held
  cases held

theorem bit?_of_not_holds (absent : study.holds kind name = false) :
    study.bit? kind name = none := by
  cases kind with
  | volume | surface => simp [bit?, (Table.not_contains_iff _).mp absent]
  | mesh | load => rfl

namespace Tabulated

variable {other : Study} {r : Report}

theorem selected (h : study.Tabulated r) {row : SelectionRow} (member : row ∈ r.selections) :
    row.kind = .volume ∨ row.kind = .surface := by
  obtain ⟨bit, -⟩ := h.selections row member
  cases kind : row.kind with
  | volume | surface => simp
  | mesh | load => simp [bit?, kind] at bit

theorem size_eq (h : study.Tabulated r) {row : MeshRow} (member : row ∈ r.meshes) :
    (study.solid? .mesh row.name).map (fun s => ⟨s.vertices.length, s.faces.length⟩) =
      row.solid := by
  obtain ⟨mesh, found, -, size⟩ := h.meshes row member
  rw [size, solid?, found, Option.bind_some]

variable (h : study.Tabulated r) (h' : other.Tabulated r)
include h h'

theorem names_eq (kind : ObjectKind) (name : String) :
    study.holds kind name = other.holds kind name :=
  Bool.eq_iff_iff.mpr ((h.complete kind name).symm.trans (h'.complete kind name))

/-- An object is in neither study, or the report has a row for it. -/
theorem absent_or_row (kind : ObjectKind) (name : String) :
    (study.holds kind name = false ∧ other.holds kind name = false) ∨
      (kind = .mesh ∧ ∃ row ∈ r.meshes, row.name = name) ∨
      ((kind = .volume ∨ kind = .surface) ∧ ∃ row ∈ r.selections, row.kind = kind ∧
        row.name = name) ∨
      kind = .load ∧ ∃ row ∈ r.loads, row.name = name := by
  cases held : study.holds kind name with
  | false => exact .inl ⟨rfl, h.names_eq h' kind name ▸ held⟩
  | true =>
    have listed := (h.complete kind name).mpr held
    simp only [Report.objects, List.mem_append, List.mem_map, Prod.mk.injEq] at listed
    rcases listed with
      (⟨row, member, rfl, rfl⟩ | ⟨row, member, rfl, rfl⟩) | ⟨row, member, rfl, rfl⟩
    · exact .inr (.inl ⟨rfl, row, member, rfl⟩)
    · exact .inr (.inr (.inl ⟨h.selected member, row, member, rfl, rfl⟩))
    · exact .inr (.inr (.inr ⟨rfl, row, member, rfl⟩))

theorem fineness_eq (name : String) :
    (study.meshes.get? name).map (·.fineness) = (other.meshes.get? name).map (·.fineness) := by
  rcases h.absent_or_row h' .mesh name with
    ⟨absent, absent'⟩ | ⟨-, row, member, rfl⟩ | ⟨kind | kind, -⟩ | ⟨kind, -⟩
  · rw [(Table.not_contains_iff _).mp absent, (Table.not_contains_iff _).mp absent']
  · obtain ⟨mesh, found, fine, -⟩ := h.meshes row member
    obtain ⟨mesh', found', fine', -⟩ := h'.meshes row member
    rw [found, found', Option.map_some, Option.map_some, fine, fine']
  all_goals cases kind

theorem sizes_eq (kind : ObjectKind) (name : String) :
    (study.solid? kind name).map (fun s => SolidSize.mk s.vertices.length s.faces.length) =
      (other.solid? kind name).map fun s => ⟨s.vertices.length, s.faces.length⟩ := by
  rcases h.absent_or_row h' kind name with
    ⟨absent, absent'⟩ | ⟨rfl, row, member, rfl⟩ | ⟨-, row, member, rfl, rfl⟩ | ⟨rfl, -⟩
  · rw [solid?_of_not_holds absent, solid?_of_not_holds absent', Option.map_none]
  · exact (h.size_eq member).trans (h'.size_eq member).symm
  · exact (h.selections row member).2.symm.trans (h'.selections row member).2
  · rfl

theorem bits_eq (kind : ObjectKind) (name : String) :
    study.bit? kind name = other.bit? kind name := by
  rcases h.absent_or_row h' kind name with
    ⟨absent, absent'⟩ | ⟨rfl, -⟩ | ⟨-, row, member, rfl, rfl⟩ | ⟨rfl, -⟩
  · rw [bit?_of_not_holds absent, bit?_of_not_holds absent']
  · rfl
  · have numbers := (h.selections row member).1.trans (h'.selections row member).1.symm
    exact Option.map_injective (fun _ _ => UInt32.toNat_inj.mp) numbers
  · rfl

theorem loads_eq : study.loads = other.loads := by
  refine Table.ext_get? fun name => ?_
  rcases h.absent_or_row h' .load name with
    ⟨absent, absent'⟩ | ⟨kind, -⟩ | ⟨kind | kind, -⟩ | ⟨-, row, member, rfl⟩
  · rw [(Table.not_contains_iff _).mp absent, (Table.not_contains_iff _).mp absent']
  · cases kind
  · cases kind
  · cases kind
  · rcases h.loads row member with ⟨volume, found⟩ | ⟨surface, found⟩ <;>
      rcases h'.loads row member with ⟨volume', found'⟩ | ⟨surface', found'⟩
    · rw [found, found']
    · cases volume.symm.trans surface'
    · cases surface.symm.trans volume'
    · rw [found, found']

theorem sameFacts (units : study.units = other.units) : study.SameFacts other where
  source := h.source.symm.trans h'.source
  progress := h.progress.symm.trans h'.progress
  units := units
  deck := h.deck.symm.trans h'.deck
  names := h.names_eq h'
  fineness := h.fineness_eq h'
  sizes := h.sizes_eq h'
  bits := h.bits_eq h'
  loads := h.loads_eq h'
  scale := h.scale.symm.trans h'.scale

end Tabulated

/-- A study that declares what written directives say, one after another. -/
structure Transcribes (source outputDir : String) (statements : List Statement)
    (ds : List Declaration) (study : Study) : Prop where
  written : List.Forall₂ Directive.Declares statements ds
  few : (Declaration.selections ds).length < 2 ^ 32 - 1
  admitted : (new source outputDir).AdmitsAll ds
  outline : study.outline = ((new source outputDir).recordAll ds).outline

namespace Transcribes

variable {statements : List Statement} (h : Transcribes source outputDir statements ds study)
include h

theorem bits_nodup : study.bits.Nodup := by
  have count : (Declaration.selections ds).length =
      (ds.filterMap Declaration.selected?).length := by
    simpa using congrArg List.length (Declaration.selections_map_selected? ds)
  have perm := (records_recordAll h.admitted).bits_perm (count ▸ h.few)
  rw [← bits_outline, h.outline, bits_outline, perm.nodup_iff]
  exact List.nodup_range'

theorem known {units : UnitSystem} (given : study.units = some units) : units.Known := by
  have records := records_recordAll h.admitted
  have same : study.units = ((new source outputDir).recordAll ds).units :=
    congrArg (·.units) h.outline
  by_cases analysed : ∃ d ∈ ds, d.isAnalysis = true
  · obtain ⟨d, listed, analysis⟩ := analysed
    cases d with
    | analysis deck declared =>
      rw [same, (records.analysed deck declared listed).2, Option.some.injEq] at given
      exact given ▸ (Directive.analysis_written h.written listed).2
    | _ => contradiction
  · have none := (records.unanalysed fun d listed => by simp_all).2
    simp [same, none] at given

theorem units_inj {statements' : List Statement} {ds' : List Declaration} {other : Study}
    (h' : Transcribes source' outputDir' statements' ds' other)
    (shown : study.units.map UnitSystem.render = other.units.map UnitSystem.render) :
    study.units = other.units := by
  rcases given : study.units with _ | units <;> rcases given' : other.units with _ | units' <;>
    simp only [given, given', Option.map_none, Option.map_some, reduceCtorEq,
      Option.some.injEq] at shown
  · rfl
  · rw [UnitSystem.render_inj (h.known given) (h'.known given') shown]

theorem exists_load {load : Load} (found : study.loads.get? name = some load) :
    ∃ target force, .load name target force ∈ ds ∧ load = .onVolume target ⟨0, 0, force⟩ := by
  rwa [loads_of_outline h.outline, (records_recordAll h.admitted).loads] at found

theorem plain_target {load : Load} (found : study.loads.get? name = some load) :
    PlainName load.target := by
  have plain {d : Declaration} (listed : d ∈ ds) {kind : ObjectKind}
      (declared : d.declared? = some (kind, load.target)) : PlainName load.target := by
    obtain ⟨statement, -, declares⟩ := Directive.exists_statement h.written listed
    exact declares.plainName declared
  obtain ⟨target, force, declared, rfl⟩ := h.exists_load found
  obtain ⟨earlier, later, rfl⟩ := List.append_of_mem declared
  rcases (admitsAll_iff.mp h.admitted).targets earlier name target force later rfl with
    mesh | volume
  · exact plain (List.mem_append_left _ mesh) rfl
  · exact plain (List.mem_append_left _ volume) rfl

end Transcribes

/-- The answer that a study was taken from: the evaluator gave it when it was asked for the
inventory, and a new study accepts it. -/
structure TakenFrom (source outputDir : String) (events : List Job.Event)
    (evaluation : Evaluation) (study : Study) : Prop where
  answered : .asked (new source outputDir).inventoryInvocation (.ok evaluation) ∈ events
  accepted : ∃ declared, (new source outputDir).declareAll evaluation.statements = .ok declared ∧
    study.outline = declared.outline

theorem Chronicle.transcribes {events : List Job.Event}
    (chronicle : Chronicle source outputDir events study) :
    ∃ statements ds, Transcribes source outputDir statements ds study ∧
      ∀ statement ∈ statements, ∃ evaluation,
        TakenFrom source outputDir events evaluation study ∧
          statement ∈ evaluation.statements := by
  rcases chronicle.inventory with same | ⟨evaluation, declared, asked, accepted, same⟩
  · exact ⟨[], [], ⟨.nil, by decide, trivial, same⟩, by simp⟩
  · obtain ⟨ds, written, admitted, rfl, -⟩ := declareAll_eq_recordAll accepted
    have short : evaluation.statements.length < 2 ^ 32 - 1 := chronicle.short _ asked
    refine ⟨_, ds, ⟨written, selections_lt written short, admitted, same⟩, fun statement h => ?_⟩
    exact ⟨evaluation, ⟨asked, _, accepted, same⟩, (List.mem_filter.mp h).1⟩

/-- What holds of every study that runs show. -/
structure Attested (source outputDir : String) (study : Study) : Prop extends
    Milestones source outputDir study where
  scaled : study.scale = 0 ∨ study.scale > 0

theorem Attested.advances (step : Advances study next) (h : Attested source outputDir study) :
    Attested source outputDir next where
  toMilestones := h.toMilestones.advances step
  scaled := by
    have milestones := h.toMilestones.advances step
    cases step with
    | marked => exact h.scaled
    | inventory due short gets =>
      obtain ⟨_, declared, -, -, -, rfl⟩ := takeInventory_gets_iff.mp gets
      exact .inl (milestones.unrealized rfl).2
    | objects due gets =>
      obtain ⟨solids, -, -, rfl⟩ := realizeObjects_gets_iff.mp gets
      exact largestScale_nonneg (study.fill solids)

theorem History.attested (history : History source outputDir seen study) :
    Attested source outputDir study :=
  history.forall_seen ⟨milestones_new source outputDir, .inl rfl⟩ (fun _ _ => Attested.advances)
    study history.study_mem

theorem History.arises (history : History source outputDir seen study) :
    Arises source outputDir study := by
  induction history with
  | fresh => exact .new
  | run _ _ runs _ ih => exact ih.run runs

theorem History.legible (history : History source outputDir seen study)
    {statements : List Statement} (declared : Transcribes source outputDir statements ds study)
    (single : '\n' ∉ study.source.toList) (lines : ∀ line ∈ study.deck, '\n' ∉ line.toList) :
    study.report.Legible := by
  have plain {kind : ObjectKind} {name : String} (listed : (kind, name) ∈ study.report.objects) :
      PlainName name := history.arises.housed.names.plain kind name (mem_objects_iff.mp listed)
  refine ⟨single, ?_, lines, ?_, ?_, ?_, history.attested.scaled⟩
  · intro shown given
    obtain ⟨units, unitsSet, rfl⟩ := Option.map_eq_some_iff.mp given
    exact ⟨units, declared.known unitsSet, rfl⟩
  · intro row listed
    exact plain (List.mem_append_left _ (List.mem_append_left _ (List.mem_map_of_mem listed)))
  · intro row listed
    exact plain (List.mem_append_left _ (List.mem_append_right _ (List.mem_map_of_mem listed)))
  · intro row listed
    refine ⟨plain (List.mem_append_right _ (List.mem_map_of_mem listed)), ?_⟩
    obtain ⟨⟨name, load⟩, entry, rfl⟩ := List.mem_map.mp listed
    rw [LoadRow.target_of]
    exact declared.plain_target ((Table.get?_eq_some_iff _).mpr entry)

/-- The text of a report tells everything about it: studies that runs lead to have reports with the
same text only if they are alike in all that is reported, from the source to the scale. Each of
their objects has one row, which is about that object. -/
theorem report_text_determines (history : History source outputDir seen study)
    (history' : History source' outputDir' seen' study')
    (single : '\n' ∉ study.source.toList) (lines : ∀ line ∈ study.deck, '\n' ∉ line.toList)
    (single' : '\n' ∉ study'.source.toList) (lines' : ∀ line ∈ study'.deck, '\n' ∉ line.toList)
    (same : study.report.text = study'.report.text) :
    study.SameFacts study' ∧ study.report = study'.report ∧
      study.Tabulated study.report ∧ study'.Tabulated study'.report := by
  obtain ⟨events, chronicle⟩ := history.chronicle
  obtain ⟨events', chronicle'⟩ := history'.chronicle
  obtain ⟨statements, ds, declared, -⟩ := chronicle.transcribes
  obtain ⟨statements', ds', declared', -⟩ := chronicle'.transcribes
  have report : study.report = study'.report :=
    Report.text_inj (history.legible declared single lines)
      (history'.legible declared' single' lines') same
  have rows := tabulated declared.bits_nodup
  have rows' := tabulated declared'.bits_nodup
  have units := declared.units_inj declared' (congrArg (·.units) report)
  exact ⟨rows.sameFacts (report ▸ rows') units, report, rows, rows'⟩

/-- One study comes of a single run, and one in another directory of a run that was interrupted when
all was done. Their solids are different ones of the same sizes, and a line of the deck looks like a
heading. -/
theorem report_text_determines_headings :
    let block : Polyhedron := ⟨[⟨0, 0, 0⟩, ⟨1, 0, 0⟩, ⟨0, 1, 0⟩], [[0, 1, 2]]⟩
    let turned : Polyhedron := ⟨[⟨1, 1, 0⟩, ⟨0, 1, 0⟩, ⟨1, 0, 0⟩], [[0, 2, 1]]⟩
    let core : Polyhedron := ⟨[⟨0, 0, 1⟩, ⟨1, 0, 1⟩, ⟨0, 1, 1⟩, ⟨1, 1, 1⟩], [[0, 1, 2], [1, 2, 3]]⟩
    let raised : Polyhedron :=
      ⟨[⟨0, 0, 2⟩, ⟨1, 0, 2⟩, ⟨0, 1, 2⟩, ⟨1, 1, 2⟩], [[0, 1, 2], [1, 2, 3]]⟩
    let ended (outputDir : String) (solid mask : Polyhedron) : Study :=
      { new "part (1).scad" outputDir with
        progress := .solidsDone
        deck := ["*STEP", "Loads:"]
        units := some ⟨⟨"mm", .length, 1e-3⟩, ⟨"t", .mass, 1e3⟩, ⟨"s", .time, 1⟩⟩
        nextBit := 2
        meshes := ⟨[("block", ⟨.automatic, some solid⟩)], List.pairwise_singleton _ _⟩
        volumes := ⟨[("core", ⟨1, some mask⟩)], List.pairwise_singleton _ _⟩
        loads := ⟨[("push", .onVolume "core" ⟨0, 0, 5⟩)], List.pairwise_singleton _ _⟩
        scale := greater 0 solid.scale }
    let first := ended "/tmp" block core
    let second := ended "/var" turned raised
    (∃ seen, History "part (1).scad" "/tmp" seen first) ∧
      (∃ seen, History "part (1).scad" "/var" seen second) ∧
      '\n' ∉ "part (1).scad".toList ∧ (∀ line ∈ ["*STEP", "Loads:"], '\n' ∉ line.toList) ∧
      first.report.text = second.report.text ∧
      first.solid? .mesh "block" ≠ second.solid? .mesh "block" ∧
      first.SameFacts second ∧ first.report = second.report ∧
      first.Tabulated first.report ∧ second.Tabulated second.report := by
  intro block turned core raised ended first second
  let declared := [Directive.analysis ["*STEP", "Loads:"] ["mm", "t", "s"],
    Directive.mesh "block", Directive.volume "core",
    Directive.load [.text "push", .text "core", .number 5]]
  let listed (outputDir : String) : Study := { ended outputDir block core with
    progress := .inventoryDone
    meshes := ⟨[("block", ⟨.automatic, none⟩)], List.pairwise_singleton _ _⟩
    volumes := ⟨[("core", ⟨1, none⟩)], List.pairwise_singleton _ _⟩
    scale := 0 }
  let events (outputDir : String) (solid mask : Polyhedron) (stop : Bool)
      (last : List Job.Event) : List Job.Event :=
    let fresh := new "part (1).scad" outputDir
    [.shown fresh false, .logged Stage.inventory.announcement,
      .asked fresh.inventoryInvocation (.ok ⟨none, [], declared⟩), .shown (listed outputDir) false,
      .logged Stage.objects.announcement,
      .asked (fresh.objectInvocation "mesh" "block") (.ok ⟨some solid, [], []⟩),
      .asked (fresh.objectInvocation "select_volume" "core") (.ok ⟨some mask, [], []⟩),
      .shown (ended outputDir solid mask) stop] ++ last
  have runs : Job.Runs ((new "part (1).scad" "/tmp").run .solidsDone)
      (events "/tmp" block core false [.logged Stage.closing]) ⟨first, .ok ()⟩ :=
    .checkpoint false (.log (.ask _ (.checkpoint false (.log (.ask _ (.ask _
      (.checkpoint false (.log (.done _)))))))))
  have stopped : Job.Runs ((new "part (1).scad" "/var").run .solidsDone)
      (events "/var" turned raised true []) ⟨second, .error .interrupted⟩ :=
    .checkpoint false (.log (.ask _ (.checkpoint false (.log (.ask _ (.ask _
      (.checkpoint true (.done _))))))))
  have history := History.fresh.run _ runs (by simp [Job.Event.Short, events, declared])
  have history' := History.fresh.run _ stopped (by simp [Job.Event.Short, events, declared])
  have single : '\n' ∉ "part (1).scad".toList := by decide
  have lines : ∀ line ∈ ["*STEP", "Loads:"], '\n' ∉ line.toList := by decide
  have same : first.report.text = second.report.text :=
    congrArg Report.text (by decide +kernel : first.report = second.report)
  have different : first.solid? .mesh "block" ≠ second.solid? .mesh "block" := by decide +kernel
  exact ⟨⟨_, history⟩, ⟨_, history'⟩, single, lines, same, different,
    report_text_determines history history' single lines single lines same⟩

end Study

end SolidStudy
