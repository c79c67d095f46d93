import Mathlib
import SolidStudy.Proofs.Inventory.Bits

/-! Declarations in another order. Two directives that are accepted one after the other may change
places, unless both are for selections, which are numbered as they come, or the second is for a load
on what the first declares. -/
namespace SolidStudy

/-- Neither of two declarations sees the other. -/
structure Declaration.Independent (d e : Declaration) : Prop where
  numbered : ¬ (d.isSelection = true ∧ e.isSelection = true)
  target : ∀ name target force, e = .load name target force → d.name? ≠ some target

namespace Study

variable {study : Study} {d e : Declaration} {kind : ObjectKind} {name : String}

theorem admits_iff : study.Admits d ↔
    (d.isAnalysis = true → study.deck = [] ∧ study.units = none) ∧
    (∀ name, d.name? = some name → ∀ kind, study.holds kind name = false) ∧
    ∀ name target force, d = .load name target force →
      study.holds .mesh target = true ∨ study.holds .volume target = true := by
  cases d <;>
    simp [Admits, Declaration.isAnalysis, Declaration.name?, Declaration.declared?, kindOf_eq_none,
      volumeObject?_isSome_iff]

theorem unanalysed_record : ((study.record d).deck = [] ∧ (study.record d).units = none) ↔
    d.isAnalysis = false ∧ study.deck = [] ∧ study.units = none := by
  cases d <;> simp [record, Declaration.isAnalysis]

theorem free_record : (∀ kind, (study.record d).holds kind name = false) ↔
    d.name? ≠ some name ∧ ∀ kind, study.holds kind name = false := by
  simp only [← Bool.not_eq_true, holds_record, Declaration.name?]
  cases d.declared? with
  | none => simp
  | some declared =>
    obtain ⟨kind, called⟩ := declared
    simp [not_or, forall_and]

/-- What is admitted after a declaration on which it does not act is admitted before it, and leaves
the declaration admitted. -/
theorem Admits.exchange (first : study.Admits d) (second : (study.record d).Admits e)
    (target : ∀ name target force, e = .load name target force → d.name? ≠ some target) :
    study.Admits e ∧ (study.record e).Admits d := by
  obtain ⟨once, free, acts⟩ := admits_iff.mp first
  obtain ⟨once', free', acts'⟩ := admits_iff.mp second
  refine ⟨admits_iff.mpr ⟨fun analysis => ?_, fun name named => ?_, ?_⟩,
    admits_iff.mpr ⟨fun analysis => ?_, fun name named => ?_, ?_⟩⟩
  · exact (unanalysed_record.mp (once' analysis)).2
  · exact (free_record.mp (free' name named)).2
  · rintro name place force rfl
    have other (k : ObjectKind) : d.declared? ≠ some (k, place) := by
      intro declared
      exact target name place force rfl (by rw [Declaration.name?, declared, Option.map_some])
    simpa only [holds_record, other, false_or] using acts' name place force rfl
  · refine unanalysed_record.mpr ⟨?_, once analysis⟩
    by_contra twice
    have unanalysed := unanalysed_record.mp (once' (by simpa using twice))
    rw [analysis] at unanalysed
    exact absurd unanalysed.1 (by decide)
  · refine free_record.mpr ⟨fun taken => ?_, free name named⟩
    exact (free_record.mp (free' name taken)).1 named
  · rintro name place force rfl
    refine (acts name place force rfl).imp (fun held => ?_) (fun held => ?_) <;>
      exact holds_record.mpr (.inr held)

theorem Admits.apart (second : (study.record d).Admits e) :
    (∀ name, e.name? = some name → d.name? ≠ some name) ∧
      (e.isAnalysis = true → d.isAnalysis = false) := by
  obtain ⟨once, free, -⟩ := admits_iff.mp second
  exact ⟨fun name named => (free_record.mp (free name named)).1,
    fun analysis => (unanalysed_record.mp (once analysis)).1⟩

/-- Declarations go to different places, or under different names of one table. -/
theorem record_comm (second : (study.record d).Admits e)
    (numbered : ¬ (d.isSelection = true ∧ e.isSelection = true)) :
    (study.record d).record e = (study.record e).record d := by
  obtain ⟨apart, once⟩ := second.apart
  cases d with
  | analysis =>
    cases e with
    | analysis => cases once rfl
    | _ => rfl
  | mesh name =>
    cases e with
    | mesh other =>
      have different : name ≠ other := fun same => apart other rfl (congrArg some same)
      simp only [record, Table.insert_comm _ different]
    | _ => rfl
  | volume | surface =>
    cases e with
    | volume | surface => exact absurd ⟨rfl, rfl⟩ numbered
    | _ => rfl
  | load name =>
    cases e with
    | load other =>
      have different : name ≠ other := fun same => apart other rfl (congrArg some same)
      simp only [record, Table.insert_comm _ different]
    | _ => rfl

theorem bit?_record_self (selected : d.selected? = some (kind, name)) :
    (study.record d).bit? kind name = some study.nextBit := by
  cases d <;> cases selected <;> simp [record, bit?, Table.get?_insert]

theorem bit?_record_other (other : d.name? ≠ some name) :
    (study.record d).bit? kind name = study.bit? kind name := by
  cases d <;> cases kind <;>
    simp_all [record, bit?, Declaration.name?, Declaration.declared?, Table.get?_insert, eq_comm]

theorem nextBit_record (selected : d.isSelection = true) :
    (study.record d).nextBit = study.nextBit + 1 := by
  cases d <;> first | rfl | cases selected

/-- Two selections tell in which order they came. -/
theorem record_ne_of_selections (second : (study.record d).Admits e)
    (first : d.isSelection = true) (last : e.isSelection = true) :
    (study.record d).record e ≠ (study.record e).record d := by
  have selected : ∃ kind name, d.selected? = some (kind, name) ∧ d.name? = some name := by
    cases d with
    | volume name => exact ⟨.volume, name, rfl, rfl⟩
    | surface name => exact ⟨.surface, name, rfl, rfl⟩
    | _ => cases first
  obtain ⟨kind, name, selected, named⟩ := selected
  have other : e.name? ≠ some name := fun called => second.apart.1 name called named
  intro same
  have bits := congrArg (·.bit? kind name) same
  rw [bit?_record_other other, bit?_record_self selected, bit?_record_self selected,
    nextBit_record last, Option.some.injEq] at bits
  simp at bits

theorem Admits.target_of_exchange (first : study.Admits d) (second : study.Admits e)
    {name target : String} {force : Float} (load : e = .load name target force) :
    d.name? ≠ some target := by
  intro named
  have free := (admits_iff.mp first).2.1 target named
  rcases (admits_iff.mp second).2.2 name target force load with held | held
  · rw [free] at held
    cases held
  · rw [free] at held
    cases held

end Study

/-- Two directives, as they are spelled, that declare what is independent. A statement that is
passed over declares nothing. -/
def Directive.Independent (first second : Statement) : Prop :=
  ∀ d e, Directive.Declares first d → Directive.Declares second e → d.Independent e

namespace Study

variable {study middle last : Study} {first second : Statement}

/-- Two statements that are accepted one after the other are accepted the other way round, with the
same study in the end, if and only if they are independent: not both for selections, and the second
not for a load on what the first declares. -/
theorem dispatch_exchange (accepted : study.dispatch first = .ok middle)
    (followed : middle.dispatch second = .ok last) :
    (∃ other, study.dispatch second = .ok other ∧ other.dispatch first = .ok last) ↔
      Directive.Independent first second := by
  rcases dispatch_eq_ok.mp accepted with ⟨passed, rfl⟩ | ⟨d, declares, admitted, rfl⟩
  · refine iff_of_true ⟨last, followed, dispatch_of_not_directive passed⟩ fun d _ declares => ?_
    exact absurd passed (by simp [declares.isDirective])
  rcases dispatch_eq_ok.mp followed with ⟨passed, rfl⟩ | ⟨e, declares', admitted', rfl⟩
  · refine iff_of_true ⟨study, dispatch_of_not_directive passed, accepted⟩ fun _ e _ declares => ?_
    exact absurd passed (by simp [declares.isDirective])
  constructor
  · rintro ⟨other, earlier, later⟩ d' e' spelled spelled'
    obtain ⟨rfl, rfl⟩ := And.intro (spelled.unique declares) (spelled'.unique declares')
    obtain ⟨before, rfl⟩ := (dispatch_eq_ok_of_declares declares').mp earlier
    obtain ⟨-, same⟩ := (dispatch_eq_ok_of_declares declares).mp later
    refine ⟨fun selections => ?_, fun name target force load => ?_⟩
    · exact record_ne_of_selections admitted' selections.1 selections.2 same
    · exact admitted.target_of_exchange before load
  · intro independent
    obtain ⟨numbered, target⟩ := independent d e declares declares'
    obtain ⟨earlier, later⟩ := admitted.exchange admitted' target
    exact ⟨study.record e, (dispatch_eq_ok_of_declares declares').mpr ⟨earlier, rfl⟩,
      (dispatch_eq_ok_of_declares declares).mpr ⟨later, record_comm admitted' numbered⟩⟩

/-- A load may change places with a selection behind it, but not with the mesh it acts on. -/
theorem dispatch_exchange_load :
    let mesh : Statement := [.text Directive.marker, .text "mesh_directive", .text "block"]
    let load : Statement := [.text Directive.marker, .text "load_volume_directive", .text "push",
      .text "block", .number 1]
    let core : Statement := [.text Directive.marker, .text "select_volume_directive", .text "core"]
    let fresh := new "part.scad" "/tmp"
    ∃ meshed loaded last, fresh.dispatch mesh = .ok meshed ∧ meshed.dispatch load = .ok loaded ∧
      loaded.dispatch core = .ok last ∧ Directive.Independent load core ∧
      (∃ other, meshed.dispatch core = .ok other ∧ other.dispatch load = .ok last) ∧
      ¬ Directive.Independent mesh load ∧
      ¬ ∃ other, fresh.dispatch load = .ok other ∧ other.dispatch mesh = .ok loaded := by
  intro mesh load core fresh
  have plain (name : String) (h : Argument.isName name = true) : PlainName name := isName_iff.mp h
  have block : Directive.Declares mesh (.mesh "block") :=
    ⟨.mesh, _, rfl, .mesh (plain "block" (by decide))⟩
  have push : Directive.Declares load (.load "push" "block" 1) :=
    ⟨.loadVolume, _, rfl, .load (plain "push" (by decide)) "block" 1⟩
  have volume : Directive.Declares core (.volume "core") :=
    ⟨.selectVolume, _, rfl, .volume (plain "core" (by decide))⟩
  have independent : Directive.Independent load core := by
    intro d e declares declares'
    obtain rfl := declares.unique push
    obtain rfl := declares'.unique volume
    exact ⟨by decide, by rintro _ _ _ ⟨⟩⟩
  have dependent : ¬ Directive.Independent mesh load := fun independent =>
    (independent _ _ block push).target "push" "block" 1 rfl rfl
  let meshed := fresh.record (.mesh "block")
  let loaded := meshed.record (.load "push" "block" 1)
  let last := loaded.record (.volume "core")
  have first : fresh.dispatch mesh = .ok meshed := rfl
  have second : meshed.dispatch load = .ok loaded := rfl
  have third : loaded.dispatch core = .ok last := rfl
  exact ⟨meshed, loaded, last, first, second, third, independent,
    (dispatch_exchange second third).mpr independent, dependent,
    fun exchanged => dependent ((dispatch_exchange first second).mp exchanged)⟩

end Study

end SolidStudy
