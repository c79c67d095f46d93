import Mathlib
import SolidStudy.Directive.InPlace
import SolidStudy.Proofs.Study.Names

/-! Directives in place are all or nothing. Their arguments are checked first, which changes
nothing, and the changes that follow are not refused any more. -/
namespace SolidStudy

namespace Edit

variable {ε α : Type} {study : Study} {change : Except ε Study}

/-- A change is made as a whole, or, when it is refused, not at all. -/
def allOrNothing (study : Study) (a : α) : Except ε Study → EStateM.Result ε Study α
  | .ok next => .ok a next
  | .error fault => .error fault study

def Performs (edit : Edit ε Unit) (study : Study) (change : Except ε Study) : Prop :=
  edit.run study = allOrNothing study () change

theorem performs_throw (fault : ε) : (throw fault : Edit ε Unit).Performs study (throw fault) := rfl

theorem performs_get {edit : Study → Edit ε Unit} (h : (edit study).Performs study change) :
    (get >>= edit).Performs study change := h

/-- A check that refuses comes before all changes that depend on it. -/
theorem performs_check (check : Except ε α) {edit : α → Edit ε Unit} {next : α → Except ε Study}
    (h : ∀ a, (edit a).Performs study (next a)) :
    (liftM check >>= edit).Performs study (check >>= next) := by
  cases check with
  | ok a => exact h a
  | error fault => rfl

theorem performs_argument (check : Except StatementFault α) {edit : α → Edit DirectiveFault Unit}
    {next : α → Except DirectiveFault Study} (h : ∀ a, (edit a).Performs study (next a)) :
    (liftM check >>= edit).Performs study (liftM check >>= next) :=
  performs_check (liftM check : Except DirectiveFault α) h

theorem performs_newName (kind : ObjectKind) (v : Value) {edit : String → Edit DirectiveFault Unit}
    {next : String → Except DirectiveFault Study}
    (h : ∀ name, (edit name).Performs study (next name)) :
    (newName kind v >>= edit).Performs study (Argument.newName study kind v >>= next) :=
  performs_check (Argument.newName study kind v) h

theorem performs_unless {p : Prop} [Decidable p] {fault : ε} {edit : Edit ε Unit}
    {f : α → Edit ε Unit} {g : α → Except ε Study} (h : edit.Performs study change) :
    (if p then throw fault >>= f else edit).Performs study
      (if p then throw fault >>= g else change) := by
  split_ifs
  · rfl
  · exact h

theorem performs_declareAnalysis (deck units : Value) :
    (declareAnalysis deck units).Performs study (study.declareAnalysis deck units) := by
  refine performs_get (performs_unless (performs_argument _ fun lines => ?_))
  refine performs_unless (performs_argument _ fun names => ?_)
  match names with
  | [length, mass, time] =>
    dsimp only
    cases UnitSystem.named length mass time with
    | ok units => rfl
    | error fault => exact performs_throw _
  | [] | [_] | [_, _] | _ :: _ :: _ :: _ :: _ => exact performs_throw _

theorem performs_declareMesh (name : Value) :
    (declareMesh name).Performs study (study.declareMesh name) :=
  performs_newName .mesh name fun _ => rfl

theorem performs_declareVolume (name : Value) :
    (declareVolume name).Performs study (study.declareVolume name) :=
  performs_newName .volume name fun _ => rfl

theorem performs_declareSurface (name direction tolerance : Value) :
    (declareSurface name direction tolerance).Performs study
      (study.declareSurface name direction tolerance) := by
  refine performs_newName .surface name fun s => ?_
  refine performs_argument (Argument.point direction) fun p => ?_
  -- Behind the last check the bit is given out and the entry is made, and neither is refused.
  exact performs_argument (Argument.number tolerance) fun angle => rfl

theorem performs_declareLoad (name volume force : Value) :
    (declareLoad name volume force).Performs study (study.declareLoad name volume force) := by
  refine performs_newName .load name fun s => ?_
  refine performs_argument (Argument.text volume) fun target => ?_
  refine performs_argument (Argument.number force) fun x => ?_
  exact performs_get (performs_unless rfl)

theorem performs_declare (kind : DirectiveKind) (args : List Value) :
    (declare kind args).Performs study (study.declare kind args) := by
  -- One case for each kind with the right number of arguments, and one for all that is left over.
  fun_cases Study.declare study kind args
  · exact performs_declareAnalysis _ _
  · exact performs_declareMesh _
  · exact performs_declareVolume _
  · exact performs_declareSurface _ _ _
  · exact performs_declareLoad _ _ _
  · rw [declare]
    · exact performs_throw _
    all_goals assumption

theorem performs_apply (values : List Value) :
    (apply values).Performs study (Directive.apply study values) := by
  fun_cases Directive.apply study values with
  | case1 name args unknown =>
    rw [apply, unknown]
    exact performs_throw _
  | case2 name args kind known =>
    rw [apply, known]
    exact performs_argument _ fun _ => performs_declare kind args
  | case3 =>
    rw [apply]
    · exact performs_throw _
    · assumption

theorem performs_adaptExcept {ε' : Type} (f : ε → ε') {edit : Edit ε Unit}
    (h : edit.Performs study change) :
    Performs (EStateM.adaptExcept f edit) study (change.mapError f) := by
  have performed : edit study = _ := h
  simp only [Performs, EStateM.run, EStateM.adaptExcept, performed]
  cases change <;> rfl

theorem Performs.run_return {edit : Edit ε Unit} (h : edit.Performs study change) (a : α) :
    EStateM.run (do edit; return a) study = allOrNothing study a change := by
  have performed : edit study = _ := h
  simp only [EStateM.run, bind, EStateM.bind, performed]
  cases change <;> rfl

/-- A statement in place does what it does to a study that is given back. -/
theorem run_dispatch (study : Study) (statement : Statement) :
    (dispatch statement).run study =
      allOrNothing study (Directive.isDirective statement) (study.dispatch statement) := by
  cases marked : Directive.isDirective statement with
  | false =>
    rw [Study.dispatch_of_not_directive marked, dispatch, marked]
    rfl
  | true =>
    obtain ⟨values, rfl⟩ := Directive.isDirective_iff.mp marked
    have performed : (apply values).Performs study (Directive.apply study values) :=
      performs_apply values
    simp only [dispatch, marked, if_true, Study.dispatch]
    exact (performs_adaptExcept _ performed).run_return true

end Edit

/-- One entry is added to a table, and all others are kept. -/
structure Table.Gains {α : Type} (t later : Table α) (name : String) (a : α) : Prop where
  added : later.get? name = some a
  kept : ∀ other, other ≠ name → later.get? other = t.get? other

theorem Table.gains_insert {α : Type} (t : Table α) (name : String) (a : α) :
    t.Gains (t.insert name a) name a where
  added := by rw [get?_insert, if_pos rfl]
  kept other distinct := by rw [get?_insert, if_neg distinct]

namespace Study

def Free (study : Study) (name : String) : Prop := ∀ kind, study.holds kind name = false

/-- The one change of a study that a declaration makes. -/
inductive Changes (study : Study) : Declaration → Study → Prop
  | analysis {deck : List String} {units : UnitSystem}
      (fresh : study.deck = [] ∧ study.units = none) (filled : deck ≠ []) :
      Changes study (.analysis deck units) { study with deck := deck, units := some units }
  | mesh {name : String} {meshes : Table Mesh} (free : study.Free name)
      (gains : study.meshes.Gains meshes name ⟨.automatic, none⟩) :
      Changes study (.mesh name) { study with meshes := meshes }
  | volume {name : String} {bit : UInt32} {volumes : Table VolumeSelection} (free : study.Free name)
      (gains : study.volumes.Gains volumes name ⟨study.nextBit, none⟩)
      (next : bit.toNat = study.nextBit.toNat + 1) :
      Changes study (.volume name) { study with nextBit := bit, volumes := volumes }
  | surface {name : String} {direction : Point} {tolerance : Float} {bit : UInt32}
      {surfaces : Table SurfaceSelection} (free : study.Free name)
      (gains : study.surfaces.Gains surfaces name ⟨study.nextBit, direction, tolerance, none⟩)
      (next : bit.toNat = study.nextBit.toNat + 1) :
      Changes study (.surface name direction tolerance)
        { study with nextBit := bit, surfaces := surfaces }
  | load {name target : String} {force : Float} {loads : Table Load} (free : study.Free name)
      (gains : study.loads.Gains loads name (.onVolume target ⟨0, 0, force⟩)) :
      Changes study (.load name target force) { study with loads := loads }

theorem changes_record {study : Study} {statement : Statement} {d : Declaration}
    (room : study.nextBit.toNat < 2 ^ 32 - 1) (declares : Directive.Declares statement d)
    (admitted : study.Admits d) : study.Changes d (study.record d) := by
  obtain ⟨_, _, -, written⟩ := declares
  have next : (study.nextBit + 1).toNat = study.nextBit.toNat + 1 := by
    have bound : study.nextBit.toNat + 1 < 2 ^ 32 := Nat.add_lt_of_lt_sub room
    rw [UInt32.toNat_add]
    exact Nat.mod_eq_of_lt bound
  cases written with
  | analysis filled known => exact .analysis admitted filled
  | mesh plain => exact .mesh (kindOf_eq_none.mp admitted) (Table.gains_insert _ _ _)
  | volume plain => exact .volume (kindOf_eq_none.mp admitted) (Table.gains_insert _ _ _) next
  | surface plain => exact .surface (kindOf_eq_none.mp admitted) (Table.gains_insert _ _ _) next
  | load plain => exact .load (kindOf_eq_none.mp admitted.1) (Table.gains_insert _ _ _)

/-- A statement that is refused, at whatever check, or that is no directive leaves the study as it
is; one that is carried out makes exactly the change that it declares. -/
theorem dispatch_atomic (study : Study) (room : study.nextBit.toNat < 2 ^ 32 - 1)
    (statement : Statement) :
    match (Edit.dispatch statement).run study with
    | .ok true next => ∃ d, Directive.Declares statement d ∧ study.Changes d next
    | .ok false left => Directive.isDirective statement = false ∧ left = study
    | .error _ left => left = study := by
  rw [Edit.run_dispatch]
  cases taken : study.dispatch statement with
  | error fault => rfl
  | ok next =>
    rcases dispatch_eq_ok.mp taken with ⟨skipped, rfl⟩ | ⟨d, declares, admitted, rfl⟩
    · rw [skipped]
      exact ⟨rfl, rfl⟩
    · rw [declares.isDirective]
      exact ⟨d, declares, changes_record room declares admitted⟩

/-- A bad direction takes no bit, so the selection that is given a good one is next in turn. -/
theorem dispatch_atomic_direction :
    let top (direction : Value) : Statement := [.text Directive.marker,
      .text "select_surface_directive", .text "top", direction, .number 15]
    let study := { new "part.scad" "/tmp" with nextBit := 7 }
    (∃ fault left, (Edit.dispatch (top (.ofStrings ["up"]))).run study = .error fault left ∧
      left = study) ∧
    ∃ d next, (Edit.dispatch (top (.vector [.number 0, .number 0, .number 1]))).run study =
      .ok true next ∧ study.Changes d next ∧ next.surfaces.names = ["top"] ∧ next.nextBit = 8 := by
  intro top study
  have room : study.nextBit.toNat < 2 ^ 32 - 1 := by decide
  have refused := dispatch_atomic study room (top (.ofStrings ["up"]))
  obtain ⟨d, -, changes⟩ :=
    dispatch_atomic study room (top (.vector [.number 0, .number 0, .number 1]))
  exact ⟨⟨_, _, rfl, refused⟩, d, _, rfl, changes, rfl, rfl⟩

end Study

end SolidStudy
