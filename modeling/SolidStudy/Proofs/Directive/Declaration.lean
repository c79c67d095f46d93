import Mathlib
import SolidStudy.Extraction
import SolidStudy.Proofs.Directive.Argument

/-! What directives declare. `Declares` says how each declaration is written as a statement;
`Study.Admits` and `Study.record` say when a study takes a declaration in and what becomes of the
study. One statement is dispatched without fault exactly if it is no directive or is a written
declaration that the study admits. -/
namespace SolidStudy

inductive Declaration where
  | analysis (deck : List String) (units : UnitSystem)
  | mesh (name : String)
  | volume (name : String)
  | surface (name : String) (direction : Point) (tolerance : Float)
  | load (name target : String) (force : Float)
  deriving DecidableEq, Repr

/-- The arguments that a declaration is written with. -/
inductive DirectiveKind.Declares : DirectiveKind → List Value → Declaration → Prop
  | analysis {deck : List String} {units : UnitSystem} (hd : deck ≠ []) (hu : units.Known) :
      Declares .analysis [.ofStrings deck,
        .ofStrings [units.length.name, units.mass.name, units.time.name]] (.analysis deck units)
  | mesh {name : String} (hn : PlainName name) : Declares .mesh [.text name] (.mesh name)
  | volume {name : String} (hn : PlainName name) :
      Declares .selectVolume [.text name] (.volume name)
  | surface {name : String} (hn : PlainName name) (x y z tolerance : Float) :
      Declares .selectSurface
        [.text name, .vector [.number x, .number y, .number z], .number tolerance]
        (.surface name ⟨x, y, z⟩ tolerance)
  | load {name : String} (hn : PlainName name) (target : String) (force : Float) :
      Declares .loadVolume [.text name, .text target, .number force] (.load name target force)

/-- How a declaration is written: the marker, the name of a directive, and its arguments. -/
def Directive.Declares (statement : Statement) (d : Declaration) : Prop :=
  ∃ (kind : DirectiveKind) (args : List Value),
    statement = .text marker :: .text kind.name :: args ∧ kind.Declares args d

namespace Study

variable (study : Study)

/-- Whether a declaration may come next. -/
def Admits : Declaration → Prop
  | .analysis _ _ => study.deck = [] ∧ study.units = none
  | .mesh name | .volume name | .surface name _ _ => study.kindOf name = none
  | .load name target _ => study.kindOf name = none ∧ (study.volumeObject? target).isSome = true

def record : Declaration → Study
  | .analysis deck units => { study with deck := deck, units := some units }
  | .mesh name => { study with meshes := study.meshes.insert name ⟨.automatic, none⟩ }
  | .volume name => { study with
      nextBit := study.nextBit + 1
      volumes := study.volumes.insert name ⟨study.nextBit, none⟩ }
  | .surface name direction tolerance => { study with
      nextBit := study.nextBit + 1
      surfaces := study.surfaces.insert name ⟨study.nextBit, direction, tolerance, none⟩ }
  | .load name target force =>
    { study with loads := study.loads.insert name (.onVolume target ⟨0, 0, force⟩) }

/-- The arguments declare something that the study admits, and `next` is the study with it. -/
def Takes (kind : DirectiveKind) (args : List Value) (next : Study) : Prop :=
  ∃ d, kind.Declares args d ∧ study.Admits d ∧ next = study.record d

end Study

namespace Study

variable {study next : Study}

theorem declareAnalysis_eq_ok {deck units : Value} :
    study.declareAnalysis deck units = .ok next ↔ study.Takes .analysis [deck, units] next := by
  simp only [declareAnalysis, throw_if_eq_ok, bind_eq_ok, StatementFault.lift_eq_ok,
    Argument.texts_eq_ok]
  constructor
  · intro given
    rcases given with ⟨fresh, lines, rfl, some, names, rfl, h⟩
    split at h
    · split at h
      · rename_i system read
        obtain ⟨known, rfl, rfl, rfl⟩ := UnitSystem.named_eq_ok.mp read
        refine ⟨.analysis lines system, .analysis some known, ?_, (Except.ok.inj h).symm⟩
        simpa [Admits] using fresh
      · exact absurd h throw_ne_ok
    · exact absurd h throw_ne_ok
  · intro given
    rcases given with ⟨d, written, fresh, rfl⟩
    cases written with
    | @analysis lines system some known =>
      refine ⟨by simpa [Admits] using fresh, lines, rfl, some, _, rfl, ?_⟩
      have read := UnitSystem.named_eq_ok.mpr ⟨known, rfl, rfl, rfl⟩
      simp only [read]
      rfl

theorem declareMesh_eq_ok {name : Value} :
    study.declareMesh name = .ok next ↔ study.Takes .mesh [name] next := by
  rw [declareMesh, bind_eq_ok]
  constructor
  · intro given
    rcases given with ⟨s, h, same⟩
    obtain ⟨rfl, plain, free⟩ := Argument.newName_eq_ok.mp h
    exact ⟨.mesh s, .mesh plain, free, (Except.ok.inj same).symm⟩
  · intro given
    rcases given with ⟨d, written, free, rfl⟩
    cases written with
    | mesh plain => exact ⟨_, Argument.newName_eq_ok.mpr ⟨rfl, plain, free⟩, rfl⟩

theorem declareVolume_eq_ok {name : Value} :
    study.declareVolume name = .ok next ↔ study.Takes .selectVolume [name] next := by
  rw [declareVolume, bind_eq_ok]
  constructor
  · intro given
    rcases given with ⟨s, h, same⟩
    obtain ⟨rfl, plain, free⟩ := Argument.newName_eq_ok.mp h
    exact ⟨.volume s, .volume plain, free, (Except.ok.inj same).symm⟩
  · intro given
    rcases given with ⟨d, written, free, rfl⟩
    cases written with
    | volume plain => exact ⟨_, Argument.newName_eq_ok.mpr ⟨rfl, plain, free⟩, rfl⟩

theorem declareSurface_eq_ok {name direction tolerance : Value} :
    study.declareSurface name direction tolerance = .ok next ↔
      study.Takes .selectSurface [name, direction, tolerance] next := by
  simp only [declareSurface, bind_eq_ok, StatementFault.lift_eq_ok, Argument.newName_eq_ok,
    Argument.point_eq_ok, Argument.number_eq_ok]
  constructor
  · intro given
    rcases given with ⟨s, ⟨rfl, plain, free⟩, p, rfl, angle, rfl, same⟩
    exact ⟨.surface s p angle, .surface plain p.x p.y p.z angle, free, (Except.ok.inj same).symm⟩
  · intro given
    rcases given with ⟨d, written, free, rfl⟩
    cases written with
    | surface plain x y z angle => exact ⟨_, ⟨rfl, plain, free⟩, ⟨x, y, z⟩, rfl, angle, rfl, rfl⟩

theorem declareLoad_eq_ok {name volume force : Value} :
    study.declareLoad name volume force = .ok next ↔
      study.Takes .loadVolume [name, volume, force] next := by
  simp only [declareLoad, bind_eq_ok, StatementFault.lift_eq_ok, Argument.newName_eq_ok,
    Argument.text_eq_ok, Argument.number_eq_ok, throw_if_eq_ok]
  constructor
  · intro given
    rcases given with ⟨s, ⟨rfl, plain, free⟩, target, rfl, x, rfl, found, same⟩
    refine ⟨.load s target x, .load plain target x, ⟨free, ?_⟩, (Except.ok.inj same).symm⟩
    simpa [Option.isSome_iff_ne_none] using found
  · intro given
    rcases given with ⟨d, written, admitted, rfl⟩
    cases written with
    | load plain target x =>
      obtain ⟨free, found⟩ := admitted
      refine ⟨_, ⟨rfl, plain, free⟩, target, rfl, x, rfl, ?_, rfl⟩
      simpa [Option.isSome_iff_ne_none] using found

theorem declare_eq_ok {kind : DirectiveKind} {args : List Value} :
    study.declare kind args = .ok next ↔ study.Takes kind args next := by
  unfold declare
  split
  · exact declareAnalysis_eq_ok
  · exact declareMesh_eq_ok
  · exact declareVolume_eq_ok
  · exact declareSurface_eq_ok
  · exact declareLoad_eq_ok
  · constructor
    · intro h
      exact absurd h throw_ne_ok
    · intro given
      rcases given with ⟨d, written, -⟩
      cases written <;> simp_all

end Study

theorem DirectiveKind.named_eq_some {name : String} {kind : DirectiveKind} :
    named name = some kind ↔ name = kind.name := by
  constructor
  · intro h
    have called := List.find?_some h
    exact (by simpa using called : kind.name = name).symm
  · rintro rfl
    cases kind <;> decide

theorem DirectiveKind.Declares.arity {kind : DirectiveKind} {args : List Value} {d : Declaration}
    (h : kind.Declares args d) : args.length = kind.arity := by
  cases h <;> rfl

theorem Directive.apply_eq_ok {study next : Study} {values : List Value} :
    apply study values = .ok next ↔
      ∃ (kind : DirectiveKind) (args : List Value),
        values = .text kind.name :: args ∧ study.Takes kind args next := by
  constructor
  · intro h
    unfold apply at h
    split at h
    · rename_i name args
      split at h
      · exact absurd h throw_ne_ok
      · rename_i kind known
        obtain ⟨-, -, h⟩ := bind_eq_ok.mp h
        have called := DirectiveKind.named_eq_some.mp known
        exact ⟨kind, args, by rw [called], Study.declare_eq_ok.mp h⟩
    · exact absurd h throw_ne_ok
  · intro given
    rcases given with ⟨kind, args, rfl, h⟩
    have known := DirectiveKind.named_eq_some.mpr (rfl : kind.name = kind.name)
    have ⟨d, written, _⟩ := h
    simp only [apply, known, bind_eq_ok, StatementFault.lift_eq_ok]
    exact ⟨(), if_pos written.arity, Study.declare_eq_ok.mpr h⟩

theorem Directive.isDirective_iff {statement : Statement} :
    isDirective statement = true ↔ ∃ values, statement = .text marker :: values := by
  unfold isDirective
  split
  · simp
  · rename_i other
    constructor
    · intro h
      simp at h
    · intro given
      rcases given with ⟨values, rfl⟩
      exact absurd rfl (other marker values)

theorem Directive.Declares.isDirective {statement : Statement} {d : Declaration}
    (h : Directive.Declares statement d) : Directive.isDirective statement = true := by
  obtain ⟨kind, args, rfl, -⟩ := h
  exact isDirective_iff.mpr ⟨_, rfl⟩

theorem DirectiveKind.Declares.unique {kind : DirectiveKind} {args : List Value}
    {d e : Declaration} (h : kind.Declares args d) (h' : kind.Declares args e) : d = e := by
  generalize same : args = args' at h'
  cases h with
  | @analysis deck units _ known =>
    cases h' with
    | @analysis deck' units' _ known' =>
      simp only [List.cons.injEq, Value.ofStrings_injective.eq_iff, and_true] at same
      obtain ⟨rfl, length, mass, time⟩ := same
      have read := UnitSystem.named_eq_ok.mpr ⟨known, length, mass, time⟩
      rw [UnitSystem.named_eq_ok.mpr ⟨known', rfl, rfl, rfl⟩, Except.ok.injEq] at read
      rw [read]
  | mesh | volume | surface | load =>
    cases h'
    cases same
    rfl

theorem Directive.Declares.unique {statement : Statement} {d e : Declaration}
    (h : Directive.Declares statement d)
    (h' : Directive.Declares statement e) : d = e := by
  obtain ⟨kind, args, rfl, written⟩ := h
  obtain ⟨kind', args', same, written'⟩ := h'
  simp only [List.cons.injEq, Value.text.injEq, true_and] at same
  obtain ⟨called, rfl⟩ := same
  have known := DirectiveKind.named_eq_some.mpr called
  rw [DirectiveKind.named_eq_some.mpr rfl, Option.some.injEq] at known
  subst known
  exact written.unique written'

theorem Directive.exists_statement {statements : List Statement} {ds : List Declaration}
    {d : Declaration} (written : List.Forall₂ Directive.Declares statements ds) (listed : d ∈ ds) :
    ∃ statement ∈ statements, Directive.Declares statement d := by
  induction written with
  | nil => simp at listed
  | @cons statement first statements ds declares _ ih =>
    rcases List.mem_cons.mp listed with rfl | later
    · exact ⟨statement, List.mem_cons_self, declares⟩
    · obtain ⟨other, found, declares⟩ := ih later
      exact ⟨other, List.mem_cons_of_mem statement found, declares⟩

theorem Directive.analysis_written {statements : List Statement} {ds : List Declaration}
    (written : List.Forall₂ Directive.Declares statements ds) {deck : List String}
    {units : UnitSystem} (listed : .analysis deck units ∈ ds) : deck ≠ [] ∧ units.Known := by
  obtain ⟨statement, -, _, _, -, declares⟩ := exists_statement written listed
  cases declares with
  | analysis some known => exact ⟨some, known⟩

namespace Study

variable {study next : Study} {statement : Statement}

theorem dispatch_of_not_directive (h : Directive.isDirective statement = false) :
    study.dispatch statement = .ok study := by
  unfold dispatch
  split
  · split_ifs with marked
    · subst marked
      simp [Directive.isDirective] at h
    · rfl
  · rfl

/-- One statement is dispatched without fault exactly if it is passed over or declares something
that the study admits. -/
theorem dispatch_eq_ok : study.dispatch statement = .ok next ↔
    Directive.isDirective statement = false ∧ next = study ∨
      ∃ d, Directive.Declares statement d ∧ study.Admits d ∧ next = study.record d := by
  cases marked : Directive.isDirective statement with
  | false =>
    rw [dispatch_of_not_directive marked]
    constructor
    · intro h
      exact .inl ⟨rfl, (Except.ok.inj h).symm⟩
    · intro given
      rcases given with ⟨-, rfl⟩ | ⟨d, written, -⟩
      · rfl
      · rw [written.isDirective] at marked
        contradiction
  | true =>
    obtain ⟨values, rfl⟩ := Directive.isDirective_iff.mp marked
    simp only [dispatch, if_true, mapError_eq_ok, Directive.apply_eq_ok]
    constructor
    · intro given
      rcases given with ⟨kind, args, rfl, d, written, h⟩
      exact .inr ⟨d, ⟨kind, args, rfl, written⟩, h⟩
    · intro given
      rcases given with ⟨h, -⟩ | ⟨d, ⟨kind, args, same, written⟩, h⟩
      · contradiction
      · exact ⟨kind, args, (List.cons.inj same).2, d, written, h⟩

theorem dispatch_eq_ok_of_declares {d : Declaration} (declares : Directive.Declares statement d) :
    study.dispatch statement = .ok next ↔ study.Admits d ∧ next = study.record d := by
  rw [dispatch_eq_ok, declares.isDirective]
  constructor
  · rintro (⟨⟨⟩, -⟩ | ⟨_, same, taken⟩)
    rwa [declares.unique same]
  · exact fun taken => .inr ⟨d, declares, taken⟩

/-- Only directives are refused, and the fault names the statement. -/
theorem dispatch_eq_error {fault : RunFault} : study.dispatch statement = .error fault ↔
    ∃ values cause, statement = .text Directive.marker :: values ∧
      Directive.apply study values = .error cause ∧
      fault = RunFault.ofDirective statement cause := by
  cases marked : Directive.isDirective statement with
  | false =>
    rw [dispatch_of_not_directive marked]
    constructor
    · intro h
      cases h
    · intro given
      rcases given with ⟨values, -, rfl, -⟩
      simp [Directive.isDirective] at marked
  | true =>
    obtain ⟨values, rfl⟩ := Directive.isDirective_iff.mp marked
    simp only [dispatch, if_true, mapError_eq_error, List.cons.injEq, true_and, exists_and_left,
      exists_eq_left']

end Study

end SolidStudy
