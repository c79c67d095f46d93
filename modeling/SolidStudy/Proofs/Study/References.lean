import Mathlib
import SolidStudy.Proofs.Inventory.Orderly
import SolidStudy.Proofs.Study.Outline

/-! What loads refer to. A load is accepted only on a mesh or a volume that was accepted before
it. No later statement and no extraction takes the load or its target away, and none changes the
kind of the target. -/
namespace SolidStudy

def VolumeObject.kind : VolumeObject → ObjectKind
  | .mesh _ => .mesh
  | .selection _ => .volume

/-- The statement that declares a load, with whatever arguments. -/
def Directive.load (args : List Value) : Statement :=
  .text marker :: .text DirectiveKind.loadVolume.name :: args

def Directive.mesh (name : String) : Statement :=
  [.text marker, .text DirectiveKind.mesh.name, .text name]

def Directive.volume (name : String) : Statement :=
  [.text marker, .text DirectiveKind.selectVolume.name, .text name]

def Directive.analysis (deck units : List String) : Statement :=
  [.text marker, .text DirectiveKind.analysis.name, .ofStrings deck, .ofStrings units]

theorem Directive.load_declares_iff {args : List Value} {d : Declaration} :
    Directive.Declares (load args) d ↔ DirectiveKind.loadVolume.Declares args d := by
  constructor
  · intro given
    rcases given with ⟨kind, args', same, written⟩
    simp only [load, List.cons.injEq, Value.text.injEq, true_and] at same
    obtain ⟨called, rfl⟩ := same
    have known := DirectiveKind.named_eq_some.mpr called
    rw [DirectiveKind.named_eq_some.mpr rfl, Option.some.injEq] at known
    exact known ▸ written
  · intro written
    exact ⟨.loadVolume, args, rfl, written⟩

namespace Study

variable {source outputDir : String} {study mid next later : Study} {statement : Statement}
  {d : Declaration} {kind : ObjectKind} {name target : String} {force : Float} {load : Load}

def volumeKind? (study : Study) (name : String) : Option ObjectKind :=
  (study.volumeObject? name).map VolumeObject.kind

theorem volumeKind?_eq_some_iff : study.volumeKind? name = some kind ↔
    (kind = .mesh ∨ kind = .volume) ∧ study.kindOf name = some kind := by
  rw [volumeKind?, volumeObject?, kindOf, Table.contains, Table.contains]
  cases study.meshes.get? name with
  | some mesh => cases kind <;> simp [VolumeObject.kind]
  | none =>
    cases study.volumes.get? name with
    | some selection => cases kind <;> simp [VolumeObject.kind]
    | none =>
      simp only [Option.map_none, Option.isSome_none, Bool.false_eq_true, if_false]
      split_ifs <;> cases kind <;> simp

/-- The study accepts a directive for the declaration, and is then the next one. -/
def Accepts (study : Study) (d : Declaration) (next : Study) : Prop :=
  ∃ statement, Directive.Declares statement d ∧ study.dispatch statement = .ok next

theorem dispatch_load_eq_ok {args : List Value} :
    study.dispatch (Directive.load args) = .ok next ↔
      ∃ name target force, args = [.text name, .text target, .number force] ∧ PlainName name ∧
        study.Admits (.load name target force) ∧ next = study.record (.load name target force) := by
  rw [dispatch_eq_ok]
  simp only [Directive.load_declares_iff]
  constructor
  · intro given
    rcases given with ⟨unmarked, -⟩ | ⟨d, written, admitted, rfl⟩
    · simp [Directive.load, Directive.isDirective] at unmarked
    · cases written with
      | load plain target force => exact ⟨_, target, force, rfl, plain, admitted, rfl⟩
  · intro given
    rcases given with ⟨name, target, force, rfl, plain, admitted, rfl⟩
    exact .inr ⟨_, .load plain target force, admitted, rfl⟩

/-- One study comes of another by statements, which may be refused, and by extractions of the
objects, which may fail. -/
inductive Leads (study : Study) : Study → Prop
  | refl : Leads study study
  | attempt {mid : Study} (h : Leads study mid) (statement : Statement) :
      Leads study (mid.attempt statement)
  | realize {mid : Study} (h : Leads study mid) {events : List Job.Event}
      {result : Except RunFault Study} (runs : Job.Runs mid.realizeObjects.run events result) :
      Leads study (mid.after result)

theorem Accepts.leads (h : study.Accepts d next) : study.Leads next := by
  obtain ⟨statement, -, taken⟩ := h
  have same : study.attempt statement = next := by rw [attempt, taken, after]
  exact same ▸ .attempt .refl statement

theorem attempt_accepts (study : Study) (statement : Statement) :
    study.attempt statement = study ∨
      ∃ d, study.Admits d ∧ study.attempt statement = study.record d ∧
        study.Accepts d (study.record d) := by
  rcases attempt_cases study statement [] with ⟨d, declares, admitted, same, -⟩ | ⟨same, -⟩
  · have taken : study.dispatch statement = .ok (study.record d) :=
      dispatch_eq_ok.mpr (.inr ⟨d, declares, admitted, rfl⟩)
    exact .inr ⟨d, admitted, same, statement, declares, taken⟩
  · exact .inl same

theorem kindOf_record (admitted : study.Admits d) (known : study.kindOf name = some kind) :
    (study.record d).kindOf name = some kind := by
  rw [← known]
  refine kindOf_congr fun k => ?_
  have other : d.declared? ≠ some (k, name) := by
    intro declared
    have free := admitted.fresh declared
    simp [known] at free
  rw [Bool.eq_iff_iff, holds_record]
  simp [other]

theorem loads_record (admitted : study.Admits d) (found : study.loads.get? name = some load) :
    (study.record d).loads.get? name = some load := by
  cases d with
  | load declared target force =>
    have fresh := (get?_eq_none_of_kindOf (admitted.fresh rfl)).2.2.2
    exact (Table.get?_insert_fresh _ fresh).mpr (.inl found)
  | _ => exact found

namespace Leads

theorem kindOf (h : Leads study later) (known : study.kindOf name = some kind) :
    later.kindOf name = some kind := by
  induction h with
  | refl => exact known
  | @attempt mid _ statement ih =>
    rcases attempt_accepts mid statement with same | ⟨d, admitted, same, -⟩
    · rw [same]
      exact ih
    · rw [same]
      exact kindOf_record admitted ih
  | @realize mid _ events result runs ih =>
    cases result with
    | ok next => rw [after, kindOf_of_outline (outline_of_realizeObjects runs), ih]
    | error fault => exact ih

theorem volumeKind? (h : Leads study later) (known : study.volumeKind? name = some kind) :
    later.volumeKind? name = some kind := by
  rw [volumeKind?_eq_some_iff] at known ⊢
  exact ⟨known.1, h.kindOf known.2⟩

theorem loads (h : Leads study later) (found : study.loads.get? name = some load) :
    later.loads.get? name = some load := by
  induction h with
  | refl => exact found
  | @attempt mid _ statement ih =>
    rcases attempt_accepts mid statement with same | ⟨d, admitted, same, -⟩
    · rw [same]
      exact ih
    · rw [same]
      exact loads_record admitted ih
  | @realize mid _ events result runs ih =>
    cases result with
    | ok next => rw [after, loads_of_outline (outline_of_realizeObjects runs), ih]
    | error fault => exact ih

end Leads

/-- Whatever a reachable study holds was declared by a directive that it accepted once. -/
theorem Reachable.declared (h : Reachable source outputDir study)
    (held : study.holds kind name = true) :
    ∃ before d, Reachable source outputDir before ∧ before.Admits d ∧
      before.Accepts d (before.record d) ∧ d.declared? = some (kind, name) ∧
      (before.record d).Leads study := by
  induction h with
  | new => simp [holds_new] at held
  | @attempt study h statement ih =>
    rcases attempt_accepts study statement with same | ⟨d, admitted, same, accepts⟩
    · rw [same] at held ⊢
      exact ih held
    · rw [same, holds_record] at held
      rcases held with declared | held
      · exact ⟨study, d, h, admitted, accepts, declared, same ▸ .refl⟩
      · obtain ⟨before, e, reached, admitted, accepts, declared, leads⟩ := ih held
        exact ⟨before, e, reached, admitted, accepts, declared, leads.attempt statement⟩
  | @realize study h events result runs ih =>
    cases result with
    | ok next =>
      rw [after, holds_of_realizeObjects runs] at held
      obtain ⟨before, e, reached, admitted, accepts, declared, leads⟩ := ih held
      exact ⟨before, e, reached, admitted, accepts, declared, leads.realize runs⟩
    | error fault => exact ih held

theorem Admits.volumeKind? (admitted : study.Admits (.load name target force)) :
    ∃ kind, study.volumeKind? target = some kind := by
  obtain ⟨object, found⟩ := Option.isSome_iff_exists.mp admitted.2
  exact ⟨object.kind, by rw [Study.volumeKind?, found, Option.map_some]⟩

theorem Admits.loads (admitted : study.Admits (.load name target force)) :
    (study.record (.load name target force)).loads.get? name =
      some (.onVolume target ⟨0, 0, force⟩) := by
  have fresh := (get?_eq_none_of_kindOf (admitted.fresh rfl)).2.2.2
  exact (Table.get?_insert_fresh _ fresh).mpr (.inr ⟨rfl, rfl⟩)

/-- An entry of a load was accepted once, on a target that is still there. -/
theorem Reachable.load_accepted (h : Reachable source outputDir later)
    (found : later.loads.get? name = some load) :
    ∃ study next force kind, Reachable source outputDir study ∧
      study.Accepts (.load name load.target force) next ∧ next.Leads later ∧
      study.volumeKind? load.target = some kind ∧ later.volumeKind? load.target = some kind := by
  have held : later.holds .load name = true := (Table.contains_iff _).mpr ⟨load, found⟩
  obtain ⟨study, d, reached, admitted, accepts, declared, leads⟩ := h.declared held
  cases d with
  | load declaredName target force =>
    cases declared
    have kept := leads.loads admitted.loads
    rw [found, Option.some.injEq] at kept
    subst kept
    obtain ⟨kind, resolves⟩ := admitted.volumeKind?
    have resolved := leads.volumeKind? (accepts.leads.volumeKind? resolves)
    exact ⟨study, _, force, kind, reached, accepts, leads, resolves, resolved⟩
  | _ => simp [Declaration.declared?] at declared

theorem dispatch_load_missing (plain : PlainName name) (free : study.kindOf name = none)
    (missing : study.volumeObject? target = none) :
    study.dispatch (Directive.load [.text name, .text target, .number force]) =
      .error (.configuration (.missingVolume name target)) := by
  have named : Argument.newName study .load (.text name) = .ok name :=
    Argument.newName_eq_ok.mpr ⟨rfl, plain, free⟩
  have refused : study.declareLoad (.text name) (.text target) (.number force) =
      .error (.configuration (.missingVolume name target)) := by
    rw [declareLoad, named]
    simp [bind, Except.bind, Argument.text, Argument.number, liftM, monadLift,
      MonadLift.monadLift, missing, throw, throwThe, MonadExceptOf.throw]
  have applied : Directive.apply study
      [.text DirectiveKind.loadVolume.name, .text name, .text target, .number force] =
        study.declareLoad (.text name) (.text target) (.number force) := by
    rw [Directive.apply, DirectiveKind.named_eq_some.mpr rfl]
    rfl
  rw [Directive.load, dispatch, if_pos rfl, applied, refused]
  rfl

/-- Without an accepted mesh or volume of its name, the target of a load is missing. -/
theorem volumeObject?_of_accepted {before : List Statement}
    (mesh : Directive.mesh target ∉ (new source outputDir).accepted before)
    (volume : Directive.volume target ∉ (new source outputDir).accepted before) :
    ((new source outputDir).attemptAll before).volumeObject? target = none := by
  obtain ⟨ds, written, -, reached⟩ := attemptAll_eq_recordAll (new source outputDir) before
  rw [reached, ← Option.not_isSome_iff_eq_none, volumeObject?_recordAll_isSome]
  rintro (listed | listed)
  · obtain ⟨earlier, accepted, _, _, rfl, declares⟩ := Directive.exists_statement written listed
    cases declares
    exact mesh accepted
  · obtain ⟨earlier, accepted, _, _, rfl, declares⟩ := Directive.exists_statement written listed
    cases declares
    exact volume accepted

theorem attemptAll_append_cons (before after : List Statement) :
    study.attemptAll (before ++ statement :: after) =
      ((study.attemptAll before).attempt statement).attemptAll after := by
  rw [attemptAll, List.foldl_append, List.foldl_cons]
  rfl

/-- A load whose target no accepted mesh or volume has declared is refused, whatever surfaces and
loads there are, and leaves no trace, whatever is declared after it. -/
theorem load_refused (source outputDir : String) (before after : List Statement)
    (name target : String) (force : Float)
    (mesh : Directive.mesh target ∉ (new source outputDir).accepted before)
    (volume : Directive.volume target ∉ (new source outputDir).accepted before) :
    let load := Directive.load [.text name, .text target, .number force]
    let study := (new source outputDir).attemptAll before
    (∃ fault, study.dispatch load = .error fault) ∧
    (PlainName name → study.kindOf name = none →
      study.dispatch load = .error (.configuration (.missingVolume name target))) ∧
    (new source outputDir).attemptAll (before ++ load :: after) =
      (new source outputDir).attemptAll (before ++ after) := by
  intro load study
  have missing : study.volumeObject? target = none := volumeObject?_of_accepted mesh volume
  have refused : ∃ fault, study.dispatch load = .error fault := by
    cases taken : study.dispatch load with
    | error fault => exact ⟨fault, rfl⟩
    | ok next =>
      obtain ⟨_, _, _, same, -, admitted, -⟩ := dispatch_load_eq_ok.mp taken
      cases same
      have found := admitted.2
      simp [missing] at found
  refine ⟨refused, fun plain free => dispatch_load_missing plain free missing, ?_⟩
  obtain ⟨fault, taken⟩ := refused
  have same : study.attempt load = study := by rw [attempt, taken, Study.after]
  rw [attemptAll_append_cons, same, attemptAll, attemptAll, List.foldl_append]
  rfl

/-- Loads refer backwards, and their targets stay. -/
theorem load_references (source outputDir : String) :
    (∀ study next args, Reachable source outputDir study →
      study.dispatch (Directive.load args) = .ok next →
        ∃ name target force kind, args = [.text name, .text target, .number force] ∧
          (kind = .mesh ∨ kind = .volume) ∧ study.volumeKind? target = some kind ∧
          (∃ before d mid, Reachable source outputDir before ∧ before.Accepts d mid ∧
            d.declared? = some (kind, target) ∧ mid.Leads study) ∧
          ∀ later, next.Leads later →
            later.loads.get? name = some (.onVolume target ⟨0, 0, force⟩) ∧
              later.volumeKind? target = some kind) ∧
    (∀ later name load, Reachable source outputDir later → later.loads.get? name = some load →
      ∃ study next force kind, Reachable source outputDir study ∧
        study.Accepts (.load name load.target force) next ∧ next.Leads later ∧
        study.volumeKind? load.target = some kind ∧ later.volumeKind? load.target = some kind) ∧
    ∀ before after name target force,
      Directive.mesh target ∉ (new source outputDir).accepted before →
      Directive.volume target ∉ (new source outputDir).accepted before →
        let load := Directive.load [.text name, .text target, .number force]
        let study := (new source outputDir).attemptAll before
        (∃ fault, study.dispatch load = .error fault) ∧
        (PlainName name → study.kindOf name = none →
          study.dispatch load = .error (.configuration (.missingVolume name target))) ∧
        (new source outputDir).attemptAll (before ++ load :: after) =
          (new source outputDir).attemptAll (before ++ after) := by
  refine ⟨fun study next args reached taken => ?_, fun later name load => ?_, ?_⟩
  · obtain ⟨name, target, force, rfl, plain, admitted, rfl⟩ := dispatch_load_eq_ok.mp taken
    have accepts : study.Accepts (.load name target force) _ :=
      ⟨_, Directive.load_declares_iff.mpr (.load plain target force), taken⟩
    obtain ⟨kind, resolves⟩ := admitted.volumeKind?
    obtain ⟨volumeLike, known⟩ := volumeKind?_eq_some_iff.mp resolves
    obtain ⟨before, d, earlier, -, accepted, declared, leads⟩ :=
      reached.declared (holds_of_kindOf known)
    refine ⟨name, target, force, kind, rfl, volumeLike, resolves,
      ⟨before, d, _, earlier, accepted, declared, leads⟩, fun later onwards => ?_⟩
    exact ⟨onwards.loads admitted.loads, onwards.volumeKind? (accepts.leads.volumeKind? resolves)⟩
  · exact Reachable.load_accepted
  · intro before after name target force
    exact load_refused source outputDir before after name target force

/-- A load on a surface and one on a mesh that comes later are refused; a load on a mesh that is
there keeps it. -/
theorem load_references_around_surface :
    let top : Statement := [.text Directive.marker, .text "select_surface_directive", .text "top",
      .vector [.number 0, .number 0, .number 1], .number 15]
    let before := [Directive.mesh "block", top]
    let load (target : String) := Directive.load [.text "push", .text target, .number 5]
    let study := (new "part.scad" "/tmp").attemptAll before
    (∃ fault, study.dispatch (load "top") = .error fault) ∧
    (new "part.scad" "/tmp").attemptAll (before ++ load "late" :: [Directive.mesh "late"]) =
      (new "part.scad" "/tmp").attemptAll (before ++ [Directive.mesh "late"]) ∧
    study.dispatch (load "block") = .ok (study.attempt (load "block")) ∧
    ∀ later, (study.attempt (load "block")).Leads later →
      later.loads.get? "push" = some (.onVolume "block" ⟨0, 0, 5⟩) ∧
        later.volumeKind? "block" = some .mesh := by
  intro top before load study
  have listed : (new "part.scad" "/tmp").accepted before = before := by rfl
  have reached : Reachable "part.scad" "/tmp" study :=
    (Reachable.new.attempt (Directive.mesh "block")).attempt top
  have taken : study.dispatch (load "block") = .ok (study.attempt (load "block")) := by rfl
  obtain ⟨accepted, -, refused⟩ := load_references "part.scad" "/tmp"
  have unlisted (target : String) (other : target ≠ "block") :
      Directive.mesh target ∉ (new "part.scad" "/tmp").accepted before ∧
        Directive.volume target ∉ (new "part.scad" "/tmp").accepted before := by
    rw [listed]
    simp [before, top, Directive.mesh, Directive.volume, DirectiveKind.name, other]
  have onSurface := refused before [] "push" "top" 5 (unlisted "top" (by decide)).1
    (unlisted "top" (by decide)).2
  have forward := refused before [Directive.mesh "late"] "push" "late" 5
    (unlisted "late" (by decide)).1 (unlisted "late" (by decide)).2
  refine ⟨onSurface.1, forward.2.2, taken, ?_⟩
  obtain ⟨_, _, _, kind, same, -, resolves, -, stays⟩ := accepted study _ _ reached taken
  cases same
  have mesh : study.volumeKind? "block" = some .mesh := by rfl
  rw [mesh, Option.some.injEq] at resolves
  exact resolves ▸ stays

end Study

end SolidStudy
