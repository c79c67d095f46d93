import Mathlib
import SolidStudy.Proofs.Extraction.Answers
import SolidStudy.Proofs.Study.Names

/-! What of a study is declared, apart from what runs find out about it. Geometry, the scale, the
progress and the mark come from runs; an extraction of the objects changes nothing else. -/
namespace SolidStudy

namespace Study

variable {study next : Study} {kind : ObjectKind} {name : String}

/-- A study without geometry, scale, progress and mark. -/
def outline (study : Study) : Study :=
  { study with
    progress := .nothingDone
    errored := false
    meshes := study.meshes.mapWithName fun _ o => { o with solid := none }
    volumes := study.volumes.mapWithName fun _ o => { o with mask := none }
    surfaces := study.surfaces.mapWithName fun _ o => { o with mask := none }
    scale := 0 }

theorem outline_setGeometry (solid : Polyhedron) :
    (study.setGeometry kind name solid).outline = study.outline := by
  cases kind <;> simp [setGeometry, outline, Table.mapWithName_modify]

theorem outline_fill (solids : List ((ObjectKind × String) × Polyhedron)) :
    (study.fill solids).outline = study.outline := by
  induction solids generalizing study with
  | nil => rfl
  | cons solid rest ih =>
    rw [fill, List.foldl_cons]
    exact ih.trans (outline_setGeometry solid.2)

theorem outline_of_realizeObjects {events : List Job.Event}
    (h : study.realizeObjects.Gets events next) : next.outline = study.outline := by
  obtain ⟨solids, -, -, rfl⟩ := realizeObjects_gets_iff.mp h
  exact outline_fill solids

/-- The kind of a name depends on the tables that have it. -/
theorem kindOf_congr (same : ∀ kind, next.holds kind name = study.holds kind name) :
    next.kindOf name = study.kindOf name := by
  have mesh : next.meshes.contains name = study.meshes.contains name := same .mesh
  have volume : next.volumes.contains name = study.volumes.contains name := same .volume
  have surface : next.surfaces.contains name = study.surfaces.contains name := same .surface
  have load : next.loads.contains name = study.loads.contains name := same .load
  rw [kindOf, kindOf, mesh, volume, surface, load]

section

variable (same : next.outline = study.outline)
include same

theorem loads_of_outline : next.loads = study.loads :=
  congrArg (·.loads) same

theorem holds_of_outline : next.holds = study.holds := by
  have stripped (s : Study) : s.outline.holds = s.holds := by
    funext kind name
    cases kind <;> simp [outline, holds, Table.contains, Table.get?_mapWithName]
  rw [← stripped next, same, stripped]

theorem kindOf_of_outline : next.kindOf = study.kindOf := by
  funext name
  exact kindOf_congr fun kind => by rw [holds_of_outline same]

end

end Study

end SolidStudy
