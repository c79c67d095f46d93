import Mathlib
import SolidStudy.Proofs.Extraction.Answers
import SolidStudy.Proofs.Number.Order

/-! The box around a solid. On each axis it reaches from the least to the greatest of the
coordinates that are numbers, whichever comes first, and the scale of a study is a number that is
not negative whatever the coordinates of its solids are. -/
namespace SolidStudy

inductive Axis where
  | x | y | z

def Point.along (p : Point) : Axis → Float
  | .x => p.x
  | .y => p.y
  | .z => p.z

theorem Point.along_zipWith (f : Float → Float → Float) (p q : Point) (axis : Axis) :
    (p.zipWith f q).along axis = f (p.along axis) (q.along axis) := by
  cases axis <;> rfl

def Polyhedron.along (solid : Polyhedron) (axis : Axis) : List Float :=
  solid.vertices.map (·.along axis)

/-- Equal but for the sign of zero. -/
def Alike (x y : Float) : Prop := x = y ∨ (x == 0) = true ∧ (y == 0) = true

theorem alike_of_beq {x y : Float} (h : (x == y) = true) : Alike x y := by
  obtain ⟨-, -, same | ⟨rfl, rfl⟩ | ⟨rfl, rfl⟩⟩ := Float.beq_iff_ne_nan_and_eq.mp h
  · exact .inl same
  · exact .inr (by decide)
  · exact .inr (by decide)

section

variable {before : Float → Float → Prop} {pick : Float → Float → Float} {x y : Float}
  {seen coordinates coordinates' : List Float}

/-- One of two doubles, a number if either is, and then before those that are. -/
structure Picks (before : Float → Float → Prop) (pick : Float → Float → Float) : Prop where
  either : ∀ x y, pick x y = x ∨ pick x y = y
  unread : ∀ {x y}, (pick x y).isNaN = true → x.isNaN = true ∧ y.isNaN = true
  left : ∀ {x y}, x.isNaN = false → before (pick x y) x
  right : ∀ {x y}, y.isNaN = false → before (pick x y) y
  trans : ∀ {x y z}, before x y → before y z → before x z

/-- A choice passes over what is not a number and takes the second double if that is ahead. -/
theorem picks_of_ahead {ahead : Float → Float → Prop} [DecidableRel ahead]
    (choice : ∀ x y, pick x y =
      if x.isNaN then y else if y.isNaN then x else if ahead y x then y else x)
    (refl : ∀ {x}, x.isNaN = false → before x x)
    (trans : ∀ {x y z}, before x y → before y z → before x z)
    (near : ∀ {x y}, ahead y x → before y x)
    (far : ∀ {x y}, x.isNaN = false → y.isNaN = false → ¬ ahead y x → before x y) :
    Picks before pick where
  either x y := by
    rw [choice]
    split_ifs <;> simp
  unread {x y} nan := by
    rw [choice] at nan
    split_ifs at nan <;> simp_all
  left {x y} number := by
    rw [choice]
    split_ifs with hx hy hyx
    · simp_all
    · exact refl number
    · exact near hyx
    · exact refl number
  right {x y} number := by
    rw [choice]
    split_ifs with hx hy hyx
    · exact refl number
    · simp_all
    · exact refl number
    · exact far (Bool.eq_false_of_not_eq_true hx) number hyx
  trans := trans

theorem picks_lesser : Picks (· ≤ ·) lesser :=
  picks_of_ahead (fun _ _ => rfl) Number.le_refl Number.le_trans Number.le_of_lt
    Number.le_of_not_lt

theorem picks_greater : Picks (· ≥ ·) greater :=
  picks_of_ahead (fun _ _ => rfl) Number.le_refl (fun above above' => Number.le_trans above' above)
    Number.le_of_lt fun hx hy => Number.le_of_not_lt hy hx

/-- A listed double that is a number if any of them is, and then before those that are. -/
structure Foremost (before : Float → Float → Prop) (coordinates : List Float) (x : Float) :
    Prop where
  listed : x ∈ coordinates
  unread : x.isNaN = true → ∀ y ∈ coordinates, y.isNaN = true
  first : ∀ y ∈ coordinates, y.isNaN = false → before x y

theorem Foremost.number (h : Foremost before coordinates x) (listed : y ∈ coordinates)
    (number : y.isNaN = false) : x.isNaN = false := by
  cases hx : x.isNaN with
  | false => rfl
  | true => exact (h.unread hx y listed).symm.trans number

theorem Foremost.singleton (picks : Picks before pick) (x : Float) : Foremost before [x] x where
  listed := List.mem_singleton_self x
  unread nan y listed := List.mem_singleton.mp listed ▸ nan
  first y listed number := by
    obtain rfl := List.mem_singleton.mp listed
    have same : pick y y = y := or_self_iff.mp (picks.either y y)
    simpa only [same] using picks.left (y := y) number

theorem Foremost.append (h : Foremost before seen x) (picks : Picks before pick) (y : Float) :
    Foremost before (seen ++ [y]) (pick x y) where
  listed := by rcases picks.either x y with same | same <;> simp [same, h.listed]
  unread nan z listed := by
    obtain ⟨hx, hy⟩ := picks.unread nan
    rcases List.mem_append.mp listed with listed | listed
    · exact h.unread hx z listed
    · exact List.mem_singleton.mp listed ▸ hy
  first z listed number := by
    rcases List.mem_append.mp listed with listed | listed
    · exact picks.trans (picks.left (h.number listed number)) (h.first z listed number)
    · obtain rfl := List.mem_singleton.mp listed
      exact picks.right number

theorem Foremost.foldl (h : Foremost before seen x) (picks : Picks before pick)
    (rest : List Float) : Foremost before (seen ++ rest) (rest.foldl pick x) := by
  induction rest generalizing seen x with
  | nil => simpa using h
  | cons y rest ih => simpa using ih (h.append picks y)

theorem Foremost.perm (h : Foremost before coordinates x) (perm : coordinates.Perm coordinates') :
    Foremost before coordinates' x where
  listed := perm.mem_iff.mp h.listed
  unread nan y listed := h.unread nan y (perm.mem_iff.mpr listed)
  first y listed := h.first y (perm.mem_iff.mpr listed)

/-- The first is determined but for the sign of zero. -/
theorem Foremost.alike (h : Foremost before coordinates x) (h' : Foremost before coordinates y)
    (antisymm : before x y → before y x → (x == y) = true) : Alike x y := by
  cases hy : y.isNaN with
  | true =>
    have hx := h'.unread hy x h.listed
    exact .inl ((Number.eq_notANumber hx).trans (Number.eq_notANumber hy).symm)
  | false =>
    have hx := h.number h'.listed hy
    exact alike_of_beq (antisymm (h.first y h'.listed hy) (h'.first x h.listed hx))

theorem Foremost.isLeast (h : Foremost (· ≤ ·) coordinates x) (listed : y ∈ coordinates)
    (number : y.isNaN = false) : IsLeast {x | x ∈ coordinates ∧ x.isNaN = false} x :=
  ⟨⟨h.listed, h.number listed number⟩, fun z ⟨listed, number⟩ => h.first z listed number⟩

theorem Foremost.isGreatest (h : Foremost (· ≥ ·) coordinates x) (listed : y ∈ coordinates)
    (number : y.isNaN = false) : IsGreatest {x | x ∈ coordinates ∧ x.isNaN = false} x :=
  ⟨⟨h.listed, h.number listed number⟩, fun z ⟨listed, number⟩ => h.first z listed number⟩

end

namespace Polyhedron

variable {solid other : Polyhedron} {box box' : Box}

theorem low_foldl (rest : List Point) (b : Box) (axis : Axis) :
    (rest.foldl Box.extend b).low.along axis =
      (rest.map (·.along axis)).foldl lesser (b.low.along axis) := by
  induction rest generalizing b with
  | nil => rfl
  | cons p rest ih => simp [ih, Box.extend, Point.along_zipWith]

theorem high_foldl (rest : List Point) (b : Box) (axis : Axis) :
    (rest.foldl Box.extend b).high.along axis =
      (rest.map (·.along axis)).foldl greater (b.high.along axis) := by
  induction rest generalizing b with
  | nil => rfl
  | cons p rest ih => simp [ih, Box.extend, Point.along_zipWith]

theorem foremost_box? (h : solid.box? = some box) (axis : Axis) :
    Foremost (· ≤ ·) (solid.along axis) (box.low.along axis) ∧
      Foremost (· ≥ ·) (solid.along axis) (box.high.along axis) := by
  obtain ⟨_ | ⟨first, rest⟩, faces⟩ := solid
  · contradiction
  · obtain rfl : rest.foldl Box.extend ⟨first, first⟩ = box := Option.some.inj h
    rw [low_foldl, high_foldl]
    exact ⟨(Foremost.singleton picks_lesser _).foldl picks_lesser _,
      (Foremost.singleton picks_greater _).foldl picks_greater _⟩

theorem exists_box? (h : solid.vertices ≠ []) : ∃ box, solid.box? = some box := by
  obtain ⟨_ | ⟨first, rest⟩, faces⟩ := solid
  · contradiction
  · exact ⟨_, rfl⟩

/-- The box reaches on each axis from the least to the greatest coordinate that is a number. -/
structure Hull (solid : Polyhedron) (box : Box) : Prop where
  numbers : ∀ axis, (∃ x ∈ solid.along axis, x.isNaN = false) →
    IsLeast {x | x ∈ solid.along axis ∧ x.isNaN = false} (box.low.along axis) ∧
      IsGreatest {x | x ∈ solid.along axis ∧ x.isNaN = false} (box.high.along axis)
  unread : ∀ axis, (∀ x ∈ solid.along axis, x.isNaN = true) →
    (box.low.along axis).isNaN = true ∧ (box.high.along axis).isNaN = true

theorem hull (h : solid.box? = some box) : Hull solid box where
  numbers axis := by
    rintro ⟨x, listed, number⟩
    obtain ⟨low, high⟩ := foremost_box? h axis
    exact ⟨low.isLeast listed number, high.isGreatest listed number⟩
  unread axis none := by
    obtain ⟨low, high⟩ := foremost_box? h axis
    exact ⟨none _ low.listed, none _ high.listed⟩

theorem box?_perm (h : solid.box? = some box) (h' : other.box? = some box')
    (perm : solid.vertices.Perm other.vertices) (axis : Axis) :
    Alike (box.low.along axis) (box'.low.along axis) ∧
      Alike (box.high.along axis) (box'.high.along axis) := by
  have moved : (solid.along axis).Perm (other.along axis) := perm.map _
  obtain ⟨low, high⟩ := foremost_box? h axis
  obtain ⟨low', high'⟩ := foremost_box? h' axis
  exact ⟨(low.perm moved).alike low' Number.beq_of_le,
    (high.perm moved).alike high' fun above below => Number.beq_of_le below above⟩

end Polyhedron

theorem greater_nonneg {x : Float} (h : x = 0 ∨ x > 0) (y : Float) :
    greater x y = 0 ∨ greater x y > 0 := by
  unfold greater
  split_ifs with nan nan' above
  · rw [Number.eq_notANumber nan] at h
    exact absurd h (by decide)
  · exact h
  · rcases h with rfl | pos
    · exact .inr above
    · exact .inr (Number.lt_of_lt_of_le pos (Number.le_of_lt above))
  · exact h

namespace Study

variable {study next : Study} {events : List Job.Event}

theorem largestScale_nonneg (study : Study) : study.largestScale = 0 ∨ study.largestScale > 0 := by
  rw [largestScale]
  generalize study.meshes.entries.filterMap (·.2.solid) = solids
  have from_nonneg {x : Float} (h : x = 0 ∨ x > 0) :
      solids.foldl (fun scale solid => greater scale solid.scale) x = 0 ∨
        solids.foldl (fun scale solid => greater scale solid.scale) x > 0 := by
    induction solids generalizing x with
    | nil => exact h
    | cons solid rest ih => exact ih (greater_nonneg h solid.scale)
  exact from_nonneg (.inl rfl)

theorem scale_of_realizeObjects (h : study.realizeObjects.Gets events next) :
    next.scale = 0 ∨ next.scale > 0 := by
  obtain ⟨solids, -, -, rfl⟩ := realizeObjects_gets_iff.mp h
  exact largestScale_nonneg (study.fill solids)

end Study

/-- The box of a solid with vertices is their hull, in whichever order they are listed, and the
scale that an extraction of the objects stores is zero or above. -/
theorem Polyhedron.box?_hull_and_scale {solid : Polyhedron} (given : solid.vertices ≠ []) :
    (∃ box, solid.box? = some box ∧ solid.Hull box ∧
      ∀ other : Polyhedron, solid.vertices.Perm other.vertices →
        ∃ box', other.box? = some box' ∧ ∀ axis,
          Alike (box.low.along axis) (box'.low.along axis) ∧
            Alike (box.high.along axis) (box'.high.along axis)) ∧
    ∀ (study next : Study) (events : List Job.Event), study.realizeObjects.Gets events next →
      next.scale.isNaN = false ∧ (next.scale = 0 ∨ next.scale > 0) := by
  refine ⟨?_, fun study next events gets => ?_⟩
  · obtain ⟨box, found⟩ := exists_box? given
    refine ⟨box, found, hull found, fun other perm => ?_⟩
    have given' : other.vertices ≠ [] := fun none => given (by rwa [none, List.perm_nil] at perm)
    obtain ⟨box', found'⟩ := exists_box? given'
    exact ⟨box', found', box?_perm found found' perm⟩
  · have scaled := Study.scale_of_realizeObjects gets
    refine ⟨?_, scaled⟩
    rcases scaled with zero | pos
    · rw [zero]
      decide
    · exact (Number.readable_of_le (Number.le_of_lt pos)).2

/-- A coordinate that is not a number is passed over at the first vertex too, and infinities are
corners. -/
theorem Polyhedron.box?_hull_and_scale_passing :
    Polyhedron.box? ⟨[⟨Float.nan, 1, Float.inf⟩, ⟨2, Float.nan, -Float.inf⟩], []⟩ =
        some ⟨⟨2, 1, -Float.inf⟩, ⟨2, 1, Float.inf⟩⟩ ∧
      Hull ⟨[⟨Float.nan, 1, Float.inf⟩, ⟨2, Float.nan, -Float.inf⟩], []⟩
        ⟨⟨2, 1, -Float.inf⟩, ⟨2, 1, Float.inf⟩⟩ := by
  have computed : Polyhedron.box? ⟨[⟨Float.nan, 1, Float.inf⟩, ⟨2, Float.nan, -Float.inf⟩], []⟩ =
      some ⟨⟨2, 1, -Float.inf⟩, ⟨2, 1, Float.inf⟩⟩ := by decide +kernel
  obtain ⟨⟨box, found, hull, -⟩, -⟩ := @box?_hull_and_scale
    ⟨[⟨Float.nan, 1, Float.inf⟩, ⟨2, Float.nan, -Float.inf⟩], []⟩ (by simp)
  obtain rfl := Option.some.inj (computed.symm.trans found)
  exact ⟨found, hull⟩

end SolidStudy
