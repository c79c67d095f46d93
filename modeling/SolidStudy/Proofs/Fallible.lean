import Mathlib.Data.List.Forall2

/-! Computations that may end in a fault: when a sequence of them comes to a good end. -/
namespace SolidStudy

variable {ε ε' α β : Type}

theorem bind_eq_ok {x : Except ε α} {f : α → Except ε β} {b : β} :
    x >>= f = .ok b ↔ ∃ a, x = .ok a ∧ f a = .ok b := by
  cases x with
  | error => simp [bind, Except.bind]
  | ok => simp [bind, Except.bind]

theorem throw_ne_ok {fault : ε} {a : α} : (throw fault : Except ε α) ≠ .ok a := by
  simp [throw, throwThe, MonadExceptOf.throw]

theorem throw_if_eq_ok {p : Prop} [Decidable p] {fault : ε} {f : α → Except ε β}
    {rest : Except ε β} {b : β} :
    (if p then (throw fault : Except ε α) >>= f else rest) = .ok b ↔ ¬ p ∧ rest = .ok b := by
  by_cases h : p
  · simp [h, throw, throwThe, MonadExceptOf.throw, bind, Except.bind]
  · simp [h]

theorem mapError_eq_ok {f : ε → ε'} {x : Except ε α} {a : α} :
    x.mapError f = .ok a ↔ x = .ok a := by
  cases x with
  | error cause =>
    change (.error (f cause) : Except ε' α) = .ok a ↔ (.error cause : Except ε α) = .ok a
    simp
  | ok b =>
    change (.ok b : Except ε' α) = .ok a ↔ (.ok b : Except ε α) = .ok a
    simp

theorem mapError_eq_error {f : ε → ε'} {x : Except ε α} {cause' : ε'} :
    x.mapError f = .error cause' ↔ ∃ cause, x = .error cause ∧ cause' = f cause := by
  cases x with
  | error cause =>
    change (.error (f cause) : Except ε' α) = .error cause' ↔ _
    simp [eq_comm]
  | ok b =>
    change (.ok b : Except ε' α) = .error cause' ↔ _
    simp

theorem map_eq_ok {f : α → β} {x : Except ε α} {b : β} :
    x.map f = .ok b ↔ ∃ a, x = .ok a ∧ f a = b := by
  cases x <;> simp [Except.map]

theorem mapM_eq_ok_iff {check : α → Except ε β} {items : List α} {results : List β} :
    items.mapM check = .ok results ↔ List.Forall₂ (fun a b => check a = .ok b) items results := by
  induction items generalizing results with
  | nil => cases results <;> simp [pure, Except.pure]
  | cons item items ih =>
    rw [List.mapM_cons, bind_eq_ok]
    cases results with
    | nil => simp [bind_eq_ok, pure, Except.pure]
    | cons result results => simp [bind_eq_ok, pure, Except.pure, ih]

/-- A check of every item that only restates the items. -/
theorem mapM_eq_ok {check : α → Except ε β} {restate : β → α}
    (h : ∀ a b, check a = .ok b ↔ a = restate b) (items : List α) (results : List β) :
    items.mapM check = .ok results ↔ items = results.map restate := by
  simp only [mapM_eq_ok_iff, h]
  rw [← List.forall₂_map_right_iff (R := Eq), List.forall₂_eq_eq_eq]

end SolidStudy
