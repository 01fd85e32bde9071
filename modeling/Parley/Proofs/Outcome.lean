/-
# Outcomes that succeed

A computation in steps succeeds exactly when each of its steps does, and fails with the
fault of the first that does not.
-/

namespace Parley

variable {ε ε' α β : Type}

@[simp]
theorem ok_bind (x : α) (f : α → Except ε β) : (Except.ok x >>= f) = f x := rfl

@[simp]
theorem error_bind (e : ε) (f : α → Except ε β) : (Except.error e >>= f) = .error e := rfl

/-- Two steps succeed when both do. -/
theorem bind_eq_ok {x : Except ε α} {f : α → Except ε β} {y : β} :
    (x >>= f) = .ok y ↔ ∃ a, x = .ok a ∧ f a = .ok y := by
  cases x <;> simp

/-- Two steps fail when the first one does, or the second one on what the first one gives. -/
theorem bind_eq_error {x : Except ε α} {f : α → Except ε β} {e : ε} :
    (x >>= f) = .error e ↔ x = .error e ∨ ∃ a, x = .ok a ∧ f a = .error e := by
  cases x <;> simp

/-- What is made of a result is there when the result is. -/
theorem map_eq_ok {x : Except ε α} {f : α → β} {y : β} :
    x.map f = .ok y ↔ ∃ a, x = .ok a ∧ f a = y := by
  cases x <;> simp [Except.map]

@[simp]
theorem map_ok (x : α) (f : α → β) : (Except.ok x : Except ε α).map f = .ok (f x) := rfl

@[simp]
theorem map_error (e : ε) (f : α → β) : (Except.error e : Except ε α).map f = .error e := rfl

@[simp]
theorem mapError_ok (x : α) (f : ε → ε') : (Except.ok x : Except ε α).mapError f = .ok x := rfl

end Parley
