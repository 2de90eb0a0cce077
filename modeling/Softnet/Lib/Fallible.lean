import Mathlib.Tactic.Common

/-!
# Fallible computations

How a computation in `Except` that is put together from others succeeds and how it fails.
With these rules a `do` block is taken apart from its result, one statement at a time.
-/

namespace Except

universe u v

section Results

variable {ε : Type u}
variable {ε' : Type u}
variable {α β : Type v}
variable {x : Except ε α}
variable {a : α}
variable {b : β}
variable {e : ε}

theorem bind_eq_ok_iff
    {f : α → Except ε β} :
    x >>= f = .ok b ↔ ∃ a, x = .ok a ∧ f a = .ok b := by
  cases x <;> simp [bind, Except.bind]

theorem bind_eq_error_iff
    {f : α → Except ε β} :
    x >>= f = .error e ↔ x = .error e ∨ ∃ a, x = .ok a ∧ f a = .error e := by
  cases x <;> simp [bind, Except.bind]

theorem map_eq_ok_iff
    {f : α → β} :
    x.map f = .ok b ↔ ∃ a, x = .ok a ∧ f a = b := by
  cases x <;> simp [Except.map]

theorem map_eq_error_iff
    {f : α → β} :
    x.map f = .error e ↔ x = .error e := by
  cases x <;> simp [Except.map]

theorem mapError_eq_ok_iff
    {f : ε → ε'} :
    x.mapError f = .ok a ↔ x = .ok a := by
  cases x <;> simp [Except.mapError]

theorem mapError_eq_error_iff
    {f : ε → ε'} {e' : ε'} :
    x.mapError f = .error e' ↔ ∃ e, x = .error e ∧ f e = e' := by
  cases x <;> simp [Except.mapError]

/-- An optional value that is required to be there. -/
theorem elim_eq_ok_iff
    {o : Option α} :
    o.elim (.error e) .ok = (.ok a : Except ε α) ↔ o = some a := by
  cases o <;> simp

theorem elim_eq_error_iff
    {o : Option α} {e' : ε} :
    o.elim (.error e) .ok = (.error e' : Except ε α) ↔ o = none ∧ e = e' := by
  cases o <;> simp

end Results

end Except
