/-
  Routing/Change.lean
  ===================
  **Changes that can fail.**  A change of a state gives its answer together with the state that
  it leaves. One that fails leaves a state too, and nothing but its own steps decides which: that
  a failed change leaves the state as it was has to be shown of each.
-/

namespace Routing

/-- A change of a state: it succeeds or fails, and leaves a state in both cases. -/
abbrev Change (ε σ : Type) : Type → Type := EStateM ε σ

namespace Change

variable {ε σ : Type}

def left (change : Change ε σ Unit) (s : σ) : σ :=
  match change.run s with
  | .ok _ next => next
  | .error _ next => next

/-- The changed state for a caller that gives up at an error, and with it the state. -/
def orError (change : Change ε σ Unit) (s : σ) : Except ε σ :=
  match change.run s with
  | .ok _ next => .ok next
  | .error e _ => .error e

theorem orError_eq_ok_iff {change : Change ε σ Unit} {s next : σ} :
    change.orError s = .ok next ↔ change.run s = .ok () next := by
  unfold orError
  cases change.run s <;> simp

/-- A caller that gives up at an error does not see which state was left. -/
theorem orError_eq_error_iff {change : Change ε σ Unit} {s : σ} {e : ε} :
    change.orError s = .error e ↔ ∃ next, change.run s = .error e next := by
  unfold orError
  cases change.run s <;> simp

end Change

end Routing
