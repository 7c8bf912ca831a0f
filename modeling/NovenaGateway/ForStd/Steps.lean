import Mathlib.Data.List.Basic

/-!
# Operations that can be cut short

An operation is a list of steps on a state. It may run to its end, or an exception may leave it
before a step that can fail, or the process may die after any of them; what it leaves is the
result of a prefix. A property that every step preserves therefore holds after every one of these
endings.
-/

universe u

/-- A step of an operation: whether an exception can leave it, with nothing changed, and what it
    does otherwise. -/
structure Step (σ : Type u) where
  fallible : Bool
  run : σ → σ

namespace Step

variable {σ : Type u}

/-- The steps in order. -/
def perform (steps : List (Step σ)) (s : σ) : σ := steps.foldl (fun s step => step.run s) s

@[simp] theorem perform_nil (s : σ) : perform [] s = s := rfl

@[simp] theorem perform_cons (step : Step σ) (steps : List (Step σ)) (s : σ) :
    perform (step :: steps) s = perform steps (step.run s) := rfl

theorem perform_append (steps steps' : List (Step σ)) (s : σ) :
    perform (steps ++ steps') s = perform steps' (perform steps s) := by
  simp only [perform, List.foldl_append]

/-- An exception can leave the operation after `n` of its steps. -/
def RaisesAfter (steps : List (Step σ)) (n : Nat) : Prop :=
  ∃ step, steps[n]? = some step ∧ step.fallible = true

instance (steps : List (Step σ)) (n : Nat) : Decidable (RaisesAfter steps n) :=
  decidable_of_iff (steps[n]?.any Step.fallible = true) (by simp [RaisesAfter, Option.any_eq_true])

/-- A property every step preserves holds after any number of them. -/
theorem perform_invariant {I : σ → Prop} {steps : List (Step σ)}
    (hstep : ∀ step ∈ steps, ∀ s, I s → I (step.run s)) {s : σ} (h : I s) (n : Nat) :
    I (perform (steps.take n) s) := by
  induction steps generalizing s n with
  | nil => simpa using h
  | cons step steps ih =>
    cases n with
    | zero => exact h
    | succ n =>
      exact ih (fun step' hmem => hstep step' (List.mem_cons_of_mem _ hmem))
        (hstep step List.mem_cons_self s h) n

/-- A property every step preserves holds from where it was established on. -/
theorem perform_established {I : σ → Prop} {steps : List (Step σ)}
    (hstep : ∀ step ∈ steps, ∀ s, I s → I (step.run s)) {s : σ} {k n : Nat} (hn : k ≤ n)
    (h : I (perform (steps.take k) s)) : I (perform (steps.take n) s) := by
  obtain ⟨m, rfl⟩ : ∃ m, n = k + m := ⟨n - k, by omega⟩
  rw [List.take_add, perform_append]
  exact perform_invariant (fun step hmem => hstep step (List.mem_of_mem_drop hmem)) h m

end Step
