import Mathlib.Logic.Function.Basic

/-!
# Updates of partial maps

A partial map is a function into `Option`; an update either gives an argument a value or takes
its value away. These lemmas read a known value of an updated map.
-/

universe u v

namespace Function

variable {θ : Type u} {α : Type v} [DecidableEq θ]

/-- A value of a map from which `a` was removed is an old value at another argument. -/
theorem eq_some_of_update_none {f : θ → Option α} {a b : θ} {x : α}
    (h : Function.update f a none b = some x) : b ≠ a ∧ f b = some x := by
  by_cases hb : b = a
  · subst hb; simp at h
  · exact ⟨hb, by simpa [Function.update_of_ne hb] using h⟩

/-- A value of a map to which `a` was added is the new value at `a` or an old one elsewhere. -/
theorem eq_some_of_update_some {f : θ → Option α} {a b : θ} {x y : α}
    (h : Function.update f a (some x) b = some y) :
    (b = a ∧ y = x) ∨ (b ≠ a ∧ f b = some y) := by
  by_cases hb : b = a
  · subst hb
    simp only [Function.update_self, Option.some.injEq] at h
    exact .inl ⟨rfl, h.symm⟩
  · exact .inr ⟨hb, by simpa [Function.update_of_ne hb] using h⟩

end Function
