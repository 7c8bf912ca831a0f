import Mathlib.Algebra.Order.Monoid.Defs
import Mathlib.Data.List.Pairwise

/-!
# Bursts

Points in time that come in groups of bounded length, with a gap between any two groups. Then no
interval as long as the gap has more points than a group.
-/

namespace Bursts

universe u
variable {α : Type u}

section

variable [Add α] [LE α]

/-- Groups of at most `n` points, each `gap` after those before. -/
structure Spaced (n : Nat) (gap : α) (groups : List (List α)) : Prop where
  small : ∀ group ∈ groups, group.length ≤ n
  apart : groups.Pairwise fun group later => ∀ x ∈ group, ∀ y ∈ later, x + gap ≤ y

theorem Spaced.tail {n : Nat} {gap : α} {group : List α} {groups : List (List α)}
    (h : Spaced n gap (group :: groups)) : Spaced n gap groups where
  small g hg := h.small g (List.mem_cons_of_mem group hg)
  apart := (List.pairwise_cons.mp h.apart).2

/-- A point after everything before it makes the last group longer. -/
theorem Spaced.snoc {n : Nat} {gap : α} {groups : List (List α)} {group : List α}
    (h : Spaced n gap (groups ++ [group])) (hlength : group.length < n) {y : α}
    (hlater : ∀ g ∈ groups, ∀ x ∈ g, x + gap ≤ y) : Spaced n gap (groups ++ [group ++ [y]]) where
  small g hg := by
    cases List.mem_append.mp hg with
    | inl hold => exact h.small g (List.mem_append_left _ hold)
    | inr hnew =>
      rw [List.mem_singleton.mp hnew, List.length_append]
      exact hlength
  apart := by
    obtain ⟨hgroups, -, hcross⟩ := List.pairwise_append.mp h.apart
    refine List.pairwise_append.mpr ⟨hgroups, List.pairwise_singleton _ _, ?_⟩
    intro g hg last hlast x hx z hz
    rw [List.mem_singleton.mp hlast] at hz
    cases List.mem_append.mp hz with
    | inl hold => exact hcross g hg group List.mem_cons_self x hx z hold
    | inr hnew => exact List.mem_singleton.mp hnew ▸ hlater g hg x hx

/-- An empty group may begin at any time. -/
theorem Spaced.open {n : Nat} {gap : α} {groups : List (List α)} (h : Spaced n gap groups) :
    Spaced n gap (groups ++ [[]]) where
  small g hg := by
    cases List.mem_append.mp hg with
    | inl hold => exact h.small g hold
    | inr hnew =>
      rw [List.mem_singleton.mp hnew]
      exact Nat.zero_le n
  apart := by
    refine List.pairwise_append.mpr ⟨h.apart, List.pairwise_singleton _ _, ?_⟩
    intro g _ last hlast x _ z hz
    rw [List.mem_singleton.mp hlast] at hz
    exact absurd hz List.not_mem_nil

end

/-- An interval as long as the gap meets one group at most. -/
theorem Spaced.length_interval [AddCommMonoid α] [LinearOrder α] [IsOrderedAddMonoid α]
    {n : Nat} {gap : α} {groups : List (List α)}
    (h : Spaced n gap groups) (t : α) :
    (groups.flatten.filter fun x => t ≤ x ∧ x < t + gap).length ≤ n := by
  induction groups with
  | nil => exact Nat.zero_le n
  | cons group groups ih =>
    rw [List.flatten_cons, List.filter_append, List.length_append]
    by_cases hmeets : ∃ x ∈ group, t ≤ x
    · -- every later group is past the interval
      obtain ⟨x, hx, hle⟩ := hmeets
      have hlater : groups.flatten.filter (fun x => t ≤ x ∧ x < t + gap) = [] := by
        refine List.filter_eq_nil_iff.mpr fun y hy hin => ?_
        obtain ⟨later, hlater, hy⟩ := List.mem_flatten.mp hy
        have hpast := (List.pairwise_cons.mp h.apart).1 later hlater x hx y hy
        have hbound := (of_decide_eq_true hin).2
        exact absurd ((add_le_add_left hle gap).trans hpast) (not_le.mpr hbound)
      rw [hlater]
      exact (List.length_filter_le _ group).trans (h.small group List.mem_cons_self)
    · have hnone : group.filter (fun x => t ≤ x ∧ x < t + gap) = [] := by
        refine List.filter_eq_nil_iff.mpr fun x hx hin => ?_
        exact hmeets ⟨x, hx, (of_decide_eq_true hin).1⟩
      rw [hnone, List.length_nil, Nat.zero_add]
      exact ih h.tail

end Bursts
