import Mathlib.Data.Int.Order.Basic
import Mathlib.Data.List.Nodup
import Mathlib.Data.List.Perm.Basic

/-!
# Keeping the greatest elements of a list

A bounded table that grows is cut back to the elements of greatest measure: sort by the measure,
greatest first, and take a prefix. What is kept is never smaller than what is dropped, and when no
two elements have the same measure the result is determined up to order.
-/

universe u

namespace List

variable {α : Type u} (f : α → Int) (n : Nat)

/-- The `n` elements of greatest measure, or the list as it is when it is not longer. -/
def greatest (l : List α) : List α :=
  if n < l.length then (l.mergeSort fun a b => decide (f b ≤ f a)).take n else l

/-- The order `greatest` sorts by. -/
private theorem pairwise_descending (l : List α) :
    (l.mergeSort fun a b => decide (f b ≤ f a)).Pairwise fun a b => f b ≤ f a := by
  have hsorted : (l.mergeSort fun a b => decide (f b ≤ f a)).Pairwise
      fun a b => decide (f b ≤ f a) = true := by
    apply pairwise_mergeSort
    · intro a b c hab hbc
      simp only [decide_eq_true_eq] at *
      omega
    · intro a b
      simp only [Bool.or_eq_true, decide_eq_true_eq]
      omega
  exact hsorted.imp fun h => by simpa using h

/-- There are as many as asked for. -/
theorem length_greatest (l : List α) : (l.greatest f n).length = min n l.length := by
  unfold greatest
  split
  · rw [length_take, length_mergeSort]
  · omega

/-- The list is what is kept and what is dropped, and nothing dropped is greater than anything
    kept. -/
theorem greatest_append_dropped (l : List α) :
    ∃ dropped, (l.greatest f n ++ dropped).Perm l ∧
      ∀ a ∈ l.greatest f n, ∀ b ∈ dropped, f b ≤ f a := by
  unfold greatest
  split
  · let sorted := l.mergeSort fun a b => decide (f b ≤ f a)
    refine ⟨sorted.drop n, ?_, ?_⟩
    · rw [take_append_drop]
      exact mergeSort_perm l _
    · have hsorted : (sorted.take n ++ sorted.drop n).Pairwise fun a b => f b ≤ f a := by
        rw [take_append_drop]
        exact pairwise_descending f l
      exact (pairwise_append.mp hsorted).2.2
  · exact ⟨[], by rw [append_nil], fun _ _ _ hb => by cases hb⟩

/-- And all are from the list. -/
theorem subset_of_greatest {l : List α} {a : α} (h : a ∈ l.greatest f n) : a ∈ l := by
  obtain ⟨dropped, hperm, _⟩ := greatest_append_dropped f n l
  exact hperm.subset (mem_append_left _ h)

/-- Of elements in strictly descending order, in whatever order the list has them, the first ones
    are kept. -/
theorem greatest_perm {l newest : List α} (hl : l.Perm newest)
    (hnewest : newest.Pairwise fun a b => f b < f a) : (l.greatest f n).Perm (newest.take n) := by
  unfold greatest
  split
  · -- sorting finds the descending order, which is the only one
    have hperm : (l.mergeSort fun a b => decide (f b ≤ f a)).Perm newest :=
      (mergeSort_perm l _).trans hl
    have hnodup : (newest.map f).Nodup :=
      pairwise_map.mpr (hnewest.imp fun h => by omega)
    have hsorted : l.mergeSort (fun a b => decide (f b ≤ f a)) = newest := by
      refine hperm.eq_of_pairwise ?_ (pairwise_descending f l) (hnewest.imp fun h => by omega)
      intro a b ha hb hab hba
      exact inj_on_of_nodup_map hnodup (hperm.subset ha) hb (by omega)
    rw [hsorted]
  · next hshort =>
    rw [take_of_length_le (by rw [← hl.length_eq]; omega)]
    exact hl

/-- An element that comes last and is not greater than the others is the one that is dropped: the
    sort is stable. -/
theorem greatest_append_perm {l : List α} {x : α} (hnodup : (l ++ [x]).Nodup)
    (hx : ∀ a ∈ l, f x ≤ f a) : ((l ++ [x]).greatest f l.length).Perm l := by
  let le : α → α → Bool := fun a b => decide (f b ≤ f a)
  have hperm : ((l ++ [x]).mergeSort le).Perm (l ++ [x]) := mergeSort_perm _ _
  have hmem : x ∈ (l ++ [x]).mergeSort le := hperm.mem_iff.mpr (by simp)
  obtain ⟨s, t, hst⟩ := append_of_mem hmem
  have hsorted : (s ++ x :: t).Nodup := hst ▸ hperm.nodup_iff.mpr hnodup
  -- whatever followed would come before it by stability
  have hlast : t = [] := by
    rw [eq_nil_iff_forall_not_mem]
    intro y hy
    rw [nodup_append, nodup_cons] at hsorted
    obtain ⟨_, ⟨hxt, _⟩, hdisjoint⟩ := hsorted
    have hyl : y ∈ l := by
      have hyall : y ∈ l ++ [x] := hperm.mem_iff.mp (hst ▸ by simp [hy])
      rw [mem_append, mem_singleton] at hyall
      exact hyall.resolve_right fun h => hxt (h ▸ hy)
    have hpair : [y, x] <+ s ++ x :: t := by
      rw [← hst]
      apply pair_sublist_mergeSort
      · intro a b c hab hbc
        simp only [le, decide_eq_true_eq] at *
        omega
      · intro a b
        simp only [le, Bool.or_eq_true, decide_eq_true_eq]
        omega
      · exact decide_eq_true (hx y hyl)
      · exact (singleton_sublist.mpr hyl).append (Sublist.refl [x])
    obtain ⟨l₁, l₂, heq, h₁, h₂⟩ := sublist_append_iff.mp hpair
    cases l₁ with
    | nil =>
      rw [nil_append] at heq
      subst heq
      cases h₂ with
      | cons _ h => exact hxt (h.subset (by simp))
      | cons_cons _ _ => exact hxt hy
    | cons a l₁ =>
      obtain ⟨rfl, _⟩ := cons.inj heq
      exact hdisjoint y (h₁.subset mem_cons_self) y (mem_cons_of_mem x hy) rfl
  subst hlast
  have hlength : s.length = l.length := by
    have h := hperm.length_eq
    rw [hst, length_append, length_append] at h
    simpa using h
  have hgreatest : (l ++ [x]).greatest f l.length = s := by
    rw [greatest, if_pos (by simp)]
    show ((l ++ [x]).mergeSort le).take l.length = s
    rw [hst, ← hlength, take_left]
  rw [hgreatest]
  rw [hst] at hperm
  exact (perm_append_right_iff [x]).mp hperm

end List
