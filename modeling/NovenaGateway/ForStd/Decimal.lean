import Mathlib.Algebra.Order.Ring.Nat
import Mathlib.Data.Char
import Mathlib.Data.List.Lex

/-!
# Decimal texts as numbers

Of two numbers with as many digits, the smaller one comes first as a text. With more digits that
is no longer so.
-/

namespace List

/-- Texts of one length that differ are ordered whatever comes after them. -/
theorem append_lt_append {xs ys : List Char} (hlength : xs.length = ys.length) (h : xs < ys)
    (s t : List Char) : xs ++ s < ys ++ t := by
  induction xs generalizing ys with
  | nil =>
    cases ys with
    | nil => exact absurd h (List.lt_irrefl [])
    | cons y ys => cases hlength
  | cons x xs ih =>
    cases ys with
    | nil => cases hlength
    | cons y ys =>
      rw [cons_append, cons_append, cons_lt_cons_iff]
      obtain hxy | ⟨rfl, hrest⟩ := cons_lt_cons_iff.mp h
      · exact .inl hxy
      · exact .inr ⟨rfl, ih (Nat.succ.inj hlength) hrest⟩

/-- The same beginning does not matter. -/
theorem append_lt_append_left (xs : List Char) {s t : List Char} (h : s < t) :
    xs ++ s < xs ++ t := by
  induction xs with
  | nil => exact h
  | cons x xs ih => exact cons_lt_cons_iff.mpr (.inr ⟨rfl, ih⟩)

end List

namespace Nat

theorem digitChar_lt : ∀ n < 10, ∀ m < n, m.digitChar < n.digitChar := by decide

/-- The digits of a number, and the number they stand for. -/
theorem exists_toDigits (n : Nat) : ∃ ds : List Nat, (∀ d ∈ ds, d < 10) ∧ ds ≠ [] ∧
    toDigits 10 n = ds.map digitChar ∧ ds.foldl (fun n d => 10 * n + d) 0 = n := by
  induction n using Nat.strongRecOn with
  | ind n ih =>
    by_cases h : n < 10
    · refine ⟨[n], by simpa using h, by simp, toDigits_of_lt_base h, by simp⟩
    · obtain ⟨ds, hds, _, htext, hvalue⟩ := ih (n / 10) (by omega)
      refine ⟨ds ++ [n % 10], ?_, by simp, ?_, ?_⟩
      · intro d hd
        obtain hd | hd := List.mem_append.mp hd
        · exact hds d hd
        · rw [List.mem_singleton.mp hd]
          exact Nat.mod_lt n (by decide)
      · rw [toDigits_of_base_le (by decide) (by omega), htext, List.map_append, List.map_singleton]
      · rw [List.foldl_append, hvalue]
        show 10 * (n / 10) + n % 10 = n
        omega

/-- The number of digits. -/
theorem length_toDigits_eq {k n : Nat} (h : 10 ^ k ≤ n) (h' : n < 10 ^ (k + 1)) :
    (toDigits 10 n).length = k + 1 := by
  have hle : (toDigits 10 n).length ≤ k + 1 :=
    (length_toDigits_le_iff (by decide) (Nat.succ_pos k)).mpr h'
  have hgt : k < (toDigits 10 n).length := by
    cases k with
    | zero => exact length_toDigits_pos
    | succ k =>
      by_contra hnot
      have hlt := (length_toDigits_le_iff (by decide) (Nat.succ_pos k)).mp (Nat.not_lt.mp hnot)
      omega
  omega

/-- Of two numbers with as many digits the smaller one comes first. -/
theorem toDigits_lt_toDigits {k m n : Nat} (hm : 10 ^ k ≤ m) (hmn : m < n)
    (hn : n < 10 ^ (k + 1)) : toDigits 10 m < toDigits 10 n := by
  induction k generalizing m n with
  | zero =>
    rw [toDigits_of_lt_base (by omega), toDigits_of_lt_base (by omega)]
    exact List.cons_lt_cons_iff.mpr (.inl (digitChar_lt n (by omega) m hmn))
  | succ k ih =>
    have hten : 10 ≤ 10 ^ (k + 1) := Nat.le_self_pow (Nat.succ_ne_zero k) 10
    have hlast : ∀ {i}, 10 ^ (k + 1) ≤ i →
        toDigits 10 i = toDigits 10 (i / 10) ++ [digitChar (i % 10)] :=
      fun hi => toDigits_of_base_le (by decide) (Nat.le_trans hten hi)
    have hmdigits := hlast hm
    have hndigits := hlast (Nat.le_trans hm (Nat.le_of_lt hmn))
    rw [hmdigits, hndigits]
    rw [Nat.pow_succ] at hm hn
    have hmk : 10 ^ k ≤ m / 10 := by omega
    have hnk : n / 10 < 10 ^ (k + 1) := by omega
    obtain hlt | heq : m / 10 < n / 10 ∨ m / 10 = n / 10 := by omega
    · -- they differ before the last digit
      have hlength : (toDigits 10 (m / 10)).length = (toDigits 10 (n / 10)).length := by
        rw [length_toDigits_eq hmk (Nat.lt_trans hlt hnk),
          length_toDigits_eq (Nat.le_trans hmk (Nat.le_of_lt hlt)) hnk]
      exact List.append_lt_append hlength (ih hmk hlt hnk) _ _
    · rw [heq]
      apply List.append_lt_append_left
      exact List.cons_lt_cons_iff.mpr (.inl (digitChar_lt _ (by omega) _ (by omega)))

end Nat
