import Mathlib.Data.List.Basic
import Mathlib.Order.Basic
import Mathlib.Order.Lattice

/-!
# Lists in the order of a key

What the beginning of such a list holds: everything up to one of its elements, and everything up
to a bound that few elements reach.
-/

namespace List

universe u v
variable {α : Type u} {κ : Type v} [LinearOrder κ] {key : α → κ} {xs : List α}

/-- The keys grow. -/
def Ascending (key : α → κ) (xs : List α) : Prop := xs.Pairwise fun a b => key a < key b

/-- Fewer elements are in order too. -/
theorem Ascending.filter (h : xs.Ascending key) (p : α → Bool) : (xs.filter p).Ascending key :=
  List.Pairwise.filter p h

/-- And so are the first ones. -/
theorem Ascending.take (h : xs.Ascending key) (n : Nat) : (xs.take n).Ascending key :=
  List.Pairwise.take h

/-- None is there twice. -/
theorem Ascending.nodup (h : xs.Ascending key) : xs.Nodup :=
  List.Pairwise.imp (fun hlt heq => absurd (congrArg key heq) hlt.ne) h

/-- What is not behind an element of the beginning is in the beginning. -/
theorem Ascending.mem_take_of_le (h : xs.Ascending key) {n : Nat} {a b : α} (ha : a ∈ xs.take n)
    (hb : b ∈ xs) (hle : key b ≤ key a) : b ∈ xs.take n := by
  rw [← take_append_drop n xs] at hb h
  obtain hb | hb := mem_append.mp hb
  · exact hb
  · have hlt := (pairwise_append.mp h).2.2 a ha b hb
    exact absurd hlt (not_lt.mpr hle)

/-- When at most `n` elements are up to a bound, they are the first ones. -/
theorem Ascending.mem_take_of_length (h : xs.Ascending key) {n : Nat} {bound : κ}
    (hlength : (xs.filter fun a => key a ≤ bound).length ≤ n) {b : α} (hb : b ∈ xs)
    (hle : key b ≤ bound) : b ∈ xs.take n := by
  induction xs generalizing n with
  | nil => exact absurd hb not_mem_nil
  | cons x xs ih =>
    obtain ⟨hx, hxs⟩ := pairwise_cons.mp h
    -- the first element is up to the bound, as something not before it is
    have hfirst : key x ≤ bound := by
      obtain rfl | hb := mem_cons.mp hb
      · exact hle
      · exact (hx b hb).le.trans hle
    have hcount : (List.filter (fun a => key a ≤ bound) (x :: xs)).length =
        (List.filter (fun a => key a ≤ bound) xs).length + 1 := by
      rw [filter_cons, if_pos (decide_eq_true hfirst), length_cons]
    cases n with
    | zero => omega
    | succ n =>
      obtain rfl | hb := mem_cons.mp hb
      · exact mem_cons_self
      · exact mem_cons_of_mem x (ih hxs (by omega) hb)

end List
