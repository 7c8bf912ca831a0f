import Mathlib.Algebra.GroupWithZero.Nat
import Mathlib.Data.List.Infix
import Mathlib.Data.Nat.Basic

/-!
# Consecutive pieces

A run of addresses cut into pieces of one size, of which the last one may be shorter, and a list
cut the same way. Pieces that follow one another without a gap are `Tiled`; what is left of them
when some are taken out covers a run of addresses only if the ones taken out were the last ones.
-/

namespace Pieces

universe u
variable {α : Type u}

/-- `n` addresses from `start` on. -/
def addresses (start : Int) (n : Nat) : List Int := (List.range n).map fun k : Nat => start + k

/-- How many pieces of `size` there are in `n` addresses. -/
def count (size n : Nat) : Nat := (n + size - 1) / size

/-- The pieces of `n` addresses: where each one begins, and its length. -/
def pieces (size : Nat) (start : Int) (n : Nat) : List (Int × Nat) :=
  (List.range (count size n)).map fun k : Nat =>
    (start + (k * size : Nat), min size (n - k * size))

/-- A list cut at every `size` elements. -/
def slices (size : Nat) (xs : List α) : List (List α) :=
  (List.range (count size xs.length)).map fun k => (xs.drop (k * size)).take size

/-! ## Runs of addresses -/

/-- There are as many addresses as asked for. -/
@[simp] theorem length_addresses (start : Int) (n : Nat) : (addresses start n).length = n := by
  simp [addresses]

@[simp] theorem addresses_zero (start : Int) : addresses start 0 = [] := rfl

/-- They go on where the first ones end. -/
theorem addresses_add (start : Int) (m n : Nat) :
    addresses start (m + n) = addresses start m ++ addresses (start + m) n := by
  rw [addresses, List.range_add, List.map_append, List.map_map]
  refine congrArg (addresses start m ++ ·) (List.map_congr_left fun k _ => ?_)
  simp only [Function.comp]
  omega

theorem addresses_drop (start : Int) (k n : Nat) :
    (addresses start n).drop k = addresses (start + k) (n - k) := by
  by_cases h : k ≤ n
  · have hlength : (addresses start k).length = k := length_addresses start k
    rw [show n = k + (n - k) by omega, addresses_add, List.drop_left' hlength]
    congr 1
    omega
  · rw [List.drop_of_length_le (by rw [length_addresses]; omega), show n - k = 0 by omega,
      addresses_zero]

theorem addresses_take (start : Int) (k n : Nat) :
    (addresses start n).take k = addresses start (min k n) := by
  by_cases h : k ≤ n
  · have hlength : (addresses start k).length = k := length_addresses start k
    rw [Nat.min_eq_left h, show n = k + (n - k) by omega, addresses_add, List.take_left' hlength]
  · rw [List.take_of_length_le (by rw [length_addresses]; omega), Nat.min_eq_right (by omega)]

/-- And they are those from the start on. -/
theorem mem_addresses {start : Int} {n : Nat} {a : Int} :
    a ∈ addresses start n ↔ start ≤ a ∧ a < start + n := by
  simp only [addresses, List.mem_map, List.mem_range]
  constructor
  · intro h
    obtain ⟨k, hk, rfl⟩ := h
    omega
  · intro h
    exact ⟨(a - start).toNat, by omega, by omega⟩

/-! ## Cutting -/

theorem count_zero {size : Nat} (hsize : 0 < size) : count size 0 = 0 :=
  Nat.div_eq_of_lt (by omega)

/-- A piece more for each size begun. -/
theorem count_pos {size n : Nat} (hsize : 0 < size) (hn : 0 < n) :
    count size n = count size (n - size) + 1 := by
  unfold count
  by_cases h : n ≤ size
  · rw [Nat.sub_eq_zero_of_le h, Nat.div_eq_of_lt (by omega : 0 + size - 1 < size)]
    exact Nat.div_eq_of_lt_le (by omega) (by omega)
  · rw [show n + size - 1 = (n - size + size - 1) + size by omega,
      Nat.add_div_right _ hsize]

@[simp] theorem pieces_zero {size : Nat} (hsize : 0 < size) (start : Int) :
    pieces size start 0 = [] := by
  rw [pieces, count_zero hsize]
  rfl

/-- The first piece, and those of the rest. -/
theorem pieces_cons {size n : Nat} (hsize : 0 < size) (hn : 0 < n) (start : Int) :
    pieces size start n =
      (start, min size n) :: pieces size (start + (min size n : Nat)) (n - min size n) := by
  have hrest : pieces size (start + (min size n : Nat)) (n - min size n) =
      pieces size (start + size) (n - size) := by
    by_cases h : size ≤ n
    · rw [Nat.min_eq_left h]
    · rw [Nat.min_eq_right (by omega), Nat.sub_self, Nat.sub_eq_zero_of_le (by omega : n ≤ size),
        pieces_zero hsize, pieces_zero hsize]
  rw [hrest, pieces, count_pos hsize hn, List.range_succ_eq_map, List.map_cons, List.map_map]
  congr 1
  · simp
  · refine List.map_congr_left fun k _ => ?_
    simp only [Function.comp, Prod.mk.injEq]
    have hmul : Nat.succ k * size = k * size + size := Nat.succ_mul k size
    omega

/-- Cutting a list of what is at some addresses is cutting the addresses. -/
theorem slices_map_addresses (f : Int → α) (size : Nat) (start : Int) (n : Nat) :
    slices size ((addresses start n).map f) =
      (pieces size start n).map fun p => (addresses p.1 p.2).map f := by
  rw [slices, pieces, List.map_map, List.length_map, length_addresses]
  refine List.map_congr_left fun k _ => ?_
  rw [← List.map_drop, ← List.map_take, addresses_drop, addresses_take]
  rfl

/-- No piece is empty, and none is longer than the size. -/
theorem mem_pieces {size n : Nat} (hsize : 0 < size) {start : Int} {p : Int × Nat}
    (hp : p ∈ pieces size start n) : 0 < p.2 ∧ p.2 ≤ size := by
  obtain ⟨k, hk, rfl⟩ := List.mem_map.mp hp
  have hlt : k < (n + size - 1) / size := List.mem_range.mp hk
  have hmul : (k + 1) * size ≤ n + size - 1 := (Nat.le_div_iff_mul_le hsize).mp hlt
  rw [Nat.succ_mul] at hmul
  show 0 < min size (n - k * size) ∧ min size (n - k * size) ≤ size
  omega

/-! ## Tilings -/

/-- The pieces follow one another from `start` on, and none is empty. -/
def Tiled : Int → List (Int × Nat) → Prop
  | _, [] => True
  | start, p :: ps => p.1 = start ∧ 0 < p.2 ∧ Tiled (start + p.2) ps

/-- How many addresses the pieces have. -/
def total (ps : List (Int × Nat)) : Nat := (ps.map Prod.snd).sum

/-- Their addresses. -/
def covered (ps : List (Int × Nat)) : List Int := ps.flatMap fun p => addresses p.1 p.2

/-- A piece covers its addresses. -/
@[simp] theorem covered_cons (p : Int × Nat) (ps : List (Int × Nat)) :
    covered (p :: ps) = addresses p.1 p.2 ++ covered ps := rfl

/-- Pieces that follow each other cover all up to the end. -/
theorem Tiled.covered_eq {start : Int} {ps : List (Int × Nat)} (h : Tiled start ps) :
    covered ps = addresses start (total ps) := by
  induction ps generalizing start with
  | nil => rfl
  | cons p ps ih =>
    obtain ⟨hstart, -, hrest⟩ := h
    rw [covered_cons, ih hrest, hstart, show total (p :: ps) = p.2 + total ps from rfl,
      addresses_add]

/-- Every piece begins at or after `start`. -/
theorem Tiled.le {start : Int} {ps : List (Int × Nat)} (h : Tiled start ps) {p : Int × Nat}
    (hp : p ∈ ps) : start ≤ p.1 ∧ 0 < p.2 := by
  induction ps generalizing start with
  | nil => exact absurd hp List.not_mem_nil
  | cons q ps ih =>
    obtain ⟨hstart, hpos, hrest⟩ := h
    cases List.mem_cons.mp hp with
    | inl hfirst =>
      rw [hfirst]
      omega
    | inr hmem =>
      have hle := ih hrest hmem
      omega

/-- The pieces follow each other. -/
theorem tiled_pieces {size : Nat} (hsize : 0 < size) (start : Int) (n : Nat) :
    Tiled start (pieces size start n) := by
  induction n using Nat.strongRecOn generalizing start with
  | _ n ih =>
    cases Nat.eq_zero_or_pos n with
    | inl hzero =>
      rw [hzero, pieces_zero hsize]
      trivial
    | inr hpos =>
      rw [pieces_cons hsize hpos]
      exact ⟨rfl, by show 0 < min size n; omega, ih _ (by omega) _⟩

/-- And together they are as long as asked for. -/
theorem total_pieces {size : Nat} (hsize : 0 < size) (start : Int) (n : Nat) :
    total (pieces size start n) = n := by
  induction n using Nat.strongRecOn generalizing start with
  | _ n ih =>
    cases Nat.eq_zero_or_pos n with
    | inl hzero =>
      rw [hzero, pieces_zero hsize]
      rfl
    | inr hpos =>
      rw [pieces_cons hsize hpos]
      have hrest := ih (n - min size n) (by omega) (start + (min size n : Nat))
      have hsum : total ((start, min size n) ::
          pieces size (start + (min size n : Nat)) (n - min size n)) =
          min size n + total (pieces size (start + (min size n : Nat)) (n - min size n)) := rfl
      omega

/-- The pieces cover the addresses, each one once and in order. -/
theorem covered_pieces {size : Nat} (hsize : 0 < size) (start : Int) (n : Nat) :
    covered (pieces size start n) = addresses start n := by
  rw [(tiled_pieces hsize start n).covered_eq, total_pieces hsize]

/-- The pieces begin `step` apart, from `start` on. -/
def Strided (step : Int) : Int → List (Int × Nat) → Prop
  | _, [] => True
  | start, p :: ps => p.1 = start ∧ Strided step (start + step) ps

/-- Each but the last has the full size. -/
theorem strided_pieces {size : Nat} (hsize : 0 < size) (start : Int) (n : Nat) :
    Strided size start (pieces size start n) := by
  induction n using Nat.strongRecOn generalizing start with
  | _ n ih =>
    cases Nat.eq_zero_or_pos n with
    | inl hzero =>
      rw [hzero, pieces_zero hsize]
      trivial
    | inr hpos =>
      rw [pieces_cons hsize hpos]
      refine ⟨rfl, ?_⟩
      by_cases h : size ≤ n
      · rw [Nat.min_eq_left h]
        exact ih _ (by omega) _
      · -- nothing is left
        rw [Nat.min_eq_right (by omega), Nat.sub_self, pieces_zero hsize]
        trivial

/-- What is left of a tiling covers a run of addresses exactly when it is its beginning. -/
theorem Tiled.covered_sublist_eq_iff {start : Int} {ps kept : List (Int × Nat)}
    (h : Tiled start ps) (hkept : kept.Sublist ps) :
    covered kept = addresses start (total kept) ↔ kept <+: ps := by
  induction ps generalizing start kept with
  | nil =>
    rw [List.sublist_nil.mp hkept]
    exact ⟨fun _ => List.prefix_rfl, fun _ => rfl⟩
  | cons p ps ih =>
    obtain ⟨hstart, hpos, hrest⟩ := h
    cases kept with
    | nil => exact ⟨fun _ => List.nil_prefix, fun _ => rfl⟩
    | cons q kept =>
      cases hkept with
      | cons_cons _ hsub =>
        have htotal : total (p :: kept) = p.2 + total kept := rfl
        rw [covered_cons, htotal, addresses_add, hstart, List.append_cancel_left_eq,
          List.cons_prefix_cons, ih hrest hsub]
        exact ⟨fun hpre => ⟨rfl, hpre⟩, fun hpre => hpre.2⟩
      | cons _ hsub =>
        -- the first piece is gone, and what is left begins after it
        obtain ⟨hle, hq⟩ := hrest.le (hsub.subset List.mem_cons_self)
        constructor
        · intro heq
          have hmem : start ∈ covered (q :: kept) := by
            rw [heq, mem_addresses]
            have htotal : total (q :: kept) = q.2 + total kept := rfl
            omega
          obtain ⟨r, hr, hin⟩ := List.mem_flatMap.mp hmem
          have hafter := hrest.le (hsub.subset hr)
          rw [mem_addresses] at hin
          omega
        · intro hpre
          have hfirst : q = p := (List.cons_prefix_cons.mp hpre).1
          rw [hfirst] at hle
          omega

end Pieces
