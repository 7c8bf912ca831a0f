import Mathlib.Data.List.Infix

/-!
# Searching a text

`find` gives the index of the first place where a text has another one, and `findFrom` that of the
first place from an index on.

Key results:
- `Search.find_eq_some`
- `Search.find_eq_none_iff`
-/

universe u

namespace Search

variable {α : Type u} [DecidableEq α]

/-- The first index at which `sub` stands in the text. -/
def find (sub : List α) : List α → Option Nat
  | [] => if sub = [] then some 0 else none
  | c :: cs => if sub.isPrefixOf (c :: cs) then some 0 else (find sub cs).map (· + 1)

/-- The first index from `start` on. -/
def findFrom (sub text : List α) (start : Nat) : Option Nat :=
  (find sub (text.drop start)).map (start + ·)

/-- A text that begins with it has it at the beginning. -/
theorem find_eq_zero {sub text : List α} (h : sub <+: text) : find sub text = some 0 := by
  cases text with
  | nil => exact if_pos (List.prefix_nil.mp h)
  | cons c cs => exact if_pos (List.isPrefixOf_iff_prefix.mpr h)

/-- Otherwise it is looked for behind the first element. -/
theorem find_cons_of_ne {sub : List α} {c : α} {cs : List α} (h : ¬ sub <+: c :: cs) :
    find sub (c :: cs) = (find sub cs).map (· + 1) :=
  if_neg fun hp => h (List.isPrefixOf_iff_prefix.mp hp)

/-- Where the text is found it stands. -/
theorem find_eq_some {sub text : List α} {i : Nat} (h : find sub text = some i) :
    sub <+: text.drop i := by
  induction text generalizing i with
  | nil =>
    simp only [find] at h
    split at h
    · next hsub => rw [hsub]; exact List.nil_prefix
    · cases h
  | cons c cs ih =>
    by_cases hp : sub <+: c :: cs
    · rw [find_eq_zero hp] at h
      obtain rfl := Option.some.inj h
      exact hp
    · rw [find_cons_of_ne hp] at h
      obtain ⟨j, hj, rfl⟩ := Option.map_eq_some_iff.mp h
      exact ih hj

/-- What is not found stands nowhere. -/
theorem find_eq_none_iff {sub text : List α} :
    find sub text = none ↔ ∀ i ≤ text.length, ¬ sub <+: text.drop i := by
  induction text with
  | nil =>
    simp only [find]
    constructor
    · intro h i _ hp
      rw [List.drop_nil, List.prefix_nil] at hp
      rw [if_pos hp] at h
      cases h
    · intro h
      rw [if_neg]
      intro hsub
      exact h 0 (Nat.zero_le _) (by rw [hsub]; exact List.nil_prefix)
  | cons c cs ih =>
    by_cases hp : sub <+: c :: cs
    · rw [find_eq_zero hp]
      constructor
      · intro h
        cases h
      · exact fun h => absurd hp (h 0 (Nat.zero_le _))
    · rw [find_cons_of_ne hp, Option.map_eq_none_iff, ih]
      constructor
      · intro h i hi
        cases i with
        | zero => exact hp
        | succ i => exact h i (by simpa using hi)
      · exact fun h i hi => h (i + 1) (by simpa using hi)

/-- What is found is there, and not before the start. -/
theorem findFrom_eq_some {sub text : List α} {start i : Nat}
    (h : findFrom sub text start = some i) : start ≤ i ∧ sub <+: text.drop i := by
  obtain ⟨j, hj, rfl⟩ := Option.map_eq_some_iff.mp h
  have hstands := find_eq_some hj
  rw [List.drop_drop] at hstands
  exact ⟨Nat.le_add_right start j, hstands⟩

/-- A text that is not empty ends within what is searched. -/
theorem findFrom_lt {sub text : List α} (hsub : sub ≠ []) {start i : Nat}
    (h : findFrom sub text start = some i) : i + sub.length ≤ text.length := by
  have hle := (findFrom_eq_some h).2.length_le
  have hpos := List.length_pos_iff.mpr hsub
  rw [List.length_drop] at hle
  omega

end Search
