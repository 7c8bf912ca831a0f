import Mathlib.Data.List.Perm.Basic
import Mathlib.Data.List.Sort

/-!
# Entries sorted by their keys

When the keys are distinct, the sorted list depends on the entries only and not on their order.
-/

namespace List

universe u v
variable {κ : Type u} {β : Type v} [LinearOrder κ]

/-- The entries in the order of their keys. -/
def sortByKey (d : List (κ × β)) : List (κ × β) := d.insertionSort fun a b => a.1 ≤ b.1

theorem sortByKey_perm (d : List (κ × β)) : d.sortByKey.Perm d := perm_insertionSort _ d

/-- Entries with distinct keys are sorted strictly. -/
theorem pairwise_sortByKey {d : List (κ × β)} (hnodup : (d.map Prod.fst).Nodup) :
    d.sortByKey.Pairwise fun a b => a.1 < b.1 := by
  have hle : d.sortByKey.Pairwise fun a b => a.1 ≤ b.1 := by
    have htotal : Std.Total fun a b : κ × β => a.1 ≤ b.1 := ⟨fun a b => le_total a.1 b.1⟩
    have htrans : IsTrans (κ × β) fun a b => a.1 ≤ b.1 := ⟨fun a b c => le_trans⟩
    exact pairwise_insertionSort _ d
  have hne : d.sortByKey.Pairwise fun a b => a.1 ≠ b.1 := by
    rw [← pairwise_map]
    exact (d.sortByKey_perm.map Prod.fst).nodup_iff.mpr hnodup
  exact (hle.and hne).imp fun h => lt_of_le_of_ne h.1 h.2

/-- The sorted list depends on the entries only. -/
theorem sortByKey_eq_of_perm {d d' : List (κ × β)} (hnodup : (d.map Prod.fst).Nodup)
    (hperm : d.Perm d') : d.sortByKey = d'.sortByKey := by
  have hnodup' : (d'.map Prod.fst).Nodup := (hperm.map Prod.fst).nodup_iff.mp hnodup
  have hsorted : d.sortByKey.Perm d'.sortByKey :=
    (d.sortByKey_perm.trans hperm).trans d'.sortByKey_perm.symm
  have hasymm : ∀ a b, a ∈ d.sortByKey → b ∈ d'.sortByKey → a.1 < b.1 → b.1 < a.1 → a = b :=
    fun a b _ _ hab hba => absurd hba (lt_asymm hab)
  exact hsorted.eq_of_pairwise hasymm (pairwise_sortByKey hnodup) (pairwise_sortByKey hnodup')

end List
