import Mathlib.Data.Finset.Basic

/-!
# Busy marks

Activities that must not overlap each take a mark when they start and give it back when they end.
The marks are kept in a set; the activities themselves, each with the mark it took, are a list in
any order. `Marks` says that the set holds the marks of the list and that no two activities of the
list took the same one.
-/

universe u

variable {α : Type u}

/-- `marks` are the marks the `holders` took, each taken once. -/
def Marks (marks : Finset α) (holders : List α) : Prop := marks.val = (holders : Multiset α)

namespace Marks

variable {marks : Finset α} {holders holders' : List α} {a : α}

/-- Nobody holds a mark. -/
theorem empty : Marks (∅ : Finset α) [] := rfl

/-- A mark is there while somebody holds it. -/
theorem mem_iff (h : Marks marks holders) : a ∈ marks ↔ a ∈ holders := by
  rw [← Finset.mem_val, h, Multiset.mem_coe]

/-- And nobody else holds the same. -/
theorem nodup (h : Marks marks holders) : holders.Nodup := by
  have hval := marks.nodup
  rw [h, Multiset.coe_nodup] at hval
  exact hval

/-- Whatever the order. -/
theorem perm (h : Marks marks holders) (hperm : holders.Perm holders') : Marks marks holders' :=
  h.trans (Multiset.coe_eq_coe.mpr hperm)

variable [DecidableEq α]

/-- A mark that is free can be taken. -/
theorem acquire (h : Marks marks holders) (ha : a ∉ marks) :
    Marks (insert a marks) (a :: holders) := by
  show (insert a marks).val = _
  rw [Finset.insert_val_of_notMem ha, h, Multiset.cons_coe]

/-- A mark that is taken can be given back. -/
theorem release (h : Marks marks (a :: holders)) : Marks (marks.erase a) holders := by
  show (marks.erase a).val = _
  rw [Finset.erase_val, h, Multiset.coe_erase, List.erase_cons_head]

end Marks
