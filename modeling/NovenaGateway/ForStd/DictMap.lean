import NovenaGateway.ForStd.Dict

/-!
# Dictionaries with changed values, and their keys
-/

universe u v w

namespace Dict

variable {κ : Type u} {β : Type v} {γ : Type w} [DecidableEq κ]

/-- A dictionary whose values are replaced by values that depend on the key. -/
theorem get?_map (f : κ → β → γ) (d : Dict κ β) (k : κ) :
    get? (d.map fun p => (p.1, f p.1 p.2)) k = (d.get? k).map (f k) := by
  induction d with
  | nil => rfl
  | cons p d ih =>
    obtain ⟨k', v⟩ := p
    rw [List.map_cons, get?_cons, get?_cons, ih]
    split
    · next h => rw [h]; rfl
    · rfl

/-! ## Keys -/

/-- Dropping other keys changes nothing under a key that is kept. -/
theorem get?_filter_key (d : Dict κ β) (keep : κ → Bool) {k : κ} (hk : keep k = true) :
    get? (d.filter fun p => keep p.1) k = d.get? k := by
  induction d with
  | nil => rfl
  | cons p d ih =>
    by_cases hp : keep p.1 = true
    · simp only [List.filter_cons, hp, if_true]
      rw [get?_cons, get?_cons, ih]
    · have hne : ¬k = p.1 := by
        intro h
        rw [h] at hk
        exact hp hk
      simp only [List.filter_cons, hp, Bool.false_eq_true, if_false]
      rw [get?_cons, if_neg hne, ih]

/-- A key that is written again stays where it is. -/
theorem keys_set_of_get? {d : Dict κ β} {k : κ} {v : β} (h : d.get? k = some v) (v' : β) :
    (d.set k v').map Prod.fst = d.map Prod.fst := by
  induction d with
  | nil => cases h
  | cons p d ih =>
    obtain ⟨k', w⟩ := p
    rw [get?_cons] at h
    by_cases hk : k' = k
    · rw [set, if_pos hk, List.map_cons, List.map_cons]
    · rw [if_neg (Ne.symm hk)] at h
      rw [set, if_neg hk, List.map_cons, List.map_cons, ih h]

/-- A write keeps the keys apart. -/
theorem nodup_set {d : Dict κ β} (hnodup : (d.map Prod.fst).Nodup) (k : κ) (v : β) :
    ((d.set k v).map Prod.fst).Nodup := by
  cases h : d.get? k with
  | none =>
    rw [set_of_get?_eq_none h]
    exact nodup_append_new hnodup (notMem_keys_of_get?_eq_none h) v
  | some w => rwa [keys_set_of_get? h]

/-- A removal keeps the keys apart. -/
theorem nodup_erase {d : Dict κ β} (hnodup : (d.map Prod.fst).Nodup) (k : κ) :
    ((d.erase k).map Prod.fst).Nodup :=
  hnodup.sublist (List.filter_sublist.map Prod.fst)

end Dict
