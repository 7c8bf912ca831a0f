import NovenaGateway.ForStd.DictMap

/-!
# Dictionaries with distinct keys

A `Dict` may list a key twice; a dictionary of a running program does not. `UniqueDict` carries
that as a field, so that the order of its entries and what is found in it say the same. Renaming
the keys of a dictionary may bring two of them together: then the later entry counts.
-/

universe u v w

/-- A dictionary in which no key is listed twice. -/
structure UniqueDict (κ : Type u) (β : Type v) where
  entries : Dict κ β
  nodup : (entries.map Prod.fst).Nodup

namespace UniqueDict

variable {κ : Type u} {β : Type v}

def empty : UniqueDict κ β := ⟨[], List.nodup_nil⟩

def isEmpty (d : UniqueDict κ β) : Bool := d.entries.isEmpty

def size (d : UniqueDict κ β) : Nat := d.entries.length

variable [DecidableEq κ]

def get? (d : UniqueDict κ β) (k : κ) : Option β := d.entries.get? k

def set (d : UniqueDict κ β) (k : κ) (v : β) : UniqueDict κ β :=
  ⟨d.entries.set k v, Dict.nodup_set d.nodup k v⟩

def erase (d : UniqueDict κ β) (k : κ) : UniqueDict κ β :=
  ⟨d.entries.erase k, Dict.nodup_erase d.nodup k⟩

/-- Write all entries of a list, in its order. -/
def setAll (d : UniqueDict κ β) (entries : List (κ × β)) : UniqueDict κ β :=
  entries.foldl (fun d p => d.set p.1 p.2) d

/-- Write all entries of another dictionary. -/
def update (d e : UniqueDict κ β) : UniqueDict κ β := d.setAll e.entries

/-- Many entries are set one by one. -/
theorem entries_setAll (d : UniqueDict κ β) (entries : List (κ × β)) :
    (d.setAll entries).entries = entries.foldl (fun d p => d.set p.1 p.2) d.entries := by
  induction entries generalizing d with
  | nil => rfl
  | cons p entries ih => exact ih (d.set p.1 p.2)

@[simp] theorem get?_empty (k : κ) : (empty : UniqueDict κ β).get? k = none := rfl

/-- The entries are what is looked up. -/
theorem mem_entries {d : UniqueDict κ β} {k : κ} {v : β} :
    (k, v) ∈ d.entries ↔ d.get? k = some v :=
  ⟨Dict.get?_of_mem d.nodup, Dict.mem_of_get?⟩

/-- A key has the value it was set to. -/
theorem get?_set (d : UniqueDict κ β) (k : κ) (v : β) (k₁ : κ) :
    (d.set k v).get? k₁ = if k₁ = k then some v else d.get? k₁ :=
  Dict.get?_set d.entries k v k₁

/-- Entries with distinct keys hide what was there under their keys, and nothing else. -/
theorem get?_setAll {entries : List (κ × β)} (hnodup : (entries.map Prod.fst).Nodup)
    (d : UniqueDict κ β) (k : κ) :
    (d.setAll entries).get? k = (Dict.get? entries k).or (d.get? k) := by
  induction entries generalizing d with
  | nil => rfl
  | cons p entries ih =>
    obtain ⟨k', v⟩ := p
    rw [List.map_cons, List.nodup_cons] at hnodup
    have hrest := ih hnodup.2 (d.set k' v)
    rw [get?_set] at hrest
    rw [Dict.get?_cons]
    show (setAll (d.set k' v) entries).get? k = _
    rw [hrest]
    by_cases hk : k = k'
    · -- the key is written here and not once more
      have hnone : Dict.get? entries k = none := by
        by_contra hsome
        have hmem := Dict.mem_keys_of_get?_isSome (Option.isSome_iff_ne_none.mpr hsome)
        exact hnodup.1 (hk ▸ hmem)
      rw [hnone, if_pos hk, if_pos hk]
      rfl
    · rw [if_neg hk, if_neg hk]

/-- The later dictionary decides. -/
theorem get?_update (d e : UniqueDict κ β) (k : κ) :
    (d.update e).get? k = (e.get? k).or (d.get? k) :=
  get?_setAll e.nodup d k

/-- Nothing can be looked up in an empty one. -/
theorem isEmpty_iff {d : UniqueDict κ β} : d.isEmpty = true ↔ ∀ k, d.get? k = none := by
  constructor
  · intro h k
    have hnil : d.entries = [] := List.isEmpty_iff.mp h
    rw [get?, hnil]
    rfl
  · intro h
    by_contra hne
    obtain ⟨⟨k, v⟩, hmem⟩ := List.exists_mem_of_ne_nil d.entries (mt List.isEmpty_iff.mpr hne)
    have hsome : d.get? k = some v := mem_entries.mp hmem
    rw [h k] at hsome
    cases hsome

/-- Two are empty together. -/
theorem isEmpty_update (d e : UniqueDict κ β) :
    (d.update e).isEmpty = (d.isEmpty && e.isEmpty) := by
  rw [Bool.eq_iff_iff, Bool.and_eq_true, isEmpty_iff, isEmpty_iff, isEmpty_iff]
  simp only [get?_update, Option.or_eq_none_iff]
  constructor
  · exact fun h => ⟨fun k => (h k).2, fun k => (h k).1⟩
  · exact fun h k => ⟨h.2 k, h.1 k⟩

/-! ## Renamed keys -/

variable {ι : Type w} [DecidableEq ι]

/-- The dictionary with its keys renamed: of entries that come together, the last one counts. -/
def rename (f : κ → ι) (d : UniqueDict κ β) : UniqueDict ι β :=
  empty.setAll (d.entries.map fun p => (f p.1, p.2))

/-- What is found after entries were written, with any keys: one of them, or what was there. -/
theorem of_get?_setAll {entries : List (ι × β)} {d : UniqueDict ι β} {i : ι} {v : β}
    (h : (d.setAll entries).get? i = some v) :
    (i, v) ∈ entries ∨ (i ∉ entries.map Prod.fst ∧ d.get? i = some v) := by
  induction entries generalizing d with
  | nil => exact .inr ⟨List.not_mem_nil, h⟩
  | cons p entries ih =>
    obtain ⟨i', v'⟩ := p
    obtain hmem | ⟨hnot, hget⟩ := ih h
    · exact .inl (List.mem_cons_of_mem _ hmem)
    · rw [get?_set] at hget
      split at hget
      · next hi =>
        obtain rfl := Option.some.inj hget
        exact .inl (hi ▸ List.mem_cons_self)
      · next hi =>
        refine .inr ⟨?_, hget⟩
        rw [List.map_cons, List.mem_cons, not_or]
        exact ⟨hi, hnot⟩

/-- A key that is written is found. -/
theorem get?_setAll_isSome {entries : List (ι × β)} {d : UniqueDict ι β} {i : ι}
    (h : i ∈ entries.map Prod.fst ∨ (d.get? i).isSome = true) :
    ((d.setAll entries).get? i).isSome = true := by
  induction entries generalizing d with
  | nil => exact h.resolve_left List.not_mem_nil
  | cons p entries ih =>
    obtain ⟨i', v'⟩ := p
    apply ih
    rw [List.map_cons, List.mem_cons] at h
    rw [get?_set]
    obtain (rfl | hmem) | hsome := h
    · exact .inr (by rw [if_pos rfl]; rfl)
    · exact .inl hmem
    · right
      split
      · rfl
      · exact hsome

/-- What is found under a new name is the value of a key of that name. -/
theorem of_get?_rename {f : κ → ι} {d : UniqueDict κ β} {i : ι} {v : β}
    (h : (d.rename f).get? i = some v) : ∃ k, f k = i ∧ d.get? k = some v := by
  obtain hmem | ⟨-, hget⟩ := of_get?_setAll h
  · obtain ⟨⟨k, v'⟩, hk, heq⟩ := List.mem_map.mp hmem
    obtain ⟨rfl, rfl⟩ := Prod.mk.inj heq
    exact ⟨k, rfl, mem_entries.mp hk⟩
  · cases hget

/-- A key is found under its new name, with the value of some key of that name. -/
theorem exists_get?_rename {f : κ → ι} {d : UniqueDict κ β} {k : κ} {v : β}
    (h : d.get? k = some v) :
    ∃ k' v', f k' = f k ∧ d.get? k' = some v' ∧ (d.rename f).get? (f k) = some v' := by
  have hmem : f k ∈ (d.entries.map fun p => (f p.1, p.2)).map Prod.fst := by
    rw [List.map_map]
    exact List.mem_map.mpr ⟨(k, v), mem_entries.mpr h, rfl⟩
  obtain ⟨v', hv'⟩ := Option.isSome_iff_exists.mp
    (get?_setAll_isSome (d := (empty : UniqueDict ι β)) (.inl hmem))
  obtain ⟨k', hk', hget⟩ := of_get?_rename hv'
  exact ⟨k', v', hk', hget, hv'⟩

/-- Renaming adds nothing. -/
theorem rename_isEmpty {f : κ → ι} {d : UniqueDict κ β} :
    (d.rename f).isEmpty = d.isEmpty := by
  rw [Bool.eq_iff_iff, isEmpty_iff, isEmpty_iff]
  constructor
  · intro h k
    by_contra hne
    obtain ⟨v, hv⟩ := Option.ne_none_iff_exists'.mp hne
    obtain ⟨k', v', -, -, hget⟩ := exists_get?_rename (f := f) hv
    rw [h] at hget
    cases hget
  · intro h i
    by_contra hne
    obtain ⟨v, hv⟩ := Option.ne_none_iff_exists'.mp hne
    obtain ⟨k, -, hget⟩ := of_get?_rename hv
    rw [h] at hget
    cases hget

end UniqueDict
