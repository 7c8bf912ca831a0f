import Mathlib.Algebra.GroupWithZero.Nat
import Mathlib.Data.List.Nodup
import Mathlib.Logic.Function.Basic

/-!
# Insertion-ordered dictionaries

An association list read from the front, with the update rule of a language whose
dictionaries remember insertion order: writing an existing key keeps its place, writing a
new key appends it. Lookup is the standard `List.lookup`; this file adds the update
functions and how lookup sees through them.
-/

universe u v w

/-- A dictionary: the entries in insertion order, the first entry of a key counting. -/
abbrev Dict (κ : Type u) (β : Type v) := List (κ × β)

namespace Dict

variable {κ : Type u} {β : Type v} [DecidableEq κ]

/-- The value stored under `k`. -/
def get? (d : Dict κ β) (k : κ) : Option β := d.lookup k

/-- Store `v` under `k`: in place when `k` is present, at the end when it is new. -/
def set : Dict κ β → κ → β → Dict κ β
  | [], k, v => [(k, v)]
  | (k', v') :: d, k, v => if k' = k then (k', v) :: d else (k', v') :: set d k v

/-- Remove every entry of `k`. -/
def erase (d : Dict κ β) (k : κ) : Dict κ β := d.filter (fun p => p.1 ≠ k)

/-- `k` has an entry. -/
def contains (d : Dict κ β) (k : κ) : Bool := (d.get? k).isSome

@[simp] theorem get?_nil (k : κ) : get? ([] : Dict κ β) k = none := rfl

/-- The first entry with the key counts. -/
theorem get?_cons (k' : κ) (v : β) (d : Dict κ β) (k : κ) :
    get? ((k', v) :: d) k = if k = k' then some v else get? d k := by
  simp only [get?, List.lookup_cons]
  by_cases h : k = k'
  · simp [h]
  · simp [h, beq_eq_false_iff_ne.mpr h]

/-- Lookup after a write: the written key has the new value, every other key its old one. -/
theorem get?_set (d : Dict κ β) (k : κ) (v : β) (k₁ : κ) :
    (d.set k v).get? k₁ = if k₁ = k then some v else d.get? k₁ := by
  induction d with
  -- the key is appended
  | nil => simp only [set, get?_cons]
  | cons p d ih =>
    obtain ⟨k', v'⟩ := p
    simp only [set]
    split
    -- it is replaced at the head
    · next hk =>
      subst hk
      simp only [get?_cons]
      split <;> rfl
    -- or further on
    · next hk =>
      simp only [get?_cons, ih]
      split
      · next h₁ => subst h₁; simp [hk]
      · rfl

/-- A key is found exactly when an entry carries it. -/
theorem any_key (d : Dict κ β) (k : κ) : (d.any fun p => decide (p.1 = k)) = d.contains k := by
  induction d with
  | nil => rfl
  | cons p d ih =>
    obtain ⟨k', v⟩ := p
    by_cases h : k' = k
    · simp [contains, get?_cons, h]
    · simp only [List.any_cons, h, decide_false, Bool.false_or, ih, contains, get?_cons,
        if_neg (Ne.symm h)]

/-- A key has the value it was set to. -/
@[simp] theorem get?_set_self (d : Dict κ β) (k : κ) (v : β) : (d.set k v).get? k = some v := by
  simp [get?_set]

/-- And the other keys keep theirs. -/
theorem get?_set_ne (d : Dict κ β) {k k₁ : κ} (v : β) (h : k₁ ≠ k) :
    (d.set k v).get? k₁ = d.get? k₁ := by
  simp [get?_set, h]

/-- A new key is written at the end. -/
theorem set_of_get?_eq_none {d : Dict κ β} {k : κ} (h : d.get? k = none) (v : β) :
    d.set k v = d ++ [(k, v)] := by
  induction d with
  | nil => rfl
  | cons p d ih =>
    obtain ⟨k', v'⟩ := p
    rw [get?_cons] at h
    split at h
    · cases h
    · next hk => rw [set, if_neg (Ne.symm hk), ih h, List.cons_append]

/-- A write never removes a key. -/
theorem get?_set_isSome {d : Dict κ β} {k₁ : κ} (h : (d.get? k₁).isSome) (k : κ) (v : β) :
    ((d.set k v).get? k₁).isSome := by
  rw [get?_set]
  split <;> simp [h]

/-- Of two writes to one key the second counts. -/
theorem set_set (d : Dict κ β) (k : κ) (v v' : β) : (d.set k v).set k v' = d.set k v' := by
  induction d with
  | nil => simp [set]
  | cons p d ih =>
    obtain ⟨k', w⟩ := p
    simp only [set]
    split
    · next hk => rw [set, if_pos hk]
    · next hk => rw [set, if_neg hk, ih]

/-- Lookup after a removal: the removed key is gone, every other key keeps its value. -/
theorem get?_erase (d : Dict κ β) (k k₁ : κ) :
    (d.erase k).get? k₁ = if k₁ = k then none else d.get? k₁ := by
  induction d with
  | nil => simp [erase]
  | cons p d ih =>
    obtain ⟨k', v'⟩ := p
    simp only [erase] at ih
    -- entries with the key are filtered out
    by_cases hk : k' = k
    · subst hk
      simp only [erase, ne_eq, not_true_eq_false, decide_false, List.filter_cons_of_neg,
        Bool.false_eq_true, not_false_eq_true, get?_cons]
      rw [ih]
      split <;> simp_all
    · simp only [erase, ne_eq, hk, not_false_eq_true, decide_true, List.filter_cons_of_pos,
        get?_cons]
      rw [ih]
      -- the others stay
      by_cases h₁ : k₁ = k'
      · subst h₁; simp [hk]
      · simp [h₁]

/-- Writing a key is not seen once the key is removed. -/
theorem erase_set (d : Dict κ β) (k : κ) (v : β) : (d.set k v).erase k = d.erase k := by
  induction d with
  | nil => simp [set, erase]
  | cons p d ih =>
    obtain ⟨k', w⟩ := p
    unfold erase at ih ⊢
    by_cases hk : k' = k
    · simp [set, hk]
    · simp only [set, if_neg hk, List.filter_cons, ih]

/-- A key with an entry is among the keys. -/
theorem mem_keys_of_get?_isSome {d : Dict κ β} {k : κ} (h : (d.get? k).isSome = true) :
    k ∈ d.map Prod.fst := by
  induction d with
  | nil => cases h
  | cons p d ih =>
    obtain ⟨k', v⟩ := p
    rw [get?_cons] at h
    split at h
    · next hk => exact hk ▸ List.mem_cons_self
    · exact List.mem_cons_of_mem _ (ih h)

/-- A value that is found is stored. -/
theorem mem_of_get? {d : Dict κ β} {k : κ} {v : β} (h : d.get? k = some v) : (k, v) ∈ d := by
  induction d with
  | nil => cases h
  | cons p d ih =>
    obtain ⟨k', v'⟩ := p
    rw [get?_cons] at h
    split at h
    · next hk => cases h; exact hk ▸ List.mem_cons_self
    · exact List.mem_cons_of_mem _ (ih h)

/-- An entry after a write is the written one or an old one. -/
theorem mem_set {d : Dict κ β} {k : κ} {v : β} {p : κ × β} (h : p ∈ d.set k v) :
    p = (k, v) ∨ p ∈ d := by
  induction d with
  -- the new entry is the whole dictionary
  | nil => exact .inl (by simpa [set] using h)
  | cons q d ih =>
    obtain ⟨k', v'⟩ := q
    simp only [set] at h
    split at h
    -- at the head
    · next hk =>
      rcases List.mem_cons.mp h with rfl | h
      · exact .inl (by rw [hk])
      · exact .inr (List.mem_cons_of_mem _ h)
    -- behind it
    · rcases List.mem_cons.mp h with rfl | h
      · exact .inr List.mem_cons_self
      · exact (ih h).imp_right (List.mem_cons_of_mem _)

/-- A value found after a write is the written one or an old one of another key. -/
theorem of_get?_set {d : Dict κ β} {k k₁ : κ} {v v₁ : β} (h : (d.set k v).get? k₁ = some v₁) :
    (k₁ = k ∧ v₁ = v) ∨ (k₁ ≠ k ∧ d.get? k₁ = some v₁) := by
  rw [get?_set] at h
  split at h
  · next hk => exact .inl ⟨hk, (Option.some.inj h).symm⟩
  · next hk => exact .inr ⟨hk, h⟩

/-- A value found after a removal was there before, under another key. -/
theorem of_get?_erase {d : Dict κ β} {k k₁ : κ} {v₁ : β} (h : (d.erase k).get? k₁ = some v₁) :
    k₁ ≠ k ∧ d.get? k₁ = some v₁ := by
  rw [get?_erase] at h
  split at h
  · cases h
  · next hk => exact ⟨hk, h⟩

/-- The sum of a measure over the entries. -/
def total (d : Dict κ β) (f : β → Nat) : Nat := (d.map fun p => f p.2).sum

/-- Writing over a value exchanges its share of a total. -/
theorem total_set {d : Dict κ β} {k : κ} {v : β} (f : β → Nat) (h : d.get? k = some v) (v' : β) :
    (d.set k v').total f + f v = d.total f + f v' := by
  induction d with
  | nil => cases h
  | cons p d ih =>
    obtain ⟨k', w⟩ := p
    rw [get?_cons] at h
    by_cases hk : k = k'
    -- the head is replaced: its value is exchanged in the sum
    · rw [if_pos hk] at h
      obtain rfl := Option.some.inj h
      simp only [set, hk, if_true, total, List.map_cons, List.sum_cons]
      omega
    -- the head stays: the sum behind it changes
    · rw [if_neg hk] at h
      have hrest := ih h
      simp only [set, Ne.symm hk, if_false, total, List.map_cons, List.sum_cons] at hrest ⊢
      omega

/-- Removing an entry takes at least its share from a total. -/
theorem total_erase {d : Dict κ β} {k : κ} {v : β} (f : β → Nat) (h : d.get? k = some v) :
    (d.erase k).total f + f v ≤ d.total f := by
  -- without the first entry the rest loses no more
  have hle : ∀ d : Dict κ β, (d.erase k).total f ≤ d.total f := by
    intro d
    induction d with
    | nil => exact Nat.le_refl _
    | cons p d ih =>
      simp only [erase, total, List.filter_cons] at ih ⊢
      split <;> simp only [List.map_cons, List.sum_cons] <;> omega
  induction d with
  | nil => cases h
  | cons p d ih =>
    obtain ⟨k', w⟩ := p
    rw [get?_cons] at h
    by_cases hk : k = k'
    · rw [if_pos hk] at h
      obtain rfl := Option.some.inj h
      have hrest := hle d
      simp only [erase, total, hk, ne_eq, not_true_eq_false, decide_false, List.filter_cons,
        Bool.false_eq_true, if_false, List.map_cons, List.sum_cons] at hrest ⊢
      omega
    · rw [if_neg hk] at h
      have hrest := ih h
      simp only [erase, total, List.filter_cons, ne_eq, Ne.symm hk, not_false_eq_true, decide_true,
        if_true, List.map_cons, List.sum_cons] at hrest ⊢
      omega

/-- The sum of a measure over the entries of one key. -/
def share (d : Dict κ β) (k : κ) (f : β → Nat) : Nat :=
  ((d.filter fun p => p.1 = k).map fun p => f p.2).sum

section Share

variable (f : β → Nat) (k : κ)

@[simp] theorem share_nil : share ([] : Dict κ β) k f = 0 := rfl

theorem share_cons (k' : κ) (v : β) (d : Dict κ β) :
    share ((k', v) :: d) k f = (if k' = k then f v else 0) + share d k f := by
  by_cases hk : k' = k
  · simp [share, hk]
  · simp [share, hk]

/-- The share of two parts. -/
theorem share_append (d d' : Dict κ β) : share (d ++ d') k f = share d k f + share d' k f := by
  simp [share]

/-- A part of the entries and the rest of them. -/
theorem share_filter_add (d : Dict κ β) (p : κ × β → Bool) :
    share (d.filter p) k f + share (d.filter fun x => !p x) k f = share d k f := by
  induction d with
  | nil => rfl
  | cons x d ih =>
    obtain ⟨k', v⟩ := x
    cases hp : p (k', v) with
    -- the entry is in the first half
    | true =>
      simp only [List.filter_cons, hp, if_true, Bool.not_true, Bool.false_eq_true, if_false,
        share_cons]
      omega
    -- or in the second
    | false =>
      simp only [List.filter_cons, hp, if_true, Bool.not_false, Bool.false_eq_true, if_false,
        share_cons]
      omega

/-- The entries of other keys do not count. -/
theorem share_of_notMem {d : Dict κ β} (h : k ∉ d.map Prod.fst) : share d k f = 0 := by
  induction d with
  | nil => rfl
  | cons x d ih =>
    obtain ⟨k', v⟩ := x
    simp only [List.map_cons, List.mem_cons, not_or] at h
    rw [share_cons, if_neg (Ne.symm h.1), ih h.2]

/-- A key that is not there has no share. -/
theorem share_of_get?_eq_none {d : Dict κ β} (h : d.get? k = none) : share d k f = 0 := by
  induction d with
  | nil => rfl
  | cons x d ih =>
    obtain ⟨k', v⟩ := x
    rw [get?_cons] at h
    by_cases hk : k = k'
    · rw [if_pos hk] at h
      cases h
    · rw [if_neg hk] at h
      rw [share_cons, if_neg (Ne.symm hk), ih h]

/-- Where no key is written twice, the share of a key is that of its value. -/
theorem share_of_get? {d : Dict κ β} (hnodup : (d.map Prod.fst).Nodup) {v : β}
    (h : d.get? k = some v) : share d k f = f v := by
  induction d with
  | nil => cases h
  | cons x d ih =>
    obtain ⟨k', w⟩ := x
    rw [List.map_cons, List.nodup_cons] at hnodup
    rw [get?_cons] at h
    by_cases hk : k = k'
    -- the key is at the head, and nowhere behind it
    · rw [if_pos hk] at h
      obtain rfl := Option.some.inj h
      rw [share_cons, if_pos hk.symm, share_of_notMem f k (hk ▸ hnodup.1), Nat.add_zero]
    -- the head has another key
    · rw [if_neg hk] at h
      rw [share_cons, if_neg (Ne.symm hk), Nat.zero_add]
      exact ih hnodup.2 h

/-- Nor has one that was erased. -/
theorem share_erase_self (d : Dict κ β) : share (d.erase k) k f = 0 := by
  apply share_of_get?_eq_none
  rw [get?_erase, if_pos rfl]

/-- The shares of the other keys stay. -/
theorem share_erase_ne (d : Dict κ β) {k' : κ} (h : k ≠ k') :
    share (d.erase k') k f = share d k f := by
  induction d with
  | nil => rfl
  | cons x d ih =>
    obtain ⟨k₁, v⟩ := x
    simp only [erase, List.filter_cons] at ih ⊢
    by_cases hk : k₁ = k'
    -- an erased entry has another key than `k`
    · subst hk
      simp only [ne_eq, not_true_eq_false, decide_false, Bool.false_eq_true, if_false, share_cons,
        if_neg (Ne.symm h), Nat.zero_add]
      exact ih
    · simp only [ne_eq, hk, not_false_eq_true, decide_true, if_true, share_cons]
      rw [ih]

end Share

omit [DecidableEq κ] in
/-- A key without an entry can be written at the end. -/
theorem nodup_append_new {d : Dict κ β} (hnodup : (d.map Prod.fst).Nodup) {k : κ}
    (h : k ∉ d.map Prod.fst) (v : β) : ((d ++ [(k, v)]).map Prod.fst).Nodup := by
  rw [List.map_append, List.nodup_append]
  refine ⟨hnodup, List.nodup_singleton k, ?_⟩
  intro a ha b hb hab
  rw [List.map_singleton, List.mem_singleton] at hb
  have hak : a = k := hab.trans hb
  rw [hak] at ha
  exact h ha

/-- A key that is not found is not there. -/
theorem notMem_keys_of_get?_eq_none {d : Dict κ β} {k : κ} (h : d.get? k = none) :
    k ∉ d.map Prod.fst := by
  intro hmem
  induction d with
  | nil => exact absurd hmem List.not_mem_nil
  | cons x d ih =>
    obtain ⟨k', v⟩ := x
    rw [get?_cons] at h
    by_cases hk : k = k'
    -- the head would have been found
    · rw [if_pos hk] at h
      cases h
    · rw [if_neg hk] at h
      rw [List.map_cons, List.mem_cons] at hmem
      exact ih h (hmem.resolve_left hk)

/-- Writing what is there changes nothing. -/
theorem set_of_get? {d : Dict κ β} {k : κ} {v : β} (h : d.get? k = some v) : d.set k v = d := by
  induction d with
  | nil => cases h
  | cons x d ih =>
    obtain ⟨k', w⟩ := x
    rw [get?_cons] at h
    by_cases hk : k = k'
    -- the head is what is set
    · rw [if_pos hk] at h
      obtain rfl := Option.some.inj h
      simp [set, hk]
    · rw [if_neg hk] at h
      rw [set, if_neg (Ne.symm hk), ih h]

/-- Writing a key that is there makes nothing longer. -/
theorem length_set_of_get? {d : Dict κ β} {k : κ} {v : β} (h : d.get? k = some v) (v' : β) :
    (d.set k v').length = d.length := by
  induction d with
  | nil => cases h
  | cons x d ih =>
    obtain ⟨k', w⟩ := x
    rw [get?_cons] at h
    by_cases hk : k' = k
    · rw [set, if_pos hk]
      rfl
    · rw [if_neg (Ne.symm hk)] at h
      rw [set, if_neg hk, List.length_cons, List.length_cons, ih h]

/-- Where no key is written twice, every entry is found. -/
theorem get?_of_mem {d : Dict κ β} (hnodup : (d.map Prod.fst).Nodup) {k : κ} {v : β}
    (h : (k, v) ∈ d) : d.get? k = some v := by
  induction d with
  | nil => exact absurd h List.not_mem_nil
  | cons x d ih =>
    obtain ⟨k', w⟩ := x
    rw [List.map_cons, List.nodup_cons] at hnodup
    rw [get?_cons]
    obtain heq | hmem := List.mem_cons.mp h
    -- the pair is the head
    · cases heq
      rw [if_pos rfl]
    · rw [if_neg, ih hnodup.2 hmem]
      -- or another pair of the same key, which `Nodup` excludes
      intro hk
      have hkey : k ∈ d.map Prod.fst := List.mem_map_of_mem (f := Prod.fst) hmem
      exact hnodup.1 (hk ▸ hkey)

/-- And the order of the entries does not matter. -/
theorem get?_perm {d d' : Dict κ β} (hperm : d.Perm d') (hnodup : (d.map Prod.fst).Nodup)
    (k : κ) : d.get? k = d'.get? k := by
  have hnodup' : (d'.map Prod.fst).Nodup := (hperm.map Prod.fst).nodup_iff.mp hnodup
  ext v
  constructor
  · exact fun h => get?_of_mem hnodup' (hperm.mem_iff.mp (mem_of_get? h))
  · exact fun h => get?_of_mem hnodup (hperm.mem_iff.mpr (mem_of_get? h))

/-- A partial observation of the stored values, as a partial map on the keys. -/
def view {γ : Type w} (d : Dict κ β) (f : β → Option γ) : κ → Option γ :=
  fun k => (d.get? k).bind f

section View

variable {γ : Type w} (f : β → Option γ)

@[simp] theorem view_nil : view ([] : Dict κ β) f = fun _ => none := rfl

/-- To set a key is to update the view. -/
theorem view_set (d : Dict κ β) (k : κ) (v : β) :
    (d.set k v).view f = Function.update (d.view f) k (f v) := by
  funext k₁
  simp only [view, get?_set, Function.update_apply]
  split <;> simp

/-- And so is to erase it. -/
theorem view_erase (d : Dict κ β) (k : κ) :
    (d.erase k).view f = Function.update (d.view f) k none := by
  funext k₁
  simp only [view, get?_erase, Function.update_apply]
  split <;> simp

/-- The view of a key that is there. -/
theorem view_of_get? {d : Dict κ β} {k : κ} {v : β} (h : d.get? k = some v) :
    d.view f k = f v := by
  simp [view, h]

end View

end Dict
