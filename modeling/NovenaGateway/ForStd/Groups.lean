import Mathlib.Data.List.Induction
import NovenaGateway.ForStd.DictMap

/-!
# Grouping by key

`groups` collects the values of a list of pairs under their keys, the keys in the order in which
they come first. Seen from one key nothing is lost and nothing changes places.
-/

universe u v

namespace Dict

variable {κ : Type u} {β : Type v} [DecidableEq κ]

/-- The values with a key, in order. -/
def valuesAt (k : κ) (l : List (κ × β)) : List β := (l.filter fun p => p.1 = k).map Prod.snd

/-- Append a value to those of its key. -/
def push (d : Dict κ (List β)) (p : κ × β) : Dict κ (List β) :=
  d.set p.1 ((d.get? p.1).getD [] ++ [p.2])

/-- The values of every key, in order. -/
def groups (l : List (κ × β)) : Dict κ (List β) := l.foldl push []

@[simp] theorem valuesAt_nil (k : κ) : valuesAt k ([] : List (κ × β)) = [] := rfl

theorem valuesAt_cons (k : κ) (p : κ × β) (l : List (κ × β)) :
    valuesAt k (p :: l) = if p.1 = k then p.2 :: valuesAt k l else valuesAt k l := by
  unfold valuesAt
  by_cases h : p.1 = k
  · simp [h]
  · simp [h]

/-- The values of two parts. -/
@[simp] theorem valuesAt_append (k : κ) (l l' : List (κ × β)) :
    valuesAt k (l ++ l') = valuesAt k l ++ valuesAt k l' := by
  simp [valuesAt]

/-- The last pair goes to its group. -/
theorem groups_concat (l : List (κ × β)) (p : κ × β) : groups (l ++ [p]) = (groups l).push p := by
  rw [groups, List.foldl_append]
  rfl

/-- Each key has one group. -/
theorem nodup_groups (l : List (κ × β)) : ((groups l).map Prod.fst).Nodup := by
  induction l using List.reverseRecOn with
  | nil => exact List.nodup_nil
  | append_singleton l p ih =>
    rw [groups_concat]
    exact nodup_set ih _ _

/-- And the group has its values, in their order. -/
theorem get?_groups (l : List (κ × β)) (k : κ) :
    ((groups l).get? k).getD [] = valuesAt k l := by
  induction l using List.reverseRecOn with
  | nil => rfl
  | append_singleton l p ih =>
    rw [groups_concat, push, get?_set, valuesAt_append, valuesAt_cons]
    by_cases h : k = p.1
    · rw [if_pos h, if_pos h.symm, Option.getD_some, ← h, ih]
      rfl
    · rw [if_neg h, if_neg (Ne.symm h), ih, valuesAt_nil, List.append_nil]

/-- Where no key is written twice, there is at most one value with a key. -/
theorem valuesAt_of_nodup {d : Dict κ β} (hnodup : (d.map Prod.fst).Nodup) (k : κ) :
    valuesAt k d = (d.get? k).toList := by
  induction d with
  | nil => rfl
  | cons p d ih =>
    obtain ⟨k', v⟩ := p
    rw [List.map_cons, List.nodup_cons] at hnodup
    rw [valuesAt_cons, get?_cons, ih hnodup.2]
    by_cases h : k' = k
    · have hrest : get? d k = none := by
        cases hget : get? d k with
        | none => rfl
        | some w =>
          have hmem : k ∈ d.map Prod.fst := List.mem_map_of_mem (f := Prod.fst) (mem_of_get? hget)
          exact absurd (h ▸ hmem) hnodup.1
      rw [if_pos h, if_pos h.symm, hrest]
      rfl
    · rw [if_neg h, if_neg (Ne.symm h)]

/-- From the view of a key, grouping keeps the list as it is. -/
theorem flatten_valuesAt_groups (l : List (κ × β)) (k : κ) :
    (valuesAt k (groups l)).flatten = valuesAt k l := by
  rw [valuesAt_of_nodup (nodup_groups l), ← get?_groups]
  cases (groups l).get? k with
  | none => rfl
  | some values => exact List.append_nil values

end Dict
