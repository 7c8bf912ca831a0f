import NovenaGateway.Native.Json

/-!
# Equality of JSON values

Python's `==` on decoded documents, with NaN as one object: it is transitive, and reflexive on
values whose objects have no key twice, as every decoded object has.

Key results:
- `Json.same_trans`
- `Json.same_self`
-/

namespace Novena

namespace Json

/-! ## Inversion -/

/-- Only null equals null. -/
theorem same_null {b : Json} : same null b = true ↔ b = null := by
  rcases b with _ | _ | _ | (_ | _ | _) | _ | _ | _ <;> simp [same, number?]

/-- A text equals the same text. -/
theorem same_str {s : String} {b : Json} : same (str s) b = true ↔ b = str s := by
  rcases b with _ | _ | _ | (_ | _ | _) | _ | _ | _ <;> simp [same, number?, eq_comm]

/-- Only a string is the same as a string. -/
theorem eq_str_of_same {a : Json} {s : String} (h : same a (str s) = true) : a = str s := by
  rcases a with _ | _ | _ | (_ | _ | _) | _ | _ | _ <;> simp [same, number?] at h ⊢
  exact h

/-- Python's `v == s` with a text says that `v` is the text. -/
theorem eq_str {a : Json} {s : String} (h : eq a (str s) = true) : a = str s := by
  unfold eq at h
  split at h
  · cases h
  · exact eq_str_of_same h

/-- A list equals a list, item by item. -/
theorem same_arr {xs : List Json} {b : Json} :
    same (arr xs) b = true ↔ ∃ ys, b = arr ys ∧ sameList xs ys = true := by
  rcases b with _ | _ | _ | (_ | _ | _) | _ | _ | _ <;> simp [same, number?]

/-- An object equals one with as many and the same members. -/
theorem same_obj {fs : List (String × Json)} {b : Json} : same (obj fs) b = true ↔
    ∃ gs, b = obj gs ∧ fs.length = gs.length ∧ sameFields fs gs = true := by
  rcases b with _ | _ | _ | (_ | _ | _) | _ | _ | _ <;> simp [same, number?]

/-- NaN is only the same as itself. -/
theorem same_nan {b : Json} : same (float .nan) b = true ↔ b = float .nan := by
  rcases b with _ | _ | _ | (_ | _ | _) | _ | _ | _ <;> simp [same, number?]

/-- And so is an infinity. -/
theorem same_inf {neg : Bool} {b : Json} :
    same (float (.inf neg)) b = true ↔ b = float (.inf neg) := by
  rcases b with _ | _ | _ | (_ | _ | _) | _ | _ | _ <;> simp [same, number?, eq_comm]

/-- A number is the same as the values that stand for it. -/
theorem same_number {a b : Json} {q : ℚ} (ha : a.number? = some q) :
    same a b = true ↔ b.number? = some q := by
  rcases a with _ | _ | _ | (_ | _ | _) | _ | _ | _ <;> simp [number?] at ha <;> subst ha <;>
    rcases b with _ | _ | _ | (_ | _ | _) | _ | _ | _ <;> simp [same, number?, eq_comm]

/-- A field of the first object is the same as the field of that name in the second. -/
theorem sameFields_lookup {gs hs : List (String × Json)} (h : sameFields gs hs = true) {k : String}
    {b : Json} (hb : gs.lookup k = some b) : ∃ c, hs.lookup k = some c ∧ same b c = true := by
  induction gs with
  | nil => cases hb
  | cons p gs ih =>
    obtain ⟨k', b'⟩ := p
    simp only [sameFields, Bool.and_eq_true] at h
    rw [List.lookup_cons] at hb
    split at hb
    · next hk =>
      cases hb
      rw [beq_iff_eq.mp hk]
      cases hc : hs.lookup k' with
      | none => rw [hc] at h; cases h.1
      | some c => rw [hc] at h; exact ⟨c, rfl, h.1⟩
    · exact ih h.2 hb

/-! ## Transitivity -/

/-- Equality goes through a number, whatever its type. -/
private theorem same_trans_number {a b c : Json} {q : ℚ} (ha : a.number? = some q)
    (hab : same a b = true) (hbc : same b c = true) : same a c = true := by
  have hb := (same_number ha).mp hab
  exact (same_number ha).mpr ((same_number hb).mp hbc)

mutual
/-- And through any value. -/
theorem same_trans : ∀ {a b c : Json}, same a b = true → same b c = true → same a c = true
  | null, b, c, hab, hbc => by rw [same_null] at hab; exact hab ▸ hbc
  | str s, b, c, hab, hbc => by rw [same_str] at hab; exact hab ▸ hbc
  | float .nan, b, c, hab, hbc => by rw [same_nan] at hab; exact hab ▸ hbc
  | float (.inf _), b, c, hab, hbc => by rw [same_inf] at hab; exact hab ▸ hbc
  | float (.fin _), _, _, hab, hbc => same_trans_number rfl hab hbc
  | bool _, _, _, hab, hbc => same_trans_number rfl hab hbc
  | int _, _, _, hab, hbc => same_trans_number rfl hab hbc
  | arr xs, b, c, hab, hbc => by
    obtain ⟨ys, rfl, hxy⟩ := same_arr.mp hab
    obtain ⟨zs, rfl, hyz⟩ := same_arr.mp hbc
    exact same_arr.mpr ⟨zs, rfl, sameList_trans hxy hyz⟩
  | obj fs, b, c, hab, hbc => by
    obtain ⟨gs, rfl, hlen, hfg⟩ := same_obj.mp hab
    obtain ⟨hs, rfl, hlen', hgh⟩ := same_obj.mp hbc
    exact same_obj.mpr ⟨hs, rfl, hlen.trans hlen', sameFields_trans hfg hgh⟩
/-- Through lists. -/
theorem sameList_trans : ∀ {xs ys zs : List Json}, sameList xs ys = true →
    sameList ys zs = true → sameList xs zs = true
  | [], [], [], _, _ => rfl
  | x :: xs, y :: ys, z :: zs, hxy, hyz => by
    simp only [sameList, Bool.and_eq_true] at hxy hyz ⊢
    exact ⟨same_trans hxy.1 hyz.1, sameList_trans hxy.2 hyz.2⟩
/-- And through objects. -/
theorem sameFields_trans : ∀ {fs gs hs : List (String × Json)}, sameFields fs gs = true →
    sameFields gs hs = true → sameFields fs hs = true
  | [], _, _, _, _ => rfl
  | (k, a) :: fs, gs, hs, hfg, hgh => by
    simp only [sameFields, Bool.and_eq_true] at hfg ⊢
    refine ⟨?_, sameFields_trans hfg.2 hgh⟩
    cases hb : gs.lookup k with
    | none => rw [hb] at hfg; cases hfg.1
    | some b =>
      rw [hb] at hfg
      obtain ⟨c, hc, hbc⟩ := sameFields_lookup hgh hb
      rw [hc]
      exact same_trans hfg.1 hbc
end

/-! ## Reflexivity -/

mutual
/-- No object in the value has a key twice. -/
def uniqueKeys : Json → Bool
  | arr xs => uniqueKeysList xs
  | obj fields => decide ((fields.map Prod.fst).Nodup) && uniqueKeysFields fields
  | _ => true
/-- No object among the items has a key twice. -/
def uniqueKeysList : List Json → Bool
  | [] => true
  | x :: xs => uniqueKeys x && uniqueKeysList xs
/-- No object among the fields has a key twice. -/
def uniqueKeysFields : List (String × Json) → Bool
  | [] => true
  | (_, x) :: fields => uniqueKeys x && uniqueKeysFields fields
end

/-- A key that is not among the fields may be put in front. -/
private theorem sameFields_cons {fs gs : List (String × Json)} {k : String} {a : Json}
    (hk : k ∉ fs.map Prod.fst) (h : sameFields fs gs = true) :
    sameFields fs ((k, a) :: gs) = true := by
  induction fs with
  | nil => rfl
  | cons p fs ih =>
    obtain ⟨k', a'⟩ := p
    simp only [List.map_cons, List.mem_cons, not_or] at hk
    simp only [sameFields, Bool.and_eq_true] at h ⊢
    have hne : (k' == k) = false := by simpa using Ne.symm hk.1
    rw [List.lookup_cons, hne]
    exact ⟨h.1, ih hk.2 h.2⟩

mutual
/-- A value equals itself if no key is in it twice. -/
theorem same_self : ∀ {a : Json}, a.uniqueKeys = true → same a a = true
  | null, _ => rfl
  | str _, _ => same_str.mpr rfl
  | float .nan, _ => rfl
  | float (.inf _), _ => same_inf.mpr rfl
  | float (.fin _), _ => (same_number rfl).mpr rfl
  | bool _, _ => (same_number rfl).mpr rfl
  | int _, _ => (same_number rfl).mpr rfl
  | arr xs, h => same_arr.mpr ⟨xs, rfl, sameList_self h⟩
  | obj fs, h => by
    simp only [uniqueKeys, Bool.and_eq_true, decide_eq_true_eq] at h
    exact same_obj.mpr ⟨fs, rfl, rfl, sameFields_self h.1 h.2⟩
/-- And so does a list. -/
theorem sameList_self : ∀ {xs : List Json}, uniqueKeysList xs = true → sameList xs xs = true
  | [], _ => rfl
  | x :: xs, h => by
    simp only [uniqueKeysList, Bool.and_eq_true] at h
    simp only [sameList, Bool.and_eq_true]
    exact ⟨same_self h.1, sameList_self h.2⟩
/-- And an object. -/
theorem sameFields_self : ∀ {fs : List (String × Json)}, (fs.map Prod.fst).Nodup →
    uniqueKeysFields fs = true → sameFields fs fs = true
  | [], _, _ => rfl
  | (k, a) :: fs, hnodup, h => by
    simp only [uniqueKeysFields, Bool.and_eq_true] at h
    simp only [List.map_cons, List.nodup_cons] at hnodup
    simp only [sameFields, Bool.and_eq_true]
    refine ⟨?_, sameFields_cons hnodup.1 (sameFields_self hnodup.2 h.2)⟩
    simp only [List.lookup_cons, beq_self_eq_true]
    exact same_self h.1
end

end Json

end Novena
