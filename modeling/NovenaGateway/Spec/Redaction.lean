import Mathlib.Order.Bounds.Basic
import NovenaGateway.Spec.RedactLoop

/-!
# What redacting a text leaves

A secret is what stands between an assignment and the next delimiter. Over all assignments, the
text between two delimiters is cut behind the first assignment in it, so what is left of a text is
what is `visible` in it, with markers put in. That is so where no `İ` stands before an assignment
when it is looked for: `İ` has two characters in lower case, and the index found there is applied
to the text.

Key results:
- `Redaction.Cells.sweep`
- `Redaction.Cells.marked`
- `Redaction.secrets_redacted`
-/

namespace Novena

namespace Redaction

/-! ## Secrets -/

/-- Index `q` is at or after index `s` with no delimiter between them: it is in the secret that
    starts at `s`. -/
def InRun (text : List Char) (s q : Nat) : Prop :=
  s ≤ q ∧ q < text.length ∧ ∀ c ∈ (text.drop s).take (q + 1 - s), isDelimiter c = false

instance (text : List Char) (s q : Nat) : Decidable (InRun text s q) :=
  have : Decidable (∀ c ∈ (text.drop s).take (q + 1 - s), isDelimiter c = false) :=
    List.decidableBAll _ _
  inferInstanceAs (Decidable (_ ∧ _ ∧ _))

/-- Index `q` is in the secret after an assignment of `as`. -/
def CoveredBy (as : List (List Char × Char)) (text : List Char) (q : Nat) : Prop :=
  ∃ a ∈ as, ∃ p < q, OccursAt (marker a) text p ∧ InRun text (p + (marker a).length) q

instance (as : List (List Char × Char)) (text : List Char) (q : Nat) :
    Decidable (CoveredBy as text q) :=
  inferInstanceAs (Decidable (∃ a ∈ as, ∃ p < q, _))

/-- The text without its secrets. -/
def visible (text : List Char) : List Char :=
  (List.range text.length).filterMap fun q =>
    if CoveredBy assignments text q then none else text[q]?

/-- `out` is `kept` with markers put in; closing brackets may follow a marker, where others were
    replaced with the secret it stands for. -/
inductive Marked : List Char → List Char → Prop
  | nil : Marked [] []
  | keep (c : Char) {kept out : List Char} (h : Marked kept out) : Marked (c :: kept) (c :: out)
  | mark (n : Nat) {kept out : List Char} (h : Marked kept out) :
      Marked kept (redacted.toList ++ List.replicate n ']' ++ out)

/-- Every `İ` that stands before an assignment is in the secret after an assignment that is not
    looked for later. -/
def Aligned (text : List Char) : Prop :=
  ∀ x ∈ assignments.zipIdx, ∀ p < text.length, OccursAt (marker x.1) text p →
    ∀ q < p, text[q]? = some dottedI → CoveredBy (assignments.take (x.2 + 1)) text q

instance (text : List Char) : Decidable (Aligned text) :=
  inferInstanceAs (Decidable (∀ x ∈ _, ∀ p < _, _ → ∀ q < _, _ → _))

/-! ## All assignments -/

/-- An assignment of `as` ends at index `s`. -/
def Ends (as : List (List Char × Char)) (text : List Char) (s : Nat) : Prop :=
  ∃ a ∈ as, ∃ p, OccursAt (marker a) text p ∧ s = p + (marker a).length

/-- What the passes for `as` make of a text between two delimiters. -/
inductive Cell (as : List (List Char × Char)) (text : List Char) : List Char → Prop
  | untouched (h : ∀ s, ¬ Ends as text s) : Cell as text text
  | cut {s : Nat} (n : Nat) (h : IsLeast {s | Ends as text s} s) :
      Cell as text (text.take s ++ redacted.toList ++ List.replicate n ']')

/-- What they make of any text. -/
inductive Cells (as : List (List Char × Char)) : List Char → List Char → Prop
  | last {text x : List Char} (hfree : Free text) (h : Cell as text x) : Cells as text x
  | cons {text x rest xs : List Char} {d : Char} (hfree : Free text) (h : Cell as text x)
      (hd : isDelimiter d = true) (hrest : Cells as rest xs) :
      Cells as (text ++ d :: rest) (x ++ d :: xs)

/-- The marker is a word up to its last character, which is a delimiter. -/
theorem cut_eq (k : List Char) (n : Nat) :
    k ++ redacted.toList ++ List.replicate n ']' =
      (k ++ '[' :: "REDACTED".toList) ++ ']' :: List.replicate n ']' := by
  have hredacted : redacted.toList = '[' :: "REDACTED".toList ++ [']'] := by decide
  rw [hredacted]
  simp only [List.append_assoc, List.cons_append, List.nil_append]

section Cells

variable {m : List Char}

/-- Nothing that is looked for stands in the word, or over its beginning. -/
theorem occursAt_word (hm : Plain m) {k : List Char} {p : Nat} :
    OccursAt m (k ++ '[' :: "REDACTED".toList) p ↔ OccursAt m k p := by
  have hlower : lowerChar '[' = ['['] := by decide
  rw [occursAt_append hm hm.bracket hlower]
  constructor
  · rintro (h | ⟨p', -, h⟩)
    · exact h
    · have hle := h.add_length_le hm
      have hlength : "REDACTED".toList.length = 8 := by decide
      exact absurd h (hm.word p' (by omega))
  · exact .inl

/-- There is no marker in a row of brackets. -/
theorem not_occursAt_brackets (hm : Plain m) (n p : Nat) :
    ¬ OccursAt m (List.replicate n ']') p := by
  intro h
  have hle := h.add_length_le hm
  have hpos := List.length_pos_iff.mpr hm.ne_nil
  obtain ⟨x, xs, rfl⟩ := List.exists_cons_of_ne_nil hm.ne_nil
  have hdelimiter : isDelimiter ']' = true := by decide
  rw [List.length_replicate] at hle
  rw [OccursAt, List.drop_replicate] at h
  obtain ⟨j, hj⟩ : ∃ j, n - p = j + 1 := ⟨n - p - 1, by omega⟩
  rw [hj, List.replicate_succ] at h
  exact not_starts_nil hm ((starts_append_delimiter hm hdelimiter (x := [])).mp h)

/-- What is put in the place of a secret brings no marker. -/
theorem occursAt_cut (hm : Plain m) {k : List Char} {n p : Nat} :
    OccursAt m (k ++ redacted.toList ++ List.replicate n ']') p ↔ OccursAt m k p := by
  have hdelimiter : isDelimiter ']' = true := by decide
  rw [cut_eq, occursAt_append_delimiter hm hdelimiter, occursAt_word hm]
  constructor
  · rintro (h | ⟨p', -, h⟩)
    · exact h
    · exact absurd h (not_occursAt_brackets hm n p')
  · exact .inl

/-- A pass over what was cut already adds a bracket. -/
theorem sweep_cut (hm : Plain m) {k : List Char} (hfree : Free k) (n : Nat) {p : Nat}
    (hp : OccursAt m k p) (hfirst : ∀ q < p, ¬ OccursAt m k q) (hdotted : dottedI ∉ k.take p) :
    Sweep m (k ++ redacted.toList ++ List.replicate n ']')
      (k.take (p + m.length) ++ redacted.toList ++ List.replicate (n + 1) ']') := by
  have hdelimiter : isDelimiter ']' = true := by decide
  have hle := hp.add_length_le hm
  have hword : Free (k ++ '[' :: "REDACTED".toList) := by
    have hfree' : ('[' :: "REDACTED".toList).any isDelimiter = false := by decide
    intro c hc
    rcases List.mem_append.mp hc with hc | hc
    · exact hfree c hc
    · exact Bool.eq_false_of_not_eq_true (List.any_eq_false.mp hfree' c hc)
  -- the mark is swept like a word that ends in a delimiter
  have hsweep := hword.sweep hm ((occursAt_word hm).mpr hp)
    (fun q hq h => hfirst q hq ((occursAt_word hm).mp h))
    (by rwa [List.take_append_of_le_length (by omega)])
  rw [List.take_append_of_le_length hle] at hsweep
  -- nothing occurs in the brackets behind it
  have hbrackets : Sweep m (List.replicate n ']') (List.replicate n ']') :=
    .done (not_occursAt_brackets hm n)
  rw [cut_eq]
  refine hsweep.append hm hdelimiter hbrackets ?_
  rintro ⟨p', h⟩
  exact absurd h (not_occursAt_brackets hm n p')

end Cells

section Pass

variable {as : List (List Char × Char)} {a : List Char × Char}

/-- An assignment ends there with more markers too. -/
theorem Ends.append_left {text : List Char} {s : Nat} (h : Ends as text s)
    (as' : List (List Char × Char)) : Ends (as ++ as') text s := by
  obtain ⟨b, hb, hrest⟩ := h
  exact ⟨b, List.mem_append_left as' hb, hrest⟩

/-- With one marker more, it ends at one of this marker or as before. -/
theorem ends_append_singleton {text : List Char} {s : Nat} :
    Ends (as ++ [a]) text s ↔
      Ends as text s ∨ ∃ p, OccursAt (marker a) text p ∧ s = p + (marker a).length := by
  simp only [Ends, List.mem_append, List.mem_singleton, or_and_right, exists_or, exists_eq_left]

/-- The first occurrence of a text, if there is one. -/
theorem exists_first {m text : List Char} (h : ∃ p, OccursAt m text p) :
    ∃ p, OccursAt m text p ∧ ∀ q < p, ¬ OccursAt m text q :=
  ⟨Nat.find h, Nat.find_spec h, fun _ hq => Nat.find_min h hq⟩

/-- A character of the beginning has a place there. -/
theorem exists_of_mem_take {c : Char} {text : List Char} {n : Nat} (h : c ∈ text.take n) :
    ∃ q < n, text[q]? = some c := by
  obtain ⟨q, hq⟩ := List.mem_iff_getElem?.mp h
  rw [List.getElem?_take] at hq
  split at hq
  · next hlt => exact ⟨q, hlt, hq⟩
  · cases hq

/-- An `İ` at index `q` is behind an assignment of `as`. -/
def Shielded (as : List (List Char × Char)) (text : List Char) (q : Nat) : Prop :=
  text[q]? = some dottedI → ∃ s ≤ q, Ends as text s

/-- The pass for one more assignment, between two delimiters. -/
theorem Cell.sweep (hm : Plain (marker a)) {text x : List Char} (hfree : Free text)
    (h : Cell as text x)
    (hshielded : ∀ p, OccursAt (marker a) text p → ∀ q < p, Shielded (as ++ [a]) text q) :
    ∃ x', Sweep (marker a) x x' ∧ Cell (as ++ [a]) text x' := by
  have hpos := List.length_pos_iff.mpr hm.ne_nil
  -- what the first occurrence that is left does to the text up to index `n`
  have hleast : ∀ n p, OccursAt (marker a) (text.take n) p →
      (∀ q < p, ¬ OccursAt (marker a) (text.take n) q) → (∀ s, Ends as text s → n ≤ s) →
      IsLeast {s | Ends (as ++ [a]) text s} (p + (marker a).length) ∧
        dottedI ∉ text.take p := by
    intro n p hp hfirst hbound
    obtain ⟨hoccurs, hle⟩ := (occursAt_take hm).mp hp
    have hlower : ∀ s, Ends (as ++ [a]) text s → p + (marker a).length ≤ s := by
      intro s hs
      rcases ends_append_singleton.mp hs with hs | ⟨p', hp', rfl⟩
      · exact Nat.le_trans hle (hbound s hs)
      · by_contra hlt
        exact hfirst p' (by omega) ((occursAt_take hm).mpr ⟨hp', by omega⟩)
    refine ⟨⟨ends_append_singleton.mpr (.inr ⟨p, hoccurs, rfl⟩), hlower⟩, ?_⟩
    intro hmem
    obtain ⟨q, hqp, hq⟩ := exists_of_mem_take hmem
    obtain ⟨s, hsq, hs⟩ := hshielded p hoccurs q hqp hq
    have := hlower s hs
    omega
  -- a word that no assignment has cut yet, or one that is cut at `s`
  cases h with
  | untouched hnone =>
    by_cases hoccurs : ∃ p, OccursAt (marker a) text p
    · obtain ⟨p, hp, hfirst⟩ := exists_first hoccurs
      have htake : text.take text.length = text := List.take_length
      obtain ⟨hleast, hdotted⟩ := hleast text.length p (htake.symm ▸ hp)
        (fun q hq => htake.symm ▸ hfirst q hq) fun s hs => absurd hs (hnone s)
      have hcell := Cell.cut 0 hleast
      rw [List.replicate_zero, List.append_nil] at hcell
      exact ⟨_, hfree.sweep hm hp hfirst hdotted, hcell⟩
    · refine ⟨text, .done fun p hp => hoccurs ⟨p, hp⟩, .untouched fun s hs => ?_⟩
      rcases ends_append_singleton.mp hs with hs | ⟨p, hp, -⟩
      · exact hnone s hs
      · exact hoccurs ⟨p, hp⟩
  -- a second cut can only come before the first
  | @cut s n hs =>
    by_cases hoccurs : ∃ p, OccursAt (marker a) (text.take s) p
    · obtain ⟨p, hp, hfirst⟩ := exists_first hoccurs
      obtain ⟨hleast, hdotted⟩ := hleast s p hp hfirst fun s' hs' => hs.2 hs'
      have hfree' : Free (text.take s) := fun c hc => hfree c (List.mem_of_mem_take hc)
      have hle := ((occursAt_take hm).mp hp).2
      have htake : ∀ k ≤ s, (text.take s).take k = text.take k := by
        intro k hk
        rw [List.take_take, Nat.min_eq_left hk]
      have hsweep := sweep_cut hm hfree' n hp hfirst (by rwa [htake p (by omega)])
      rw [htake _ hle] at hsweep
      exact ⟨_, hsweep, .cut (n + 1) hleast⟩
    -- or there is none, and the word stays
    · refine ⟨_, .done fun p hp => hoccurs ⟨p, (occursAt_cut hm).mp hp⟩, .cut n ?_⟩
      refine ⟨hs.1.append_left [a], fun s' hs' => ?_⟩
      rcases ends_append_singleton.mp hs' with hs' | ⟨p, hp, rfl⟩
      · exact hs.2 hs'
      · by_contra hlt
        exact hoccurs ⟨p, (occursAt_take hm).mpr ⟨hp, by omega⟩⟩

/-- No `İ` is left where every one is shielded. -/
theorem Cell.clean {text x : List Char} (h : Cell as text x) (hshielded : ∀ q, Shielded as text q) :
    dottedI ∉ x := by
  intro hmem
  cases h with
  | untouched hnone =>
    obtain ⟨q, hq⟩ := List.mem_iff_getElem?.mp hmem
    obtain ⟨s, -, hs⟩ := hshielded q hq
    exact hnone s hs
  | @cut s n hs =>
    have hredacted : dottedI ∉ redacted.toList := by decide
    have hbracket : dottedI ≠ ']' := by decide
    rcases List.mem_append.mp hmem with hmem | hmem
    · rcases List.mem_append.mp hmem with hmem | hmem
      · obtain ⟨q, hqs, hq⟩ := exists_of_mem_take hmem
        obtain ⟨s', hle, hs'⟩ := hshielded q hq
        have := hs.2 hs'
        omega
      · exact hredacted hmem
    · exact hbracket (List.mem_replicate.mp hmem).2

/-- Whatever is found in what is left was in the text. -/
theorem Cell.occurs {m : List Char} (hm : Plain m) {text x : List Char} (h : Cell as text x)
    {p : Nat} (hp : OccursAt m x p) : OccursAt m text p := by
  cases h with
  | untouched => exact hp
  | cut n hs => exact ((occursAt_take hm).mp ((occursAt_cut hm).mp hp)).1

/-- A marker of the redacted text was in the text. -/
theorem Cells.occurs {m : List Char} (hm : Plain m) {text x : List Char} (h : Cells as text x)
    (hx : ∃ p, OccursAt m x p) : ∃ p, OccursAt m text p := by
  induction h with
  | last _ h =>
    obtain ⟨p, hp⟩ := hx
    exact ⟨p, h.occurs hm hp⟩
  | @cons text x rest xs d _ h hd _ ih =>
    obtain ⟨p, hp⟩ := hx
    rcases (occursAt_append_delimiter hm hd).mp hp with hp | ⟨p', -, hp⟩
    · exact ⟨p, (occursAt_append_delimiter hm hd).mpr (.inl (h.occurs hm hp))⟩
    · obtain ⟨p'', hp''⟩ := ih ⟨p', hp⟩
      exact ⟨_, (occursAt_append_delimiter hm hd).mpr (.inr ⟨p'', rfl, hp''⟩)⟩

/-! ### Secrets in pieces of a text -/

/-- No character of a secret is a delimiter. -/
theorem InRun.getElem? {text : List Char} {s q r : Nat} (h : InRun text s q) (hs : s ≤ r)
    (hr : r ≤ q) : ∃ c, text[r]? = some c ∧ isDelimiter c = false := by
  obtain ⟨-, hq, hrun⟩ := h
  obtain ⟨c, hc⟩ : ∃ c, text[r]? = some c :=
    ⟨_, List.getElem?_eq_getElem (Nat.lt_of_le_of_lt hr hq)⟩
  refine ⟨c, hc, hrun c (List.mem_iff_getElem?.mpr ⟨r - s, ?_⟩)⟩
  have hrs : s + (r - s) = r := by omega
  rw [List.getElem?_take, if_pos (by omega), List.getElem?_drop, hrs, hc]

/-- Behind a piece the text goes on with the rest. -/
theorem drop_piece (text rest : List Char) (d : Char) (i : Nat) :
    (text ++ d :: rest).drop (text.length + 1 + i) = rest.drop i := by
  rw [Nat.add_assoc, List.drop_length_add_append, Nat.add_comm 1 i, List.drop_succ_cons]

/-- And so do the runs of the rest. -/
theorem inRun_piece {text rest : List Char} {d : Char} {s q : Nat} :
    InRun (text ++ d :: rest) (text.length + 1 + s) (text.length + 1 + q) ↔ InRun rest s q := by
  have hlength : (text ++ d :: rest).length = text.length + 1 + rest.length := by
    rw [List.length_append, List.length_cons]
    omega
  have hrun : text.length + 1 + q + 1 - (text.length + 1 + s) = q + 1 - s := by omega
  rw [InRun, InRun, drop_piece, hrun, hlength, Nat.add_le_add_iff_left, Nat.add_lt_add_iff_left]

/-- A delimiter is in no secret. -/
theorem not_coveredBy_delimiter {text rest : List Char} {d : Char} (hd : isDelimiter d = true) :
    ¬ CoveredBy as (text ++ d :: rest) text.length := by
  rintro ⟨a, ha, p, -, -, hrun⟩
  obtain ⟨c, hc, hfree⟩ := hrun.getElem? hrun.1 (Nat.le_refl _)
  have hat : (text ++ d :: rest)[text.length]? = some d := by simp
  obtain rfl := Option.some.inj (hat.symm.trans hc)
  rw [hd] at hfree
  cases hfree

section Plain

variable (hplain : ∀ a ∈ as, Plain (marker a))

include hplain

/-- Up to the next delimiter everything behind an assignment is its secret. -/
theorem coveredBy_iff_ends (text : List Char) (n : Nat) {q : Nat} (hfree : Free (text.take n)) (hq : q < n)
    (hlength : q < text.length) : CoveredBy as text q ↔ ∃ s ≤ q, Ends as (text.take n) s := by
  constructor
  · rintro ⟨a, ha, p, -, hp, hrun⟩
    have hle : p + (marker a).length ≤ q := hrun.1
    exact ⟨_, hle, a, ha, p, (occursAt_take (hplain a ha)).mpr ⟨hp, by omega⟩, rfl⟩
  · rintro ⟨s, hsq, a, ha, p, hp, rfl⟩
    have hpos := List.length_pos_iff.mpr (hplain a ha).ne_nil
    refine ⟨a, ha, p, by omega, ((occursAt_take (hplain a ha)).mp hp).1, hsq, hlength, ?_⟩
    intro c hc
    have htake : text.take (q + 1) = (text.take n).take (q + 1) := by
      rw [List.take_take, Nat.min_eq_left (by omega)]
    rw [← List.drop_take, htake] at hc
    exact hfree c (List.mem_of_mem_take (List.mem_of_mem_drop hc))

/-- Within a piece a place is covered from the first end of an assignment on. -/
theorem coveredBy_piece_left {text rest : List Char} {d : Char} (hfree : Free text) {q : Nat}
    (hq : q < text.length) : CoveredBy as (text ++ d :: rest) q ↔ ∃ s ≤ q, Ends as text s := by
  have htake : (text ++ d :: rest).take text.length = text := List.take_left
  have hlength : q < (text ++ d :: rest).length := by
    rw [List.length_append]
    omega
  have h := coveredBy_iff_ends hplain (text ++ d :: rest) text.length
    (htake.symm ▸ hfree) hq hlength
  rwa [htake] at h

/-- Behind it the rest decides. -/
theorem coveredBy_piece_right (text : List Char) {rest : List Char} {d : Char} (hd : isDelimiter d = true)
    {q : Nat} : CoveredBy as (text ++ d :: rest) (text.length + 1 + q) ↔ CoveredBy as rest q := by
  constructor
  · rintro ⟨a, ha, p, hpq, hp, hrun⟩
    rcases (occursAt_append_delimiter (hplain a ha) hd).mp hp with hp | ⟨p', rfl, hp'⟩
    · -- a secret does not go over the delimiter
      exfalso
      have hle := hp.add_length_le (hplain a ha)
      obtain ⟨c, hc, hfree⟩ := hrun.getElem? hle (by omega)
      have hat : (text ++ d :: rest)[text.length]? = some d := by simp
      obtain rfl := Option.some.inj (hat.symm.trans hc)
      rw [hd] at hfree
      cases hfree
    · rw [Nat.add_assoc, inRun_piece] at hrun
      exact ⟨a, ha, p', by omega, hp', hrun⟩
  · rintro ⟨a, ha, p, hpq, hp, hrun⟩
    refine ⟨a, ha, text.length + 1 + p, by omega, ?_, ?_⟩
    · exact (occursAt_append_delimiter (hplain a ha) hd).mpr (.inr ⟨p, rfl, hp⟩)
    · rw [Nat.add_assoc, inRun_piece]
      exact hrun

end Plain

/-- Every `İ` before an occurrence of `a` is in a secret after an assignment of `as` or `a`. -/
def AlignedFor (as : List (List Char × Char)) (a : List Char × Char) (text : List Char) : Prop :=
  ∀ p, OccursAt (marker a) text p → ∀ q < p, text[q]? = some dottedI → CoveredBy (as ++ [a]) text q

/-- The pass for one more assignment. -/
theorem Cells.sweep (hplain : ∀ b ∈ as ++ [a], Plain (marker b)) {text x : List Char}
    (h : Cells as text x) (haligned : AlignedFor as a text) :
    ∃ x', Sweep (marker a) x x' ∧ Cells (as ++ [a]) text x' := by
  have hm := hplain a (List.mem_append_right as (List.mem_singleton_self a))
  -- induction on the delimiters; each piece is swept for itself
  induction h with
  | @last text x hfree h =>
    have htake : text.take text.length = text := List.take_length
    have hshielded : ∀ p, OccursAt (marker a) text p → ∀ q < p,
        Shielded (as ++ [a]) text q := by
      intro p hp q hq hdotted
      have hle := hp.add_length_le hm
      have h := (coveredBy_iff_ends hplain text text.length (htake.symm ▸ hfree)
        (by omega) (by omega)).mp (haligned p hp q hq hdotted)
      -- an occurrence is in the piece before the delimiter, since it contains none
      rwa [htake] at h
    obtain ⟨x', hsweep, hcell⟩ := h.sweep hm hfree hshielded
    exact ⟨x', hsweep, .last hfree hcell⟩
  | @cons text x rest xs d hfree h hd hrest ih =>
    have hshielded : ∀ p, OccursAt (marker a) (text ++ d :: rest) p → ∀ q < p, q < text.length →
        Shielded (as ++ [a]) text q := by
      intro p hp q hq hlt hdotted
      have hat : (text ++ d :: rest)[q]? = some dottedI := by
        rw [List.getElem?_append_left hlt, hdotted]
      exact (coveredBy_piece_left hplain hfree hlt).mp (haligned p hp q hq hat)
    -- the piece before the delimiter, the rest, and both together
    obtain ⟨x', hsweep, hcell⟩ := h.sweep hm hfree fun p hp q hq hdotted => by
      have hle := hp.add_length_le hm
      exact hshielded p ((occursAt_append_delimiter hm hd).mpr (.inl hp)) q hq (by omega) hdotted
    obtain ⟨xs', hsweeps, hcells⟩ := ih fun p hp q hq hdotted => by
      have hat : (text ++ d :: rest)[text.length + 1 + q]? = some dottedI := by
        rw [← List.head?_drop, drop_piece, List.head?_drop, hdotted]
      rw [← coveredBy_piece_right hplain text hd]
      exact haligned (text.length + 1 + p)
        ((occursAt_append_delimiter hm hd).mpr (.inr ⟨p, rfl, hp⟩)) _ (by omega) hat
    refine ⟨x' ++ d :: xs', hsweep.append hm hd hsweeps fun hoccurs => ?_,
      .cons hfree hcell hd hcells⟩
    obtain ⟨p, hp⟩ := hrest.occurs hm hoccurs
    apply hcell.clean
    intro q hdotted
    -- the index is in this piece
    have hlt : q < text.length := by
      by_contra hge
      rw [List.getElem?_eq_none (by omega)] at hdotted
      cases hdotted
    exact hshielded (text.length + 1 + p)
      ((occursAt_append_delimiter hm hd).mpr (.inr ⟨p, rfl, hp⟩)) q (by omega) hlt hdotted

end Pass

/-! ## The whole text -/

/-- Before the first pass a text is as it is. -/
theorem Cells.start (text : List Char) : Cells [] text text := by
  have hcell : ∀ text, Cell [] text text := by
    refine fun text => .untouched ?_
    rintro s ⟨a, ha, _⟩
    exact absurd ha List.not_mem_nil
  -- the text up to its first delimiter, and the rest
  generalize hn : text.length = n
  -- induction on the length: what is left behind a delimiter is shorter
  induction n using Nat.strong_induction_on generalizing text with
  | _ n ih =>
    have hsplit := List.takeWhile_append_dropWhile (p := fun c => !isDelimiter c) (l := text)
    have hfree : Free (text.takeWhile fun c => !isDelimiter c) := by
      intro c hc
      simpa using List.mem_takeWhile_imp hc
    cases hrest : text.dropWhile fun c => !isDelimiter c with
    | nil =>
      rw [hrest, List.append_nil] at hsplit
      rw [hsplit] at hfree
      exact .last hfree (hcell text)
    | cons d rest =>
      have hd : isDelimiter d = true := by
        have hne : (text.dropWhile fun c => !isDelimiter c) ≠ [] := by rw [hrest]; simp
        have hhead := List.head_dropWhile_not (fun c => !isDelimiter c) hne
        simpa [hrest] using hhead
      rw [hrest] at hsplit
      have hlt : rest.length < n := by
        rw [← hn, ← hsplit, List.length_append, List.length_cons]
        omega
      rw [← hsplit]
      exact .cons hfree (hcell _) hd (ih rest.length hlt rest rfl)

/-- The loops for the assignments, one after the other. -/
theorem cells_foldl {text : List Char} (haligned : Aligned text) (as' : List (List Char × Char)) :
    ∀ as x, assignments = as ++ as' → Cells as text x →
      Cells assignments text (as'.foldl (fun text a => redactLoop a.1 a.2 text 0) x) := by
  -- induction on the assignments that have not been made
  induction as' with
  | nil =>
    intro as x has h
    rw [List.append_nil] at has
    exact has ▸ h
  | cons a as' ih =>
    intro as x has h
    have hsub : assignments = (as ++ [a]) ++ as' := by rw [has, List.append_assoc]; rfl
    have hplain : ∀ b ∈ as ++ [a], Plain (marker b) := by
      intro b hb
      apply plain_marker
      rw [hsub]
      exact List.mem_append_left as' hb
    have hm := hplain a (List.mem_append_right as (List.mem_singleton_self a))
    have htake : assignments.take (as.length + 1) = as ++ [a] := by
      have hlength : as.length + 1 = (as ++ [a]).length := by simp
      rw [hsub, hlength, List.take_left]
    have hmem : (a, as.length) ∈ assignments.zipIdx := by
      rw [List.mk_mem_zipIdx_iff_getElem?, has]
      simp
    -- the alignment of the whole text is one for each assignment
    have hfor : AlignedFor as a text := by
      intro p hp q hq hdotted
      have hle := hp.add_length_le hm
      have hpos := List.length_pos_iff.mpr hm.ne_nil
      have hcovered := haligned _ hmem p (by omega) hp q hq hdotted
      rwa [htake] at hcovered
    obtain ⟨x', hsweep, hcells⟩ := h.sweep hplain hfor
    have hloop : redactLoop a.1 a.2 ([] ++ x) ([] : List Char).length = [] ++ x' :=
      redactLoop_of_sweep hm hsweep List.not_mem_nil
    -- this assignment is one run of the loop, and the cells say what it has done
    rw [List.foldl_cons]
    apply ih (as ++ [a]) _ hsub
    rw [List.nil_append, List.length_nil, List.nil_append] at hloop
    rw [hloop]
    exact hcells

/-! ## What is visible -/

/-- A text without redaction. -/
theorem Marked.refl (text : List Char) : Marked text text := by
  induction text with
  | nil => exact .nil
  | cons c cs ih => exact .keep c ih

/-- Marked parts make a marked whole. -/
theorem Marked.append {kept out kept' out' : List Char} (h : Marked kept out)
    (h' : Marked kept' out') : Marked (kept ++ kept') (out ++ out') := by
  induction h with
  | nil => exact h'
  | keep c _ ih => exact .keep c ih
  | mark n _ ih =>
    have hmark := Marked.mark n ih
    simpa only [List.append_assoc] using hmark

/-- Nothing else comes into the text. -/
theorem Marked.mem {kept out : List Char} (h : Marked kept out) {c : Char} (hc : c ∈ out) :
    c ∈ kept ∨ c ∈ redacted.toList := by
  induction h with
  | nil => exact absurd hc List.not_mem_nil
  | keep c' _ ih =>
    rcases List.mem_cons.mp hc with rfl | hc
    · exact .inl List.mem_cons_self
    · rcases ih hc with hc | hc
      · exact .inl (List.mem_cons_of_mem _ hc)
      · exact .inr hc
  | mark n _ ih =>
    rcases List.mem_append.mp hc with hc | hc
    · rcases List.mem_append.mp hc with hc | hc
      · exact .inr hc
      · rw [(List.mem_replicate.mp hc).2]
        exact .inr (by decide)
    · exact ih hc

/-- The characters at the indices that are not covered. -/
def shown (covered : Nat → Prop) [DecidablePred covered] (text : List Char) : List Char :=
  (List.range text.length).filterMap fun q => if covered q then none else text[q]?

/-- What is visible are the places that no assignment covers. -/
theorem visible_eq (text : List Char) :
    visible text = shown (CoveredBy assignments text) text := rfl

section Shown

variable (covered : Nat → Prop) [DecidablePred covered]

/-- The places are looked at one by one. -/
theorem shown_cons (c : Char) (cs : List Char) :
    shown covered (c :: cs) =
      (if covered 0 then [] else [c]) ++ shown (fun q => covered (q + 1)) cs := by
  rw [shown, List.length_cons, List.range_succ_eq_map, List.filterMap_cons, List.filterMap_map]
  split
  · next hnone =>
    split
    · rfl
    · next hshown =>
      rw [if_neg hshown] at hnone
      cases hnone
  · next c' hsome =>
    split
    · next hcovered =>
      rw [if_pos hcovered] at hsome
      cases hsome
    · next hshown =>
      rw [if_neg hshown] at hsome
      obtain rfl := Option.some.inj hsome
      rfl

variable {covered}

/-- Only the places of the text count. -/
theorem shown_congr {covered' : Nat → Prop} [DecidablePred covered'] {text : List Char}
    (h : ∀ q < text.length, covered q ↔ covered' q) : shown covered text = shown covered' text := by
  apply List.filterMap_congr
  intro q hq
  have hiff := h q (List.mem_range.mp hq)
  by_cases hc : covered q
  · rw [if_pos hc, if_pos (hiff.mp hc)]
  · rw [if_neg hc, if_neg fun hc' => hc (hiff.mpr hc')]

/-- Everything from index `s` on is covered. -/
theorem shown_take {text : List Char} {s : Nat} (h : ∀ q < text.length, covered q ↔ s ≤ q) :
    shown covered text = text.take s := by
  induction text generalizing s covered with
  | nil => rw [List.take_nil]; rfl
  | cons c cs ih =>
    have hzero := h 0 (by simp)
    rw [shown_cons]
    cases s with
    | zero =>
      rw [if_pos (hzero.mpr (Nat.zero_le 0)), List.nil_append, ih (s := 0), List.take_zero,
        List.take_zero]
      intro q hq
      rw [h (q + 1) (by simpa using hq)]
      simp
    | succ s =>
      rw [if_neg (by rw [hzero]; omega), ih (s := s), List.take_succ_cons, List.singleton_append]
      intro q hq
      rw [h (q + 1) (by simpa using hq)]
      omega

/-- A text is shown piece by piece. -/
theorem shown_piece (text rest : List Char) {d : Char} (hd : ¬ covered text.length) :
    shown covered (text ++ d :: rest) =
      shown covered text ++ d :: shown (fun q => covered (text.length + 1 + q)) rest := by
  -- induction on the piece, with the covered set moved along
  induction text generalizing covered with
  | nil =>
    have hzero : ¬ covered 0 := hd
    rw [List.nil_append, shown_cons, if_neg hzero]
    have hcongr : shown (fun q => covered (q + 1)) rest =
        shown (fun q => covered (([] : List Char).length + 1 + q)) rest := by
      apply shown_congr
      intro q _
      rw [List.length_nil, Nat.zero_add, Nat.add_comm]
    rw [hcongr]
    rfl
  | cons c cs ih =>
    have hnext : ¬ (fun q => covered (q + 1)) cs.length := hd
    rw [List.cons_append, shown_cons, shown_cons, ih hnext]
    have hcongr : shown (fun q => covered (cs.length + 1 + q + 1)) rest =
        shown (fun q => covered ((c :: cs).length + 1 + q)) rest := by
      apply shown_congr
      intro q _
      have heq : cs.length + 1 + q + 1 = (c :: cs).length + 1 + q := by
        rw [List.length_cons]
        omega
      rw [heq]
    rw [hcongr, List.append_assoc]

end Shown

/-- Between two delimiters the text is visible up to the first assignment. -/
theorem Cell.marked {covered : Nat → Prop} [DecidablePred covered] {text x : List Char}
    (h : Cell assignments text x)
    (hcovered : ∀ q < text.length, covered q ↔ ∃ s ≤ q, Ends assignments text s) :
    Marked (shown covered text) x := by
  -- a word is shown whole, or up to the first end of a secret
  cases h with
  | untouched hnone =>
    have hall : ∀ q < text.length, covered q ↔ text.length ≤ q := by
      intro q hq
      rw [hcovered q hq]
      constructor
      · rintro ⟨s, _, hs⟩
        exact absurd hs (hnone s)
      · exact fun hle => absurd hq (by omega)
    rw [shown_take hall, List.take_length]
    exact .refl text
  | @cut s n hs =>
    have hfrom : ∀ q < text.length, covered q ↔ s ≤ q := by
      intro q hq
      rw [hcovered q hq]
      constructor
      · rintro ⟨s', hle, hs'⟩
        exact Nat.le_trans (hs.2 hs') hle
      · exact fun hle => ⟨s, hle, hs.1⟩
    rw [shown_take hfrom]
    have hmark := (Marked.refl (text.take s)).append (Marked.mark n .nil)
    simpa only [List.append_nil, List.append_assoc] using hmark

/-- The redacted text is the visible one, with marks. -/
theorem Cells.marked {text x : List Char} (h : Cells assignments text x) :
    Marked (visible text) x := by
  have hplain : ∀ a ∈ assignments, Plain (marker a) := fun a ha => plain_marker ha
  induction h with
  | @last text x hfree h =>
    have htake : text.take text.length = text := List.take_length
    apply h.marked
    intro q hq
    have h := coveredBy_iff_ends hplain text text.length (htake.symm ▸ hfree) hq hq
    rwa [htake] at h
  | @cons text x rest xs d hfree h hd _ ih =>
    rw [visible_eq, shown_piece text rest (not_coveredBy_delimiter hd)]
    apply (h.marked fun q hq => coveredBy_piece_left hplain hfree hq).append
    have hrest : shown (fun q => CoveredBy assignments (text ++ d :: rest) (text.length + 1 + q))
        rest = visible rest := by
      rw [visible_eq]
      exact shown_congr fun q _ => coveredBy_piece_right hplain text hd
    rw [hrest]
    exact .keep d ih

/-- Where every `İ` before an assignment is in a secret that is replaced by then, what is left of a
    text is the text without its secrets, with markers put in. -/
theorem secrets_redacted (text : String) (haligned : Aligned text.toList) :
    Marked (visible text.toList) (redactText text).toList := by
  have hcells := cells_foldl haligned assignments [] text.toList rfl (.start text.toList)
  rw [redactText, String.toList_ofList]
  exact hcells.marked

/-- A secret with an `İ`, after a name with a Kelvin sign, and another secret behind it. -/
theorem secrets_redacted_two :
    Marked (visible "to\u212aen=\u0130e secret:c d".toList)
      (redactText "to\u212aen=\u0130e secret:c d").toList ∧
    visible "to\u212aen=\u0130e secret:c d".toList = "to\u212aen= secret: d".toList :=
  ⟨secrets_redacted _ (by decide +kernel), by decide +kernel⟩

/-- Before an `İ` the marker is put in one character too far, and a character of the secret is
    left. -/
theorem secret_left :
    visible "\u0130password=x".toList = "\u0130password=".toList ∧
      redactText "\u0130password=x" = "\u0130password=x[REDACTED]" ∧
      ¬ Marked (visible "\u0130password=x".toList) (redactText "\u0130password=x").toList := by
  have hvisible : visible "\u0130password=x".toList = "\u0130password=".toList := by decide +kernel
  have hredacted : redactText "\u0130password=x" = "\u0130password=x[REDACTED]" := by
    decide +kernel
  refine ⟨hvisible, hredacted, fun h => ?_⟩
  rw [hvisible, hredacted] at h
  have hx : 'x' ∈ "\u0130password=x[REDACTED]".toList := by decide
  rcases h.mem hx with hx | hx
  · exact absurd hx (by decide)
  · exact absurd hx (by decide)

end Redaction

end Novena
