import Mathlib.Data.List.TakeWhile
import NovenaGateway.Native.Redaction

/-!
# The loop for one assignment

The loop of `redact_text` for one key and one separator. Where the index found in lower case is
right it is the relation `Sweep`, which passes over the text once, and a pass goes over the pieces
between two delimiters one by one.

Key results:
- `Redaction.redactLoop_of_sweep`
- `Redaction.Sweep.append`
- `Redaction.Free.sweep`
-/

namespace Novena

namespace Redaction

/-! ## Matching in lower case -/

/-- The text of an assignment that is looked for. -/
def marker (a : List Char × Char) : List Char := a.1 ++ [a.2]

/-- The text starts with `m`, up to case. -/
def Starts (m text : List Char) : Prop := lower (text.take m.length) = m

/-- `m` stands at index `p`, up to case. -/
def OccursAt (m text : List Char) (p : Nat) : Prop := Starts m (text.drop p)

instance (m text : List Char) (p : Nat) : Decidable (OccursAt m text p) :=
  inferInstanceAs (Decidable (_ = _))

/-- What the texts of the assignments have in common. -/
structure Plain (m : List Char) : Prop where
  ne_nil : m ≠ []
  dotAbove : dotAbove ∉ m
  last : m.getLast? ≠ some 'i'
  undelimited : ∀ c ∈ m, isDelimiter c = false
  bracket : '[' ∉ m
  word : ∀ p ≤ 8, ¬ OccursAt m "REDACTED".toList p

/-- The markers of the assignments are plain text. -/
theorem plain_marker {a : List Char × Char} (h : a ∈ assignments) : Plain (marker a) := by
  have hall : ∀ a ∈ assignments, marker a ≠ [] ∧ Redaction.dotAbove ∉ marker a ∧
      (marker a).getLast? ≠ some 'i' ∧ (marker a).any isDelimiter = false ∧
      '[' ∉ marker a ∧ ∀ p ≤ 8, ¬ OccursAt (marker a) "REDACTED".toList p := by decide +kernel
  obtain ⟨h₁, h₂, h₃, h₄, h₅, h₆⟩ := hall a h
  have hundelimited : ∀ c ∈ marker a, isDelimiter c = false := by
    intro c hc
    have hnot := List.any_eq_false.mp h₄ c hc
    exact Bool.eq_false_of_not_eq_true hnot
  exact ⟨h₁, h₂, h₃, hundelimited, h₅, h₆⟩

/-- All but one character have one lower character. -/
theorem lowerChar_of_ne {c : Char} (h : c ≠ dottedI) : ∃ y, lowerChar c = [y] := by
  simp only [lowerChar]
  rw [if_neg h]
  split
  · exact ⟨'k', rfl⟩
  · exact ⟨c.toLower, rfl⟩

/-- A text is lowered character by character. -/
theorem lower_cons (c : Char) (cs : List Char) : lower (c :: cs) = lowerChar c ++ lower cs := rfl

/-- Without that character the lowered text is as long. -/
theorem length_lower_of_not_mem {text : List Char} (h : dottedI ∉ text) :
    (lower text).length = text.length := by
  induction text with
  | nil => rfl
  | cons c cs ih =>
    rw [List.mem_cons, not_or] at h
    obtain ⟨y, hy⟩ := lowerChar_of_ne (Ne.symm h.1)
    rw [lower_cons, hy, List.length_append, ih h.2]
    exact Nat.add_comm 1 cs.length

/-- A text with `İ` has its dot in lower case. -/
theorem dotAbove_mem_lower {text : List Char} (h : dottedI ∈ text) : dotAbove ∈ lower text :=
  List.mem_flatMap.mpr ⟨dottedI, h, by decide⟩

section Plain

variable {m : List Char}

/-- What a text starts with, up to case, has the length of it, and no `İ` in it. -/
theorem Starts.take {text : List Char} (hm : Plain m) (h : Starts m text) :
    dottedI ∉ text.take m.length ∧ (text.take m.length).length = m.length := by
  have hnone : dottedI ∉ text.take m.length := by
    intro hmem
    have hdot := dotAbove_mem_lower hmem
    rw [h] at hdot
    exact hm.dotAbove hdot
  have hlength := length_lower_of_not_mem hnone
  rw [h] at hlength
  exact ⟨hnone, hlength.symm⟩

/-- A text that starts with a marker is as long as the marker. -/
theorem Starts.length_le {text : List Char} (hm : Plain m) (h : Starts m text) :
    m.length ≤ text.length := by
  have hlength := (h.take hm).2
  rw [List.length_take] at hlength
  omega

/-- The lowered text starts with the marker. -/
theorem Starts.isPrefix {text : List Char} (h : Starts m text) : m <+: lower text := by
  have hsplit : lower text = m ++ lower (text.drop m.length) := by
    conv_lhs => rw [← List.take_append_drop m.length text]
    rw [lower_append, h]
  rw [hsplit]
  exact List.prefix_append m _

/-- What the lower case of a text starts with, the text starts with up to case. -/
theorem starts_of_lower {text : List Char} (hdot : dotAbove ∉ m) (hlast : m.getLast? ≠ some 'i')
    (h : m <+: lower text) : Starts m text := by
  -- induction on the marker; the dotted I is the one character that becomes two
  induction m generalizing text with
  | nil => rfl
  | cons x m ih =>
    cases text with
    | nil => exact absurd (List.prefix_nil.mp h) (List.cons_ne_nil x m)
    | cons c cs =>
      rw [List.mem_cons, not_or] at hdot
      rw [lower_cons] at h
      by_cases hc : c = dottedI
      · -- only the first character of its lower case could be the last one of `m`
        exfalso
        subst hc
        have hi : lowerChar dottedI = ['i', dotAbove] := by decide
        rw [hi, List.cons_append, List.cons_prefix_cons] at h
        obtain ⟨rfl, h⟩ := h
        cases m with
        | nil => exact hlast rfl
        | cons y m =>
          rw [List.cons_append, List.cons_prefix_cons] at h
          exact hdot.2 (h.1 ▸ List.mem_cons_self)
      · obtain ⟨y, hy⟩ := lowerChar_of_ne hc
        rw [hy, List.singleton_append, List.cons_prefix_cons] at h
        have hrest : Starts m cs := by
          apply ih hdot.2 _ h.2
          cases m with
          | nil =>
            intro hnone
            cases hnone
          | cons z m => exact hlast
        rw [Starts, List.length_cons, List.take_succ_cons, lower_cons, hy, hrest, h.1]
        rfl

/-- And the other way round: no marker begins in the middle of a lowered character. -/
theorem starts_iff_lower (hm : Plain m) {text : List Char} : Starts m text ↔ m <+: lower text :=
  ⟨Starts.isPrefix, starts_of_lower hm.dotAbove hm.last⟩

/-- An index in lower case is the beginning of a character, or the dot of `İ`. -/
theorem drop_lower (text : List Char) (i : Nat) :
    (∃ p, (lower text).drop i = lower (text.drop p)) ∨
      ∃ cs, (lower text).drop i = dotAbove :: cs := by
  -- an index of the lower text lies before a character or in the middle of the dotted I
  induction text generalizing i with
  | nil => exact .inl ⟨0, List.drop_nil⟩
  | cons c cs ih =>
    cases i with
    | zero => exact .inl ⟨0, rfl⟩
    | succ i =>
      have hnext : ∀ j, (∃ p, (lower cs).drop j = lower ((c :: cs).drop p)) ∨
          ∃ cs', (lower cs).drop j = dotAbove :: cs' := by
        intro j
        rcases ih j with ⟨p, hp⟩ | hdot
        · exact .inl ⟨p + 1, hp⟩
        · exact .inr hdot
      rw [lower_cons]
      -- this is the middle
      by_cases hc : c = dottedI
      · have hi : lowerChar c = ['i', dotAbove] := by rw [hc]; decide
        rw [hi]
        cases i with
        | zero => exact .inr ⟨lower cs, rfl⟩
        | succ i => exact hnext i
      · obtain ⟨y, hy⟩ := lowerChar_of_ne hc
        rw [hy]
        exact hnext i

/-- What stands nowhere in the text is not found in its lower case. -/
theorem find_lower_eq_none (hm : Plain m) {text : List Char} (h : ∀ p, ¬ OccursAt m text p) :
    Search.find m (lower text) = none := by
  rw [Search.find_eq_none_iff]
  intro i _ hstands
  rcases drop_lower text i with ⟨p, hp⟩ | ⟨cs, hcs⟩
  · rw [hp] at hstands
    exact h p ((starts_iff_lower hm).mpr hstands)
  · rw [hcs] at hstands
    cases m with
    | nil => exact hm.ne_nil rfl
    | cons x m =>
      rw [List.cons_prefix_cons] at hstands
      exact hm.dotAbove (hstands.1 ▸ List.mem_cons_self)

end Plain

/-! ## One assignment -/

/-- One pass over a text from left to right, where no `İ` stands before an occurrence that is
    replaced. -/
inductive Sweep (m : List Char) : List Char → List Char → Prop
  | done {text : List Char} (h : ∀ p, ¬ OccursAt m text p) : Sweep m text text
  | replace {text out : List Char} (h : Starts m text)
      (hrest : Sweep m (afterSecret (text.drop m.length)) out) :
      Sweep m text (text.take m.length ++ redacted.toList ++ out)
  | next {c : Char} {cs out : List Char} (h : ¬ Starts m (c :: cs)) (hc : c ≠ dottedI)
      (hrest : Sweep m cs out) : Sweep m (c :: cs) (c :: out)

section Loop

variable {key : List Char} {sep : Char}

/-- The loop ends at the first search that finds nothing. -/
theorem redactLoop_of_none {text : List Char} {start : Nat}
    (h : Search.findFrom (key ++ [sep]) (lower text) start = none) :
    redactLoop key sep text start = text := by
  rw [redactLoop]
  split
  · rfl
  · next hsome =>
    rw [h] at hsome
    cases hsome

/-- After a find it goes on behind the redacted secret. -/
theorem redactLoop_of_some {text : List Char} {start idx : Nat}
    (h : Search.findFrom (key ++ [sep]) (lower text) start = some idx) :
    redactLoop key sep text start =
      redactLoop key sep
        (text.take (idx + (key ++ [sep]).length) ++ redacted.toList ++
          afterSecret (text.drop (idx + (key ++ [sep]).length)))
        (idx + (key ++ [sep]).length + redacted.toList.length) := by
  conv_lhs => rw [redactLoop]
  split
  · next hnone =>
    rw [h] at hnone
    cases hnone
  · next hsome =>
    rw [h] at hsome
    obtain rfl := Option.some.inj hsome
    rfl

/-- The loop goes on from where the text is found. -/
theorem redactLoop_congr {text : List Char} {start start' : Nat}
    (h : Search.findFrom (key ++ [sep]) (lower text) start =
      Search.findFrom (key ++ [sep]) (lower text) start') :
    redactLoop key sep text start = redactLoop key sep text start' := by
  cases hfind : Search.findFrom (key ++ [sep]) (lower text) start with
  | none => rw [redactLoop_of_none hfind, redactLoop_of_none (h.symm.trans hfind)]
  | some idx => rw [redactLoop_of_some hfind, redactLoop_of_some (h.symm.trans hfind)]

/-- Before the first `İ` an index in lower case is one in the text. -/
theorem findFrom_lower {m before text : List Char} (h : dottedI ∉ before) :
    Search.findFrom m (lower (before ++ text)) before.length =
      (Search.find m (lower text)).map (before.length + ·) := by
  have hlength := length_lower_of_not_mem h
  rw [Search.findFrom, lower_append, ← hlength, List.drop_left]

/-- The loop makes the pass, when it starts after a text with no `İ`. -/
theorem redactLoop_of_sweep (hm : Plain (key ++ [sep])) {text out : List Char}
    (h : Sweep (key ++ [sep]) text out) {before : List Char} (hbefore : dottedI ∉ before) :
    redactLoop key sep (before ++ text) before.length = before ++ out := by
  -- induction on the sweep, with what has been passed in front
  induction h generalizing before with
  | done h =>
    apply redactLoop_of_none
    rw [findFrom_lower hbefore, find_lower_eq_none hm h]
    rfl
  -- the loop finds the marker where it stands, and goes on behind the mark
  | @replace text out h hrest ih =>
    obtain ⟨hnone, hlength⟩ := h.take hm
    have hfind : Search.findFrom (key ++ [sep]) (lower (before ++ text)) before.length =
        some before.length := by
      rw [findFrom_lower hbefore, Search.find_eq_zero h.isPrefix]
      rfl
    rw [redactLoop_of_some hfind]
    -- the text is cut behind the occurrence
    have htake : (before ++ text).take (before.length + (key ++ [sep]).length) =
        before ++ text.take (key ++ [sep]).length := List.take_length_add_append _
    have hdrop : (before ++ text).drop (before.length + (key ++ [sep]).length) =
        text.drop (key ++ [sep]).length := List.drop_length_add_append _
    have hnext : before.length + (key ++ [sep]).length + redacted.toList.length =
        (before ++ text.take (key ++ [sep]).length ++ redacted.toList).length := by
      have hfirst : (before ++ text.take (key ++ [sep]).length).length =
          before.length + (key ++ [sep]).length := by
        rw [List.length_append, hlength]
      rw [← hfirst]
      exact List.length_append.symm
    have hbefore' : dottedI ∉ before ++ text.take (key ++ [sep]).length ++ redacted.toList := by
      have hredacted : dottedI ∉ redacted.toList := by decide
      simp only [List.mem_append, not_or]
      exact ⟨⟨hbefore, hnone⟩, hredacted⟩
    rw [htake, hdrop, hnext, ih hbefore']
    simp only [List.append_assoc]
  -- it does not stand here, so the search may begin one character later
  | @next c cs out h hc hrest ih =>
    have hskip : Search.findFrom (key ++ [sep]) (lower (before ++ c :: cs)) before.length =
        Search.findFrom (key ++ [sep]) (lower (before ++ c :: cs)) (before ++ [c]).length := by
      have hbefore' : dottedI ∉ before ++ [c] := by
        simp only [List.mem_append, List.mem_singleton, not_or]
        exact ⟨hbefore, Ne.symm hc⟩
      have hsplit : before ++ c :: cs = (before ++ [c]) ++ cs := by simp
      rw [findFrom_lower hbefore, hsplit, findFrom_lower hbefore']
      obtain ⟨y, hy⟩ := lowerChar_of_ne hc
      -- the first character is no dotted I, so it becomes one character
      have hstands : ¬ key ++ [sep] <+: y :: lower cs := by
        have hlower : lower (c :: cs) = y :: lower cs := by rw [lower_cons, hy]; rfl
        rw [← hlower, ← starts_iff_lower hm]
        exact h
      rw [lower_cons, hy, List.singleton_append, Search.find_cons_of_ne hstands,
        Option.map_map, List.length_append, List.length_singleton]
      congr 1
      funext i
      simp only [Function.comp]
      omega
    rw [redactLoop_congr hskip]
    have hsplit : before ++ c :: cs = (before ++ [c]) ++ cs := by simp
    rw [hsplit, ih]
    · simp
    · simp only [List.mem_append, List.mem_singleton, not_or]
      exact ⟨hbefore, Ne.symm hc⟩

end Loop

/-! ## Texts between delimiters -/

/-- A delimiter is its own lower character. -/
theorem lowerChar_of_isDelimiter {d : Char} (h : isDelimiter d = true) : lowerChar d = [d] := by
  have hall : [' ', ',', ';', '\x7d', ']'].all (fun d => lowerChar d = [d]) = true := by decide
  exact of_decide_eq_true (List.all_eq_true.mp hall d (of_decide_eq_true h))

/-- And it is not the character that has two. -/
theorem ne_dottedI_of_isDelimiter {d : Char} (h : isDelimiter d = true) : d ≠ dottedI := by
  rintro rfl
  exact absurd h (by decide)

section Pieces

variable {m : List Char}

/-- Nothing that is looked for is empty. -/
theorem not_starts_nil (hm : Plain m) : ¬ Starts m [] := by
  intro h
  rw [Starts, List.take_nil] at h
  exact hm.ne_nil h.symm

/-- A marker lies within the text. -/
theorem OccursAt.add_length_le (hm : Plain m) {text : List Char} {p : Nat}
    (h : OccursAt m text p) : p + m.length ≤ text.length := by
  have hle := Starts.length_le hm h
  have hpos := List.length_pos_iff.mpr hm.ne_nil
  rw [List.length_drop] at hle
  omega

/-- At the beginning the marker is the start of the text. -/
theorem occursAt_zero {text : List Char} : OccursAt m text 0 ↔ Starts m text := Iff.rfl

/-- An occurrence in a prefix of the text. -/
theorem starts_take (hm : Plain m) {text : List Char} {n : Nat} :
    Starts m (text.take n) ↔ Starts m text ∧ m.length ≤ n := by
  constructor
  · intro h
    have hle := h.length_le hm
    rw [List.length_take] at hle
    have hn : m.length ≤ n := by omega
    rw [Starts, List.take_take, Nat.min_eq_left hn] at h
    exact ⟨h, hn⟩
  · rintro ⟨h, hn⟩
    rw [Starts, List.take_take, Nat.min_eq_left hn]
    exact h

/-- The markers of a beginning are those that end in it. -/
theorem occursAt_take (hm : Plain m) {text : List Char} {n p : Nat} :
    OccursAt m (text.take n) p ↔ OccursAt m text p ∧ p + m.length ≤ n := by
  have hpos := List.length_pos_iff.mpr hm.ne_nil
  rw [OccursAt, List.drop_take, starts_take hm]
  constructor
  · rintro ⟨h, hn⟩
    exact ⟨h, by omega⟩
  · rintro ⟨h, hn⟩
    exact ⟨h, by omega⟩

variable {d : Char}

/-- An occurrence does not go over a character that is not in it. -/
theorem starts_append (hm : Plain m) (hd : d ∉ m) (hlower : lowerChar d = [d])
    {x y : List Char} : Starts m (x ++ d :: y) ↔ Starts m x := by
  have htake : m.length ≤ x.length → (x ++ d :: y).take m.length = x.take m.length :=
    fun hle => List.take_append_of_le_length hle
  constructor
  · intro h
    -- the marker ends before the delimiter
    by_cases hle : m.length ≤ x.length
    · rw [Starts, htake hle] at h
      exact h
    · -- otherwise the character is in what is matched
      exfalso
      have hmem : d ∈ (x ++ d :: y).take m.length := by
        obtain ⟨n, hn⟩ : ∃ n, m.length = x.length + (n + 1) :=
          ⟨m.length - x.length - 1, by omega⟩
        rw [hn, List.take_length_add_append, List.take_succ_cons]
        exact List.mem_append_right _ List.mem_cons_self
      have hdm : d ∈ lower ((x ++ d :: y).take m.length) :=
        List.mem_flatMap.mpr ⟨d, hmem, by rw [hlower]; exact List.mem_singleton_self d⟩
      rw [h] at hdm
      exact hd hdm
  · intro h
    rw [Starts, htake (h.length_le hm)]
    exact h

/-- No marker goes over a character that is in none. -/
theorem occursAt_append (hm : Plain m) (hd : d ∉ m) (hlower : lowerChar d = [d])
    {x y : List Char} {p : Nat} :
    OccursAt m (x ++ d :: y) p ↔
      OccursAt m x p ∨ ∃ p', p = x.length + 1 + p' ∧ OccursAt m y p' := by
  -- on the left of the delimiter or on its right
  by_cases hp : p ≤ x.length
  · have hdrop : (x ++ d :: y).drop p = x.drop p ++ d :: y := List.drop_append_of_le_length hp
    rw [OccursAt, hdrop, starts_append hm hd hlower]
    constructor
    · exact .inl
    · rintro (h | ⟨p', rfl, _⟩)
      · exact h
      · omega
  · obtain ⟨p', rfl⟩ : ∃ p', p = x.length + 1 + p' := ⟨p - x.length - 1, by omega⟩
    have hdrop : (x ++ d :: y).drop (x.length + 1 + p') = y.drop p' := by
      rw [Nat.add_assoc, List.drop_length_add_append, Nat.add_comm 1 p', List.drop_succ_cons]
    rw [OccursAt, hdrop]
    constructor
    · exact fun h => .inr ⟨p', rfl, h⟩
    · rintro (h | ⟨p'', heq, h⟩)
      · have hle := h.add_length_le hm
        omega
      · obtain rfl : p' = p'' := by omega
        exact h

/-- So no marker goes over a delimiter. -/
theorem occursAt_append_delimiter (hm : Plain m) (hd : isDelimiter d = true) {x y : List Char}
    {p : Nat} : OccursAt m (x ++ d :: y) p ↔
      OccursAt m x p ∨ ∃ p', p = x.length + 1 + p' ∧ OccursAt m y p' := by
  apply occursAt_append hm _ (lowerChar_of_isDelimiter hd)
  intro hmem
  rw [hm.undelimited d hmem] at hd
  cases hd

/-- What starts a text does not depend on what follows a delimiter. -/
theorem starts_append_delimiter (hm : Plain m) (hd : isDelimiter d = true) {x y : List Char} :
    Starts m (x ++ d :: y) ↔ Starts m x := by
  have h := occursAt_append_delimiter hm hd (x := x) (y := y) (p := 0)
  rw [occursAt_zero, occursAt_zero] at h
  rw [h]
  constructor
  · rintro (h | ⟨p', heq, _⟩)
    · exact h
    · omega
  · exact .inl

/-! ### The pass over pieces -/

/-- A text without the marker stays as it is. -/
theorem Sweep.eq_of_none {x x' : List Char} (h : Sweep m x x') (hnone : ∀ p, ¬ OccursAt m x p) :
    x' = x := by
  induction h with
  | done => rfl
  | replace h => exact absurd h (hnone 0)
  | next _ _ _ ih => rw [ih fun p hp => hnone (p + 1) hp]

/-- The pass goes on behind a text with nothing to replace and no `İ`. -/
theorem Sweep.after (hm : Plain m) (hd : isDelimiter d = true) {x y y' : List Char}
    (hnone : ∀ p, ¬ OccursAt m x p) (hx : dottedI ∉ x) (h : Sweep m y y') :
    Sweep m (x ++ d :: y) (x ++ d :: y') := by
  induction x with
  | nil =>
    refine .next ?_ (ne_dottedI_of_isDelimiter hd) h
    exact fun hstarts =>
      not_starts_nil hm ((starts_append_delimiter hm hd (x := [])).mp hstarts)
  | cons c cs ih =>
    rw [List.mem_cons, not_or] at hx
    refine .next ?_ (Ne.symm hx.1) (ih (fun p hp => hnone (p + 1) hp) hx.2)
    exact fun hstarts =>
      hnone 0 ((starts_append_delimiter hm hd (x := c :: cs)).mp hstarts)

/-- A secret ends at the delimiter. -/
theorem afterSecret_append (hd : isDelimiter d = true) (x y : List Char) :
    afterSecret (x ++ d :: y) = afterSecret x ++ d :: y := by
  induction x with
  | nil => simp [afterSecret, hd]
  | cons c cs ih =>
    simp only [afterSecret] at ih ⊢
    rw [List.cons_append, List.dropWhile_cons, List.dropWhile_cons]
    split
    · exact ih
    · rfl

/-- Two passes make one, where no `İ` is left before a replacement in the second. -/
theorem Sweep.append (hm : Plain m) (hd : isDelimiter d = true) {x x' y y' : List Char}
    (h : Sweep m x x') (h' : Sweep m y y')
    (hx : (∃ p, OccursAt m y p) → dottedI ∉ x') : Sweep m (x ++ d :: y) (x' ++ d :: y') := by
  -- induction on the sweep of the left side
  induction h with
  | @done x hnone =>
    -- an occurrence on the right is found only when no dotted I is in front of it
    by_cases hy : ∃ p, OccursAt m y p
    · exact .after hm hd hnone (hx hy) h'
    · rw [h'.eq_of_none fun p hp => hy ⟨p, hp⟩]
      apply Sweep.done
      intro p hp
      rcases (occursAt_append_delimiter hm hd).mp hp with hp | ⟨p', -, hp⟩
      · exact hnone p hp
      · exact hy ⟨p', hp⟩
  -- a secret on the left ends at the delimiter at the latest
  | @replace x out hstarts hrest ih =>
    have hle := hstarts.length_le hm
    have htake : (x ++ d :: y).take m.length = x.take m.length := List.take_append_of_le_length hle
    have hafter : afterSecret ((x ++ d :: y).drop m.length) =
        afterSecret (x.drop m.length) ++ d :: y := by
      rw [List.drop_append_of_le_length hle, afterSecret_append hd]
    have hstarts' : Starts m (x ++ d :: y) := (starts_append_delimiter hm hd).mpr hstarts
    have hrest' := ih fun hy hmem => hx hy (List.mem_append_right _ hmem)
    rw [← hafter] at hrest'
    have hsweep := Sweep.replace hstarts' hrest'
    rw [htake] at hsweep
    simpa only [List.append_assoc] using hsweep
  | next hstarts hc hrest ih =>
    refine .next ?_ hc (ih fun hy hmem => hx hy (List.mem_cons_of_mem _ hmem))
    exact fun h => hstarts ((starts_append_delimiter hm hd (x := _ :: _)).mp h)

/-- No character of the text is a delimiter. -/
def Free (text : List Char) : Prop := ∀ c ∈ text, isDelimiter c = false

/-- A text without delimiter is all secret. -/
theorem afterSecret_of_free {text : List Char} (h : Free text) : afterSecret text = [] := by
  rw [afterSecret, List.dropWhile_eq_nil_iff]
  intro c hc
  rw [h c hc]
  rfl

/-- Between two delimiters everything behind the first occurrence is replaced. -/
theorem Free.sweep (hm : Plain m) {text : List Char} (hfree : Free text) {p : Nat}
    (hp : OccursAt m text p) (hfirst : ∀ q < p, ¬ OccursAt m text q)
    (hdotted : dottedI ∉ text.take p) :
    Sweep m text (text.take (p + m.length) ++ redacted.toList) := by
  -- induction on the place of the first occurrence
  induction p generalizing text with
  | zero =>
    have hrest : afterSecret (text.drop m.length) = [] :=
      afterSecret_of_free fun c hc => hfree c (List.mem_of_mem_drop hc)
    have hnil : Sweep m (afterSecret (text.drop m.length)) [] := by
      rw [hrest]
      refine .done fun p hp => not_starts_nil hm ?_
      rwa [OccursAt, List.drop_nil] at hp
    have hsweep := Sweep.replace (occursAt_zero.mp hp) hnil
    rwa [List.append_nil, ← Nat.zero_add m.length] at hsweep
  | succ p ih =>
    cases text with
    | nil =>
      have hle := hp.add_length_le hm
      exact absurd hle (by simp)
    | cons c cs =>
      rw [List.take_succ_cons, List.mem_cons, not_or] at hdotted
      have hlength : p + 1 + m.length = p + m.length + 1 := by omega
      rw [hlength, List.take_succ_cons]
      refine .next (hfirst 0 (Nat.zero_lt_succ p)) (Ne.symm hdotted.1) ?_
      exact ih (fun c' hc' => hfree c' (List.mem_cons_of_mem c hc')) hp
        (fun q hq => hfirst (q + 1) (Nat.succ_lt_succ hq)) hdotted.2

end Pieces

end Redaction

end Novena
