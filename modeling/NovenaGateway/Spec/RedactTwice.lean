import NovenaGateway.Spec.RedactLoop

/-!
# Redacting twice

Every replacement takes characters that are no brackets from a text and puts a closing bracket in,
and the assignment it was made for stays. So a text in which something was replaced is changed by
the next redaction too, and one in which nothing was is not.

Key results:
- `Redaction.redactText_twice_iff`
- `Redaction.redacted_twice_iff`
-/

namespace Novena

namespace Redaction

/-! ## One loop -/

/-- The closing brackets of a text. -/
def brackets (text : List Char) : Nat := text.count ']'

/-- The brackets of two parts. -/
theorem brackets_append (text text' : List Char) :
    brackets (text ++ text') = brackets text + brackets text' := List.count_append

/-- A secret has no bracket. -/
theorem brackets_afterSecret (text : List Char) : brackets (afterSecret text) = brackets text := by
  induction text with
  | nil => rfl
  | cons c cs ih =>
    rw [afterSecret, List.dropWhile_cons]
    split
    · next hc =>
      have hne : c ≠ ']' := by
        rintro rfl
        exact absurd hc (by decide)
      rw [← afterSecret, ih, brackets, brackets, List.count_cons_of_ne hne]
    · rfl

/-- A replacement puts in one bracket. -/
theorem brackets_replaced (text : List Char) (next : Nat) :
    brackets (text.take next ++ redacted.toList ++ afterSecret (text.drop next)) =
      brackets text + 1 := by
  have hmarker : brackets redacted.toList = 1 := by decide
  have hsplit : brackets text = brackets (text.take next) + brackets (text.drop next) := by
    rw [← brackets_append, List.take_append_drop]
  rw [brackets_append, brackets_append, hmarker, brackets_afterSecret]
  omega

/-- The assignment a replacement was made for stays where it was found. -/
theorem found_replaced {m text after : List Char} {idx : Nat} (h : m <+: (lower text).drop idx)
    (hlt : idx + m.length ≤ (lower text).length) :
    m <+: (lower (text.take (idx + m.length) ++ after)).drop idx := by
  -- the assignment fits into the part that is kept
  have hlength : idx + m.length ≤ (lower (text.take (idx + m.length))).length := by
    by_cases hle : idx + m.length ≤ text.length
    · have hlower := length_le_length_lower (text.take (idx + m.length))
      rw [List.length_take, Nat.min_eq_left hle] at hlower
      exact hlower
    · rwa [List.take_of_length_le (by omega)]
  -- `lower` acts on each character by itself
  have hsplit : lower text =
      lower (text.take (idx + m.length)) ++ lower (text.drop (idx + m.length)) := by
    rw [← lower_append, List.take_append_drop]
  rw [hsplit, List.drop_append_of_le_length (by omega)] at h
  rw [lower_append, List.drop_append_of_le_length (by omega)]
  -- the assignment ends within the part that both texts begin with
  have hinside : m <+: (lower (text.take (idx + m.length))).drop idx := by
    apply List.prefix_of_prefix_length_le h (List.prefix_append _ _)
    rw [List.length_drop]
    omega
  exact hinside.trans (List.prefix_append _ _)

/-- The assignment stands in the text, up to case. -/
def Found (a : List Char × Char) (text : List Char) : Prop :=
  (Search.findFrom (marker a) (lower text) 0).isSome = true

instance (a : List Char × Char) (text : List Char) : Decidable (Found a text) :=
  inferInstanceAs (Decidable (_ = true))

/-- A marker of the lowered text is found. -/
theorem found_of_lower {a : List Char × Char} {text : List Char} {i : Nat}
    (h : marker a <+: (lower text).drop i) : Found a text := by
  rw [Found, Search.findFrom, Option.isSome_map, Option.isSome_iff_ne_none]
  intro hnone
  rw [List.drop_zero, Search.find_eq_none_iff] at hnone
  by_cases hi : i ≤ (lower text).length
  · exact hnone i hi h
  · rw [List.drop_of_length_le (by omega), List.prefix_nil] at h
    simp [marker] at h

/-- What a loop leaves: the text where nothing is found, and otherwise one with more brackets and
    with the assignment in it. -/
theorem redactLoop_cases (key : List Char) (sep : Char) (text : List Char) (start : Nat) :
    (Search.findFrom (key ++ [sep]) (lower text) start = none ∧
        redactLoop key sep text start = text) ∨
      ((Search.findFrom (key ++ [sep]) (lower text) start).isSome = true ∧
        brackets text < brackets (redactLoop key sep text start) ∧
        Found (key, sep) (redactLoop key sep text start)) := by
  -- induction on the search
  induction text, start using redactLoop.induct key sep with
  | case1 text start hnone => exact .inl ⟨hnone, redactLoop_of_none hnone⟩
  | case2 text start idx hsome next ih =>
    -- a replacement writes brackets that were not there
    right
    have hmarker : key ++ [sep] ≠ [] := by simp
    have hlt := Search.findFrom_lt hmarker hsome
    have hmore := brackets_replaced text (idx + (key ++ [sep]).length)
    simp only [next] at ih
    rw [redactLoop_of_some hsome]
    refine ⟨by rw [hsome]; rfl, ?_⟩
    -- more replacements, or none
    rcases ih with ⟨-, hlast⟩ | ⟨-, hless, hfound⟩
    · -- it was the last replacement
      rw [hlast]
      refine ⟨by omega, found_of_lower (i := idx) ?_⟩
      rw [List.append_assoc]
      exact found_replaced (Search.findFrom_eq_some hsome).2 hlt
    · exact ⟨by omega, hfound⟩

/-! ## Texts -/

/-- Some assignment stands in the text. -/
def hasAssignment (text : String) : Bool := assignments.any fun a => Found a text.toList

/-- The loops for some assignments change a text in which one of them is found, and leave one of
    them in it. -/
theorem foldl_cases (as : List (List Char × Char)) (text : List Char) :
    ((∀ a ∈ as, ¬ Found a text) ∧ as.foldl (fun text a => redactLoop a.1 a.2 text 0) text = text) ∨
      ((∃ a ∈ as, Found a text) ∧
        brackets text < brackets (as.foldl (fun text a => redactLoop a.1 a.2 text 0) text) ∧
        ∃ a ∈ as, Found a (as.foldl (fun text a => redactLoop a.1 a.2 text 0) text)) := by
  -- assignment by assignment
  induction as generalizing text with
  | nil => exact .inl ⟨fun a ha => absurd ha List.not_mem_nil, rfl⟩
  | cons a as ih =>
    rw [List.foldl_cons]
    -- the first one was not found, and nothing changed
    rcases redactLoop_cases a.1 a.2 text 0 with ⟨hnone, hsame⟩ | ⟨hsome, hless, hfound⟩
    · have hnot : ¬ Found a text := by
        rw [Found, marker, hnone]
        exact Bool.false_ne_true
      rw [hsame]
      -- the others decide
      rcases ih text with ⟨hrest, hend⟩ | ⟨⟨b, hb, hfound⟩, hless, c, hc, hleft⟩
      · left
        refine ⟨fun b hb => ?_, hend⟩
        rcases List.mem_cons.mp hb with rfl | hb
        · exact hnot
        · exact hrest b hb
      · right
        exact ⟨⟨b, List.mem_cons_of_mem a hb, hfound⟩, hless, c, List.mem_cons_of_mem a hc, hleft⟩
    -- it was found, and what it left is found again unless another pass covers it
    · right
      refine ⟨⟨a, List.mem_cons_self, hsome⟩, ?_⟩
      rcases ih (redactLoop a.1 a.2 text 0) with ⟨-, hend⟩ | ⟨-, hless', c, hc, hleft⟩
      · rw [hend]
        exact ⟨hless, a, List.mem_cons_self, hfound⟩
      · exact ⟨by omega, c, List.mem_cons_of_mem a hc, hleft⟩

/-- The text has an assignment when a marker is found. -/
theorem hasAssignment_eq_true {text : String} :
    hasAssignment text = true ↔ ∃ a ∈ assignments, Found a text.toList := by
  simp [hasAssignment]

/-- A text with no assignment is left alone. -/
theorem redactText_of_none {text : String} (h : hasAssignment text = false) :
    redactText text = text := by
  rcases foldl_cases assignments text.toList with ⟨-, hsame⟩ | ⟨hfound, -⟩
  · rw [redactText, hsame, String.ofList_toList]
  · rw [hasAssignment_eq_true.mpr hfound] at h
    cases h

/-- A text with one is changed and keeps one. -/
theorem redactText_of_some {text : String} (h : hasAssignment text = true) :
    redactText text ≠ text ∧ hasAssignment (redactText text) = true := by
  rcases foldl_cases assignments text.toList with ⟨hnone, -⟩ | ⟨-, hless, hleft⟩
  · obtain ⟨a, ha, hfound⟩ := hasAssignment_eq_true.mp h
    exact absurd hfound (hnone a ha)
  · constructor
    · intro hsame
      have hlist := congrArg String.toList hsame
      rw [redactText, String.toList_ofList] at hlist
      rw [hlist] at hless
      omega
    · rw [hasAssignment_eq_true, redactText, String.toList_ofList]
      exact hleft

/-- A text is redacted once if and only if it has no assignment. -/
theorem redactText_twice_iff (text : String) :
    redactText (redactText text) = redactText text ↔ hasAssignment text = false := by
  cases h : hasAssignment text with
  | false =>
    have hsame := redactText_of_none h
    rw [hsame]
    exact ⟨fun _ => rfl, fun _ => hsame⟩
  | true =>
    have hagain := (redactText_of_some (redactText_of_some h).2).1
    exact ⟨fun heq => absurd heq hagain, fun hfalse => by cases hfalse⟩

/-! ## JSON values -/

mutual
/-- No text that `redact_diagnostics` comes to has an assignment in it. -/
def bare : Json → Bool
  | .obj fields => bareFields fields
  | .arr xs => bareItems xs
  | .str s => !hasAssignment s
  | _ => true
/-- The items of a list. -/
def bareItems : List Json → Bool
  | [] => true
  | x :: xs => bare x && bareItems xs
/-- The fields of a dictionary; those with a secret are replaced. -/
def bareFields : List (String × Json) → Bool
  | [] => true
  | (key, child) :: fields =>
    (isSensitiveKey key && !isUnset child || bare child) && bareFields fields
end

/-- What is unset stays as it is. -/
theorem redactDiagnostics_of_isUnset {v : Json} (h : isUnset v = true) :
    redactDiagnostics v = v ∧ bare v = true := by
  cases v with
  | null => exact ⟨by simp [redactDiagnostics], by simp [bare]⟩
  | str s =>
    obtain rfl : s = "" := of_decide_eq_true h
    have hnone : hasAssignment "" = false := by decide +kernel
    rw [redactDiagnostics, redactText_of_none hnone, bare, hnone]
    exact ⟨rfl, rfl⟩
  | bool b => cases h
  | int n => cases h
  | float x => cases h
  | arr xs => cases h
  | obj fields => cases h

/-- The value of a field in what `redact_diagnostics` returns. -/
def redactField (key : String) (child : Json) : Json :=
  if isSensitiveKey key && !isUnset child then .str redacted else redactDiagnostics child

/-- The members are redacted one by one. -/
theorem redactDiagnosticFields_cons (key : String) (child : Json)
    (fields : List (String × Json)) :
    redactDiagnosticFields ((key, child) :: fields) =
      (key, redactField key child) :: redactDiagnosticFields fields := by
  rw [redactDiagnosticFields]
  rfl

/-- The next redaction changes a field where no secret is replaced and the value is not bare. -/
theorem redactField_twice_iff (key : String) {child : Json}
    (h : redactDiagnostics (redactDiagnostics child) = redactDiagnostics child ↔
      bare child = true) :
    redactField key (redactField key child) = redactField key child ↔
      (isSensitiveKey key && !isUnset child || bare child) = true := by
  -- a sensitive key
  by_cases hkey : isSensitiveKey key = true
  · cases hunset : isUnset child with
    | false =>
      -- the marker is a text that is set
      have hmarker : ∀ v, isUnset v = false → redactField key v = .str redacted := by
        intro v hv
        rw [redactField, hkey, hv]
        rfl
      rw [hmarker child hunset, hmarker (.str redacted) (by decide), hkey]
      simp
    -- an unset value is not covered
    | true =>
      obtain ⟨hsame, hbare⟩ := redactDiagnostics_of_isUnset hunset
      have hfield : redactField key child = child := by
        rw [redactField, hunset, Bool.not_true, Bool.and_false, if_neg Bool.false_ne_true, hsame]
      rw [hfield, hbare, Bool.or_true]
      exact ⟨fun _ => rfl, fun _ => hfield⟩
  -- any other key
  · have hplain : ∀ v, redactField key v = redactDiagnostics v := by
      intro v
      rw [redactField, if_neg]
      simp [hkey]
    rw [hplain, hplain, h]
    simp [hkey]

mutual
/-- A value is redacted once if and only if none of its texts has one. -/
theorem redactDiagnostics_twice_iff : ∀ v : Json,
    redactDiagnostics (redactDiagnostics v) = redactDiagnostics v ↔ bare v = true
  | .obj fields => by
    simp only [redactDiagnostics, bare, Json.obj.injEq]
    exact redactDiagnosticFields_twice_iff fields
  | .arr xs => by
    simp only [redactDiagnostics, bare, Json.arr.injEq]
    exact redactDiagnosticItems_twice_iff xs
  | .str s => by
    simp only [redactDiagnostics, bare, Json.str.injEq, Bool.not_eq_true']
    exact redactText_twice_iff s
  | .null => by simp [redactDiagnostics, bare]
  | .bool b => by simp [redactDiagnostics, bare]
  | .int n => by simp [redactDiagnostics, bare]
  | .float x => by simp [redactDiagnostics, bare]
/-- So are the items of a list. -/
theorem redactDiagnosticItems_twice_iff : ∀ xs : List Json,
    redactDiagnosticItems (redactDiagnosticItems xs) = redactDiagnosticItems xs ↔
      bareItems xs = true
  | [] => by simp [redactDiagnosticItems, bareItems]
  | x :: xs => by
    simp only [redactDiagnosticItems, bareItems, List.cons.injEq, Bool.and_eq_true]
    rw [redactDiagnostics_twice_iff x, redactDiagnosticItems_twice_iff xs]
/-- And the members of an object. -/
theorem redactDiagnosticFields_twice_iff : ∀ fields : List (String × Json),
    redactDiagnosticFields (redactDiagnosticFields fields) = redactDiagnosticFields fields ↔
      bareFields fields = true
  | [] => by simp [redactDiagnosticFields, bareFields]
  | (key, child) :: fields => by
    have hfield := redactField_twice_iff key (redactDiagnostics_twice_iff child)
    have hrest := redactDiagnosticFields_twice_iff fields
    rw [redactDiagnosticFields_cons, redactDiagnosticFields_cons, List.cons.injEq,
      Prod.mk.injEq, hfield, hrest, bareFields, Bool.and_eq_true]
    simp only [true_and]
end

/-- The value of a field in what `redact_secrets` returns is not changed again. -/
theorem redactSecretField_twice (key : String) {child : Json}
    (h : redactSecrets (redactSecrets child) = redactSecrets child) {once : Json}
    (honce : once = if isSensitiveKey key then if isUnset child then child else .str redacted
      else redactSecrets child) :
    (if isSensitiveKey key then if isUnset once then once else .str redacted
      else redactSecrets once) = once := by
  by_cases hkey : isSensitiveKey key = true
  · rw [if_pos hkey] at honce ⊢
    by_cases hunset : isUnset child = true
    · rw [if_pos hunset] at honce
      rw [honce, if_pos hunset]
    · rw [if_neg hunset] at honce
      rw [honce, if_neg (by decide)]
  · rw [if_neg hkey] at honce ⊢
    rw [honce, h]

mutual
/-- `redact_secrets` does not look into texts, and changes nothing the second time. -/
theorem redactSecrets_twice : ∀ v : Json, redactSecrets (redactSecrets v) = redactSecrets v
  | .obj fields => by
    simp only [redactSecrets]
    rw [redactSecretFields_twice fields]
  | .arr xs => by
    simp only [redactSecrets]
    rw [redactSecretItems_twice xs]
  | .str s => by simp [redactSecrets]
  | .null => by simp [redactSecrets]
  | .bool b => by simp [redactSecrets]
  | .int n => by simp [redactSecrets]
  | .float x => by simp [redactSecrets]
/-- The secrets of a list are redacted once. -/
theorem redactSecretItems_twice : ∀ xs : List Json,
    redactSecretItems (redactSecretItems xs) = redactSecretItems xs
  | [] => by simp [redactSecretItems]
  | x :: xs => by
    simp only [redactSecretItems]
    rw [redactSecrets_twice x, redactSecretItems_twice xs]
/-- And those of an object. -/
theorem redactSecretFields_twice : ∀ fields : List (String × Json),
    redactSecretFields (redactSecretFields fields) = redactSecretFields fields
  | [] => by simp [redactSecretFields]
  | (key, child) :: fields => by
    simp only [redactSecretFields]
    rw [redactSecretFields_twice fields,
      redactSecretField_twice key (redactSecrets_twice child) rfl]
end

/-- Redacting again changes nothing exactly where nothing was replaced in a text: for a text when
    no assignment stands in it, up to case, for a value when that is so of every text that is
    reached, and for a text that goes through both functions as for a text. -/
theorem redacted_twice_iff (v : Json) (s : String) :
    (redactDiagnostics (redactDiagnostics v) = redactDiagnostics v ↔ bare v = true) ∧
      (redactText (redactText s) = redactText s ↔ hasAssignment s = false) ∧
      (redactDiagnostics (.str (redactText s)) = .str (redactText s) ↔
        hasAssignment s = false) := by
  refine ⟨redactDiagnostics_twice_iff v, redactText_twice_iff s, ?_⟩
  rw [redactDiagnostics, Json.str.injEq]
  exact redactText_twice_iff s

/-- The second redaction of an error text puts in another bracket. -/
theorem redacted_twice_differs :
    redactText (redactText "password=x") = "password=[REDACTED]]" ∧
      redactText "password=x" = "password=[REDACTED]" ∧
      ¬ (∀ s, redactText (redactText s) = redactText s) ∧
      ¬ ∀ v, redactDiagnostics (redactDiagnostics v) = redactDiagnostics v := by
  have htwice : redactText (redactText "password=x") = "password=[REDACTED]]" := by decide +kernel
  have honce : redactText "password=x" = "password=[REDACTED]" := by decide +kernel
  refine ⟨htwice, honce, fun h => ?_, fun h => ?_⟩
  · have heq := h "password=x"
    rw [htwice, honce] at heq
    exact absurd heq (by decide)
  · have heq := h (.str "password=x")
    rw [redactDiagnostics, redactDiagnostics, Json.str.injEq, htwice, honce] at heq
    exact absurd heq (by decide)

end Redaction

end Novena
