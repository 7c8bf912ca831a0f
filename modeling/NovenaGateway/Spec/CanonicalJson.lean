import NovenaGateway.ForStd.Framing
import NovenaGateway.Native.CanonicalJson
import NovenaGateway.Spec.JsonEquality
import NovenaGateway.Spec.JsonText

/-!
# What a signature binds

The canonical text of a value is read back in one way only, so two payloads have the same bytes
under a signature exactly when they differ in the order of their members and in nothing else. The
text keeps apart what Python's `==` does not: `1`, `1.0` and `true` are three texts.

Key results:
- `Json.compact_injective`
- `Json.canonicalBytes_eq_iff`
-/

namespace Novena

namespace Json

open Framing

/-! ## Scalars -/

/-- The characters that start or end something in a JSON text. -/
def punctuation : List Char := [',', ']', '\x7d', '"', '[', '\x7b']

/-- The text ends or goes on with what may follow a value. -/
def Ends (s : List Char) : Prop := EndsWord (· ∈ punctuation) s

/-- A comma ends a scalar. -/
theorem ends_comma (s : List Char) : Ends (',' :: s) := by
  intro c hc
  rw [show c = ',' from (Option.some.inj hc).symm]
  decide

/-- So does the end of a list. -/
theorem ends_bracket (s : List Char) : Ends (']' :: s) := by
  intro c hc
  rw [show c = ']' from (Option.some.inj hc).symm]
  decide

/-- And the end of an object. -/
theorem ends_brace (s : List Char) : Ends ('\x7d' :: s) := by
  intro c hc
  rw [show c = '\x7d' from (Option.some.inj hc).symm]
  decide

/-- The value is neither a string nor a container. -/
def isScalar : Json → Bool
  | null | bool _ | int _ | float _ => true
  | _ => false

/-- A scalar is written like a dictionary key that is one. -/
theorem compact_scalar {v : Json} (h : v.isScalar = true) : v.compact = v.jsonKey.toList := by
  cases v with
  | str s => cases h
  | arr xs => cases h
  | obj fields => cases h
  | _ => rfl

/-- The scalars with a fixed text. -/
def named : List Json :=
  [null, bool true, bool false, float .nan, float (.inf true), float (.inf false)]

/-- The scalars are the named ones, the integers and the finite floats. -/
theorem scalar_cases {v : Json} (h : v.isScalar = true) :
    v ∈ named ∨ (∃ n, v = int n) ∨ ∃ d, v = float (.fin d) := by
  cases v with
  | null => exact .inl (by simp [named])
  | bool b => cases b <;> exact .inl (by simp [named])
  | int n => exact .inr (.inl ⟨n, rfl⟩)
  | float x =>
    cases x with
    | nan => exact .inl (by simp [named])
    | inf neg => cases neg <;> exact .inl (by simp [named])
    | fin d => exact .inr (.inr ⟨d, rfl⟩)
  | str s => cases h
  | arr xs => cases h
  | obj fields => cases h

/-- A digit is no punctuation. -/
theorem digit_notMem {c : Char} (h : c.isDigit = true) : c ∉ punctuation := by
  intro hc
  have hall : (punctuation.all fun c => !c.isDigit) = true := by decide
  have hnot := List.all_eq_true.mp hall c hc
  rw [h] at hnot
  cases hnot

/-- `decide` looks at a list, and not at every character. -/
private theorem notMem_of_any {cs : List Char} (h : cs.any punctuation.contains = false) :
    ∀ c ∈ cs, c ∉ punctuation := by
  intro c hc hmem
  exact List.any_eq_false.mp h c hc (List.contains_iff_mem.mpr hmem)

/-- The digits of a number have no punctuation. -/
private theorem toDigits_notMem {n : Nat} {c : Char} (h : c ∈ Nat.toDigits 10 n) :
    c ∉ punctuation :=
  digit_notMem (Nat.isDigit_of_mem_toDigits (by decide) (by decide) h)

/-- The text of a number has no punctuation if its digits have none. -/
private theorem pointedDigits_notMem {ds : List Char} (hds : ∀ c ∈ ds, c ∉ punctuation) (e : Int) :
    ∀ c ∈ pointedDigits ds e, c ∉ punctuation := by
  intro c hc
  unfold pointedDigits at hc
  -- the three layouts of a number
  split at hc
  -- zeros after the point
  · simp only [List.append_assoc, List.mem_append, List.mem_replicate] at hc
    obtain hc | ⟨-, rfl⟩ | hc := hc
    · exact notMem_of_any (by decide) c hc
    · decide
    · exact hds c hc
  -- digits, padding, point and the rest
  · split at hc
    · simp only [List.append_assoc, List.mem_append, List.mem_replicate,
        List.mem_singleton] at hc
      obtain hc | ⟨-, rfl⟩ | rfl | hc := hc
      · exact hds c (List.mem_of_mem_take hc)
      · decide
      · decide
      · split at hc
        · rw [List.mem_singleton.mp hc]
          decide
        · exact hds c (List.mem_of_mem_drop hc)
    -- one digit, the rest, and the exponent
    · simp only [List.append_assoc, List.mem_append] at hc
      obtain hc | hc | hc | hc := hc
      · exact hds c (List.mem_of_mem_take hc)
      · split at hc
        · cases hc
        · obtain rfl | hc := List.mem_cons.mp hc
          · decide
          · exact hds c (List.mem_of_mem_drop hc)
      · -- the sign of the exponent
        split at hc
        · exact notMem_of_any (by decide) c hc
        · exact notMem_of_any (by decide) c hc
      · split at hc
        · obtain rfl | hc := List.mem_cons.mp hc
          · decide
          · exact toDigits_notMem hc
        · exact toDigits_notMem hc

/-- Nor has the text of a decimal. -/
private theorem decimalText_notMem (q : ℚ) (n : Nat) (nearest : Bool) :
    ∀ c ∈ decimalText q n nearest, c ∉ punctuation := by
  have hbody : ∀ (p : Prop) [Decidable p] (m m' : Nat) (e e' : Int),
      ∀ c ∈ (if p then pointedDigits (Nat.toDigits 10 m) e
        else pointedDigits (Nat.toDigits 10 m') e'), c ∉ punctuation := by
    intro p _ m m' e e' c hc
    split at hc
    · exact pointedDigits_notMem (fun c => toDigits_notMem) e c hc
    · exact pointedDigits_notMem (fun c => toDigits_notMem) e' c hc
  intro c hc
  unfold decimalText at hc
  split at hc
  · exact notMem_of_any (by decide) c hc
  · dsimp only at hc
    -- with a sign or without
    split at hc
    · obtain rfl | hc := List.mem_cons.mp hc
      · decide
      · exact hbody _ _ _ _ _ c hc
    · exact hbody _ _ _ _ _ c hc

/-- The text of a scalar has no punctuation. -/
theorem jsonKey_notMem {v : Json} (h : v.isScalar = true) :
    ∀ c ∈ v.jsonKey.toList, c ∉ punctuation := by
  have hint : ∀ n : Int, ∀ c ∈ (toString n).toList, c ∉ punctuation := by
    intro n c hc
    obtain hdigit | rfl := int_text n c hc
    · exact digit_notMem hdigit
    · decide
  -- the named values, the integers and the doubles
  obtain hnamed | ⟨n, rfl⟩ | ⟨d, rfl⟩ := scalar_cases h
  · have hnone : ((named.map jsonKey).any fun s => s.toList.any punctuation.contains) = false := by
      decide
    have hkey := List.any_eq_false.mp hnone _ (List.mem_map_of_mem hnamed)
    exact notMem_of_any (Bool.not_eq_true _ ▸ hkey)
  · exact hint n
  · intro c hc
    change c ∈ (reprDouble d).toList at hc
    obtain ⟨n, nearest, htext, -⟩ | hquestion := reprDouble_cases d
    -- a text that reads back
    · rw [htext, String.toList_ofList] at hc
      exact decimalText_notMem d.val n nearest c hc
    -- or the substitute, a question mark and a number
    · rw [hquestion, String.toList_append, List.mem_append] at hc
      obtain hc | hc := hc
      · rw [show c = '?' by simpa using hc]
        decide
      · exact hint (Encodable.encode d.val : Nat) c hc

/-- Every scalar has a text. -/
theorem jsonKey_ne_nil {v : Json} (h : v.isScalar = true) : v.jsonKey.toList ≠ [] := by
  obtain hnamed | ⟨n, rfl⟩ | ⟨d, rfl⟩ := scalar_cases h
  · have hall : ∀ s ∈ named.map jsonKey, s.toList ≠ [] := by decide
    exact hall _ (List.mem_map_of_mem hnamed)
  · cases n with
    | ofNat m =>
      rw [show (jsonKey (int (Int.ofNat m))).toList = m.repr.toList from rfl, Nat.toList_repr]
      exact Nat.toDigits_ne_nil
    | negSucc m =>
      rw [show jsonKey (int (Int.negSucc m)) = "-" ++ (m + 1).repr from rfl, String.toList_append]
      exact List.cons_ne_nil _ _
  · obtain ⟨c, hc, -⟩ := reprFloat_text (.fin d)
    exact List.ne_nil_of_mem hc

/-- The text of a finite float is none that reads as something else. -/
private theorem reprDouble_ne {d : Double} {s : String} (hread : floatOfStr s ≠ some (.fin d))
    (hquestion : s.toList.head? ≠ some '?') : reprDouble d ≠ s := by
  intro h
  obtain hd | hd := reprDouble_reads d
  · rw [h] at hd
    exact hread hd
  · rw [← h, hd, String.toList_append] at hquestion
    exact hquestion rfl

/-- A text with a character that is neither a digit nor a sign is no integer. -/
private theorem int_ne_of_mem {n : Int} {s : String}
    (h : ∃ c ∈ s.toList, c.isDigit = false ∧ c ≠ '-') : toString n ≠ s := by
  obtain ⟨c, hc, hdigit, hsign⟩ := h
  intro hs
  obtain hd | hd := int_text n c (by rw [hs]; exact hc)
  · rw [hdigit] at hd
    cases hd
  · exact hsign hd

/-- A scalar is known by its text. -/
theorem jsonKey_injective {v w : Json} (hv : v.isScalar = true) (hw : w.isScalar = true)
    (h : v.jsonKey = w.jsonKey) : v = w := by
  -- the names differ from each other, from every integer and from every double
  have hnodup : (named.map jsonKey).Nodup := by decide
  have hall : ((named.map jsonKey).all fun s =>
      s.toList.any fun c => !c.isDigit && c != '-') = true := by decide
  -- a name has a letter, which no integer has
  have hletter : ∀ s ∈ named.map jsonKey, ∃ c ∈ s.toList, c.isDigit = false ∧ c ≠ '-' := by
    intro s hs
    simpa using List.all_eq_true.mp hall s hs
  -- no name reads back as a number
  have hdouble : ∀ (d : Double), ∀ s ∈ named.map jsonKey, reprDouble d ≠ s := by
    intro d s hs
    have hread : ∀ s ∈ named.map jsonKey, s.toList.head? ≠ some '?' ∧
        (floatOfStr s = none ∨ floatOfStr s = some .nan ∨ ∃ neg, floatOfStr s = some (.inf neg)) := by
      decide
    obtain ⟨hquestion, hfloat⟩ := hread s hs
    refine reprDouble_ne ?_ hquestion
    obtain hfloat | hfloat | ⟨neg, hfloat⟩ := hfloat <;> rw [hfloat] <;> intro hsome <;> cases hsome
  -- a double has a point or an exponent
  have hpoint : ∀ (n : Int) (d : Double), toString n ≠ reprDouble d :=
    fun n d => int_ne_of_mem (reprFloat_text (.fin d))
  -- nine pairs of kinds
  obtain hv | ⟨n, rfl⟩ | ⟨d, rfl⟩ := scalar_cases hv <;>
    obtain hw | ⟨m, rfl⟩ | ⟨e, rfl⟩ := scalar_cases hw
  · exact List.inj_on_of_nodup_map hnodup hv hw h
  · exact absurd h.symm (int_ne_of_mem (hletter _ (List.mem_map_of_mem hv)))
  · exact absurd h.symm (hdouble e _ (List.mem_map_of_mem hv))
  · exact absurd h (int_ne_of_mem (hletter _ (List.mem_map_of_mem hw)))
  · exact congrArg int (int_text_injective h)
  · exact absurd h (hpoint n e)
  · exact absurd h (hdouble d _ (List.mem_map_of_mem hw))
  · exact absurd h.symm (hpoint m d)
  · have hfloat : reprFloat (.fin d) = reprFloat (.fin e) := h
    rw [reprFloat_injective hfloat]

/-! ## Strings -/

/-- The value of a hexadecimal digit. -/
private def hexValue (c : Char) : Nat := if c.isDigit then c.toNat - 48 else c.toNat - 87

/-- `py_scanstring` on one character of a literal. -/
private def readChar : List Char → Option (Char × List Char)
  | '\\' :: 'u' :: '0' :: '0' :: high :: low :: rest =>
    some (Char.ofNat (16 * hexValue high + hexValue low), rest)
  | '\\' :: 'b' :: rest => some (Char.ofNat 8, rest)
  | '\\' :: 'f' :: rest => some (Char.ofNat 12, rest)
  | '\\' :: 'n' :: rest => some ('\n', rest)
  | '\\' :: 'r' :: rest => some ('\r', rest)
  | '\\' :: 't' :: rest => some ('\t', rest)
  | '\\' :: c :: rest => some (c, rest)
  | c :: rest => some (c, rest)
  | [] => none

/-- An escaped character is read back, whatever follows it. -/
private theorem readChar_escapeChar (c : Char) (s : List Char) :
    readChar (escapeChar c ++ s) = some (c, s) := by
  -- a character with a short escape
  by_cases hshort : c ∈ ['\\', '"', Char.ofNat 8, Char.ofNat 12, '\n', '\r', '\t']
  · simp only [List.mem_cons, List.not_mem_nil, or_false] at hshort
    obtain rfl | rfl | rfl | rfl | rfl | rfl | rfl := hshort <;> rfl
  -- a control character without one, or a character as it is
  · simp only [List.mem_cons, List.not_mem_nil, or_false, not_or] at hshort
    have hnone : shortEscape? c = none := by
      unfold shortEscape?
      simp only [hshort, if_false]
    rw [escapeChar, hnone]
    by_cases hcontrol : c.toNat < 0x20
    · rw [show (if c.toNat < 0x20 then ['\\', 'u', '0', '0', Nat.digitChar (c.toNat / 16),
          Nat.digitChar (c.toNat % 16)] else [c]) = _ from if_pos hcontrol]
      -- two hexadecimal digits stand for a number below 256
      have hread : ∀ n < 32, 16 * hexValue (Nat.digitChar (n / 16)) +
          hexValue (Nat.digitChar (n % 16)) = n := by decide
      show some (Char.ofNat _, s) = some (c, s)
      rw [hread c.toNat hcontrol, Char.ofNat_toNat]
    · rw [show (if c.toNat < 0x20 then ['\\', 'u', '0', '0', Nat.digitChar (c.toNat / 16),
          Nat.digitChar (c.toNat % 16)] else [c]) = [c] from if_neg hcontrol]
      show readChar (c :: s) = some (c, s)
      unfold readChar
      split <;> simp_all

/-- No character of a string is written as the quote that ends it. -/
private theorem escapeChar_ne (c : Char) (s t : List Char) : escapeChar c ++ s ≠ '"' :: t := by
  intro h
  have hread := readChar_escapeChar c s
  rw [h] at hread
  -- a quote that is read is the quote itself, which is written with a backslash
  obtain ⟨rfl, rfl⟩ := Prod.mk.inj (Option.some.inj hread)
  cases h

/-- A string literal tells where it ends. -/
theorem quoted_framed (k : String) : FramedAt quoted (fun _ => True) k := by
  intro k' s t _ _ h
  rw [quoted, quoted, List.cons_append, List.cons_append, List.append_assoc,
    List.append_assoc] at h
  have hbody := (List.cons.inj h).2
  obtain ⟨hchars, hst⟩ := flatMap_append_inj
    (fun c => framedAt_of_read readChar_escapeChar c) escapeChar_ne hbody
  exact ⟨String.toList_inj.mp hchars, hst⟩

/-! ## Values -/

/-- The items of a list are separated by commas. -/
theorem compactItems_eq (first : Bool) (xs : List Json) :
    compactItems first xs = separated ',' compact first xs := by
  induction xs generalizing first with
  | nil => rfl
  | cons x xs ih => rw [compactItems, separated, ih]

/-- A member of an object: its name, a colon and its value. -/
def compactMember (p : String × Json) : List Char := quoted p.1 ++ ':' :: compact p.2

/-- And so are the members of an object. -/
theorem compactFields_eq (first : Bool) (fields : List (String × Json)) :
    compactFields first fields = separated ',' compactMember first fields := by
  induction fields generalizing first with
  | nil => rfl
  | cons p fields ih => rw [compactFields, separated, ih, compactMember]

/-- The character a string or a container starts with. -/
def opening : Json → Option Char
  | str _ => some '"'
  | arr _ => some '['
  | obj _ => some '\x7b'
  | _ => none

/-- A value without an opening bracket is a scalar. -/
theorem isScalar_of_opening {v : Json} (h : v.opening = none) : v.isScalar = true := by
  cases v <;> first | rfl | cases h

/-- The first character of a text is that of its kind of value. -/
theorem compact_eq_cons (v : Json) : ∃ c cs, v.compact = c :: cs ∧
    (v.opening = some c ∨ (v.opening = none ∧ c ∉ punctuation)) := by
  cases hopening : v.opening with
  | some c =>
    cases v with
    | str s => exact ⟨_, _, rfl, .inl hopening.symm⟩
    | arr xs => exact ⟨_, _, rfl, .inl hopening.symm⟩
    | obj fields => exact ⟨_, _, rfl, .inl hopening.symm⟩
    | _ => cases hopening
  | none =>
    have hscalar := isScalar_of_opening hopening
    obtain ⟨c, cs, htext⟩ := List.exists_cons_of_ne_nil (jsonKey_ne_nil hscalar)
    refine ⟨c, cs, (compact_scalar hscalar).trans htext, .inr ⟨rfl, ?_⟩⟩
    exact jsonKey_notMem hscalar c (by rw [htext]; exact List.mem_cons_self)

/-- The first character of a text says which kind of value it is of. -/
theorem opening_eq {v w : Json} {s t : List Char} (h : v.compact ++ s = w.compact ++ t) :
    v.opening = w.opening := by
  -- the first characters of the two texts agree
  obtain ⟨c, cs, hv, hc⟩ := compact_eq_cons v
  obtain ⟨d, ds, hw, hd⟩ := compact_eq_cons w
  rw [hv, hw] at h
  obtain rfl := (List.cons.inj h).1
  -- the three opening marks are punctuation
  have hopens : ∀ u : Json, u.opening = some c → c ∈ punctuation := by
    intro u hu
    cases u with
    | str _ => rw [← Option.some.inj hu]; decide
    | arr _ => rw [← Option.some.inj hu]; decide
    | obj _ => rw [← Option.some.inj hu]; decide
    | _ => cases hu
  obtain hc | ⟨hc, hnot⟩ := hc <;> obtain hd | ⟨hd, hnot'⟩ := hd
  · rw [hc, hd]
  · exact absurd (hopens v hc) hnot'
  · exact absurd (hopens w hd) hnot
  · rw [hc, hd]

/-- No value starts with a character that closes something. -/
private theorem compact_ne {close : Char} (hclose : ∀ v : Json, v.opening ≠ some close)
    (hmem : close ∈ punctuation) (v : Json) (s t : List Char) : v.compact ++ s ≠ close :: t := by
  intro h
  obtain ⟨c, cs, hv, hc⟩ := compact_eq_cons v
  rw [hv] at h
  obtain rfl := (List.cons.inj h).1
  obtain hc | ⟨-, hnot⟩ := hc
  · exact hclose v hc
  · exact hnot hmem

/-- A scalar is over at the first punctuation. -/
private theorem scalar_framed {v : Json} (hv : v.isScalar = true) : FramedAt compact Ends v := by
  intro w s t hs ht h
  have hw : w.isScalar = true := by
    refine isScalar_of_opening ((opening_eq h).symm.trans ?_)
    cases v <;> first | rfl | cases hv
  rw [compact_scalar hv, compact_scalar hw] at h
  obtain ⟨htext, hst⟩ := word_append_inj (jsonKey_notMem hv) (jsonKey_notMem hw) hs ht h
  exact ⟨jsonKey_injective hv hw (String.toList_inj.mp htext), hst⟩

/-- A member can be read off the front of a text when its value can. -/
theorem compactMember_framed {p : String × Json} (h : FramedAt compact Ends p.2) :
    FramedAt compactMember Ends p := by
  have hvalue : FramedAt (fun v : Json => ':' :: v.compact) Ends p.2 := by
    intro w s t hs ht htext
    exact h hs ht (List.cons.inj htext).2
  exact (quoted_framed p.1).pair hvalue fun _ _ => trivial

/-- A member does not begin with the end of the object. -/
private theorem compactMember_ne (p : String × Json) (s t : List Char) :
    compactMember p ++ s ≠ '\x7d' :: t := by
  intro h
  have hhead : '"' = '\x7d' := (List.cons.inj h).1
  exact absurd hhead (by decide)

/-- No value begins with another character than a quote or a bracket. -/
private theorem opening_ne {c : Char} (hc : c ∉ ['"', '[', '\x7b']) (v : Json) :
    v.opening ≠ some c := by
  intro h
  apply hc
  cases v with
  | str _ => rw [← Option.some.inj h]; decide
  | arr _ => rw [← Option.some.inj h]; decide
  | obj _ => rw [← Option.some.inj h]; decide
  | _ => cases h

mutual
/-- The text of a value tells where it ends if punctuation or nothing follows. -/
theorem compact_framed : ∀ v : Json, FramedAt compact Ends v
  | .str k => by
    intro w s t _ _ h
    have hopening := opening_eq h
    cases w with
    | str l =>
      obtain ⟨rfl, hst⟩ := quoted_framed k trivial trivial h
      -- a text ends at its closing quote
      exact ⟨rfl, hst⟩
    | _ => cases hopening
  | .arr xs => by
    intro w s t _ _ h
    have hopening := opening_eq h
    cases w with
    | arr ys =>
      rw [compact, compact, compactItems_eq, compactItems_eq, List.cons_append, List.cons_append,
        List.append_assoc, List.append_assoc] at h
      -- the items are separated by commas, and the bracket ends the last one
      obtain ⟨rfl, hst⟩ := separated_append_inj (by decide)
        (fun s => ⟨ends_comma s, ends_bracket s⟩)
        (compact_ne (opening_ne (by decide)) (by decide)) (compact_framedItems xs)
        (List.cons.inj h).2
      exact ⟨rfl, hst⟩
    | _ => cases hopening
  | .obj fields => by
    intro w s t _ _ h
    have hopening := opening_eq h
    cases w with
    | obj fields' =>
      rw [compact, compact, compactFields_eq, compactFields_eq, List.cons_append,
        List.cons_append, List.append_assoc, List.append_assoc] at h
      -- and so are the members
      obtain ⟨rfl, hst⟩ := separated_append_inj (by decide)
        (fun s => ⟨ends_comma s, ends_brace s⟩) compactMember_ne
        (fun p hp => compactMember_framed (compact_framedFields fields p hp)) (List.cons.inj h).2
      exact ⟨rfl, hst⟩
    | _ => cases hopening
  -- the scalars end where punctuation begins
  | .null => scalar_framed rfl
  | .bool _ => scalar_framed rfl
  | .int _ => scalar_framed rfl
  | .float _ => scalar_framed rfl
/-- Every item of a list can be read off the front of a text. -/
theorem compact_framedItems : ∀ xs : List Json, ∀ x ∈ xs, FramedAt compact Ends x
  | [] => fun _ h => absurd h List.not_mem_nil
  | x :: xs => List.forall_mem_cons.mpr ⟨compact_framed x, compact_framedItems xs⟩
/-- And every member of an object. -/
theorem compact_framedFields : ∀ fields : List (String × Json), ∀ p ∈ fields,
    FramedAt compact Ends p.2
  | [] => fun _ h => absurd h List.not_mem_nil
  | (_, x) :: fields =>
    List.forall_mem_cons.mpr ⟨compact_framed x, compact_framedFields fields⟩
end

/-- Two values with one text are one value. -/
theorem compact_injective : Function.Injective compact :=
  injective_of_framedAt (fun _ hc => by cases hc) compact_framed

/-! ## The order of the members -/

mutual
/-- The values differ in the order of the members of their objects and in nothing else. -/
inductive Rearranged : Json → Json → Prop where
  | null : Rearranged .null .null
  | bool (b : Bool) : Rearranged (.bool b) (.bool b)
  | int (n : Int) : Rearranged (.int n) (.int n)
  | float (x : F64) : Rearranged (.float x) (.float x)
  | str (s : String) : Rearranged (.str s) (.str s)
  | arr {xs ys : List Json} (h : RearrangedItems xs ys) : Rearranged (.arr xs) (.arr ys)
  | obj {fields fields' members : List (String × Json)} (h : RearrangedFields fields fields')
      (hperm : fields'.Perm members) : Rearranged (.obj fields) (.obj members)
/-- Item by item. -/
inductive RearrangedItems : List Json → List Json → Prop where
  | nil : RearrangedItems [] []
  | cons {x y : Json} {xs ys : List Json} (h : Rearranged x y) (hs : RearrangedItems xs ys) :
      RearrangedItems (x :: xs) (y :: ys)
/-- Member by member, each under its name. -/
inductive RearrangedFields : List (String × Json) → List (String × Json) → Prop where
  | nil : RearrangedFields [] []
  | cons {k : String} {x y : Json} {fields fields' : List (String × Json)} (h : Rearranged x y)
      (hs : RearrangedFields fields fields') :
      RearrangedFields ((k, x) :: fields) ((k, y) :: fields')
end

/-- The members are sorted one level further down. -/
theorem sortKeysFields_eq (fields : List (String × Json)) :
    sortKeysFields fields = fields.map fun p => (p.1, p.2.sortKeys) := by
  induction fields with
  | nil => rfl
  | cons p fields ih => rw [sortKeysFields, List.map_cons, ih]

/-- Their keys stay what they are. -/
theorem keys_sortKeysFields (fields : List (String × Json)) :
    (sortKeysFields fields).map Prod.fst = fields.map Prod.fst := by
  rw [sortKeysFields_eq, List.map_map]
  rfl

/-- Members whose values are sorted are the sorted members. -/
private theorem eq_sortKeysFields {members fields : List (String × Json)}
    (h : List.Forall₂ (fun p q => p = (q.1, q.2.sortKeys)) members fields) :
    members = sortKeysFields fields := by
  induction h with
  | nil => rfl
  | cons hpq _ ih => rw [hpq, ih, sortKeysFields]

/-- Two objects with the same sorted members: the members of one, sorted inside, are those of the
    other in some order. -/
private theorem exists_perm_of_sortByKey {fields members : List (String × Json)}
    (h : (sortKeysFields fields).sortByKey = (sortKeysFields members).sortByKey) :
    ∃ fields', sortKeysFields fields = sortKeysFields fields' ∧ fields'.Perm members := by
  have hperm : (sortKeysFields fields).Perm (sortKeysFields members) := by
    refine (List.sortByKey_perm _).symm.trans ?_
    rw [h]
    exact List.sortByKey_perm _
  have hpairs : List.Forall₂ (fun p q : String × Json => p = (q.1, q.2.sortKeys))
      (sortKeysFields members) members := by
    rw [sortKeysFields_eq, List.forall₂_map_left_iff]
    exact List.forall₂_same.mpr fun _ _ => rfl
  obtain ⟨fields', hpairs', hmembers⟩ := List.perm_comp_forall₂ hperm hpairs
  exact ⟨fields', eq_sortKeysFields hpairs', hmembers⟩

mutual
/-- Values that are the same once sorted are the same up to the order of members. -/
theorem rearranged_of_sortKeys : ∀ {v w : Json}, v.sortKeys = w.sortKeys → Rearranged v w
  | .arr xs, w, h => by
    cases w with
    | arr ys => exact .arr (rearrangedItems_of_sortKeys (arr.inj h))
    | _ => cases h
  | .obj fields, w, h => by
    cases w with
    | obj members =>
      obtain ⟨fields', hfields, hperm⟩ := exists_perm_of_sortByKey (obj.inj h)
      exact .obj (rearrangedFields_of_sortKeys hfields) hperm
    | _ => cases h
  | .null, w, h => by cases w <;> cases h; exact .null
  | .bool b, w, h => by cases w <;> cases h; exact .bool b
  | .int n, w, h => by cases w <;> cases h; exact .int n
  | .float x, w, h => by cases w <;> cases h; exact .float x
  | .str s, w, h => by cases w <;> cases h; exact .str s
/-- Lists that are equal when sorted are rearrangements, item by item. -/
theorem rearrangedItems_of_sortKeys : ∀ {xs ys : List Json},
    sortKeysItems xs = sortKeysItems ys → RearrangedItems xs ys
  | [], ys, h => by
    cases ys with
    | nil => exact .nil
    | cons y ys => cases h
  | x :: xs, ys, h => by
    cases ys with
    | nil => cases h
    | cons y ys =>
      obtain ⟨hx, hxs⟩ := List.cons.inj h
      exact .cons (rearranged_of_sortKeys hx) (rearrangedItems_of_sortKeys hxs)
/-- So are the members of objects. -/
theorem rearrangedFields_of_sortKeys : ∀ {fields fields' : List (String × Json)},
    sortKeysFields fields = sortKeysFields fields' → RearrangedFields fields fields'
  | [], fields', h => by
    cases fields' with
    | nil => exact .nil
    | cons p fields' => cases h
  | (k, x) :: fields, fields', h => by
    cases fields' with
    | nil => cases h
    | cons p fields' =>
      obtain ⟨l, y⟩ := p
      obtain ⟨hp, hfields⟩ := List.cons.inj h
      obtain ⟨hk, hx⟩ := Prod.mk.inj hp
      obtain rfl : k = l := hk
      exact .cons (rearranged_of_sortKeys hx) (rearrangedFields_of_sortKeys hfields)
end

mutual
/-- Sorting forgets the order of members, where every object has a name once. -/
theorem Rearranged.sortKeys_eq : ∀ {v w : Json}, v.uniqueKeys = true → Rearranged v w →
    v.sortKeys = w.sortKeys
  | .arr _, _, hv, .arr h => congrArg arr (RearrangedItems.sortKeys_eq hv h)
  | .obj fields, .obj members, hv, .obj h hperm => by
    rw [uniqueKeys, Bool.and_eq_true, decide_eq_true_eq] at hv
    have hfields := RearrangedFields.sortKeys_eq hv.2 h
    -- both objects sort to one list, since their keys differ from each other
    have hsorted : (sortKeysFields fields).Perm (sortKeysFields members) := by
      rw [hfields, sortKeysFields_eq, sortKeysFields_eq]
      exact hperm.map _
    rw [sortKeys, sortKeys, List.sortByKey_eq_of_perm _ hsorted]
    rw [keys_sortKeysFields]
    exact hv.1
  | _, _, _, .null => rfl
  | _, _, _, .bool _ => rfl
  | _, _, _, .int _ => rfl
  | _, _, _, .float _ => rfl
  | _, _, _, .str _ => rfl
/-- And rearranged lists are equal when sorted. -/
theorem RearrangedItems.sortKeys_eq : ∀ {xs ys : List Json}, uniqueKeysList xs = true →
    RearrangedItems xs ys → sortKeysItems xs = sortKeysItems ys
  | _, _, _, .nil => rfl
  | _, _, hxs, .cons h hs => by
    rw [uniqueKeysList, Bool.and_eq_true] at hxs
    rw [sortKeysItems, sortKeysItems, h.sortKeys_eq hxs.1, hs.sortKeys_eq hxs.2]
/-- So are rearranged members, if no key is there twice. -/
theorem RearrangedFields.sortKeys_eq : ∀ {fields fields' : List (String × Json)},
    uniqueKeysFields fields = true → RearrangedFields fields fields' →
    sortKeysFields fields = sortKeysFields fields'
  | _, _, _, .nil => rfl
  | _, _, hfields, .cons h hs => by
    rw [uniqueKeysFields, Bool.and_eq_true] at hfields
    rw [sortKeysFields, sortKeysFields, h.sortKeys_eq hfields.1, hs.sortKeys_eq hfields.2]
end

/-! ## The bytes -/

/-- Equal bytes are equal texts, as the encoding loses nothing. -/
theorem canonicalBytes_inj {p q : Json} :
    p.canonicalBytes = q.canonicalBytes ↔ p.sortKeys.compact = q.sortKeys.compact := by
  constructor
  · intro h
    exact String.ofList_inj.mp (String.toByteArray_inj.mp h)
  · intro h
    rw [canonicalBytes, canonicalBytes, canonicalText, canonicalText, h]

/-- Equal bytes come from rearranged values. -/
theorem canonicalBytes_eq {p q : Json} (h : p.canonicalBytes = q.canonicalBytes) :
    Rearranged p q :=
  rearranged_of_sortKeys (compact_injective (canonicalBytes_inj.mp h))

/-- The bytes under a signature tell everything about a payload but the order of members. -/
theorem canonicalBytes_eq_iff {p : Json} (hp : p.uniqueKeys = true) (q : Json) :
    p.canonicalBytes = q.canonicalBytes ↔ Rearranged p q := by
  constructor
  · exact canonicalBytes_eq
  · intro h
    rw [canonicalBytes_inj, h.sortKeys_eq hp]

/-- Two orders of the members, one signature. -/
theorem canonicalBytes_eq_iff_level :
    (obj [("unit", str "m"), ("level", int 3)]).canonicalBytes =
        (obj [("level", int 3), ("unit", str "m")]).canonicalBytes ↔
      Rearranged (obj [("unit", str "m"), ("level", int 3)])
        (obj [("level", int 3), ("unit", str "m")]) :=
  canonicalBytes_eq_iff (by decide) _

/-! ## Members that are read -/

/-- Objects whose members correspond have the same names. -/
theorem RearrangedFields.keys_eq {fields fields' : List (String × Json)}
    (h : RearrangedFields fields fields') : fields.map Prod.fst = fields'.map Prod.fst := by
  induction fields generalizing fields' with
  | nil =>
    cases h
    rfl
  | cons p fields ih =>
    cases h with
    | cons _ hs => rw [List.map_cons, List.map_cons, ih hs]

/-- A key has rearranged values in rearranged members. -/
theorem RearrangedFields.getD {fields fields' : List (String × Json)}
    (h : RearrangedFields fields fields') (k : String) {default : Json}
    (hdefault : Rearranged default default) :
    Rearranged ((Dict.get? fields k).getD default) ((Dict.get? fields' k).getD default) := by
  induction fields generalizing fields' with
  | nil =>
    cases h
    exact hdefault
  | cons p fields ih =>
    cases h with
    | cons hx hs =>
      rw [Dict.get?_cons, Dict.get?_cons]
      split
      · exact hx
      · exact ih hs

/-- A member is read alike whatever the order, where a name occurs once. -/
theorem Rearranged.getD {fields members : List (String × Json)}
    (h : Rearranged (Json.obj fields) (Json.obj members)) (hnodup : (fields.map Prod.fst).Nodup) (k : String)
    {default : Json} (hdefault : Rearranged default default) :
    Rearranged ((Dict.get? fields k).getD default) ((Dict.get? members k).getD default) := by
  cases h with
  | obj hfields hperm =>
    rw [← Dict.get?_perm hperm (hfields.keys_eq ▸ hnodup) k]
    exact hfields.getD k hdefault

end Json

end Novena
