import NovenaGateway.Native.Json

/-!
# What `str()` tells about a dictionary key

Two values that are not strings and have the same `str()` are the same dictionary key: the
text of an integer has digits only, the text of a float reads back as that float, and no
number prints as `True`.

Key results:
- `Json.hashKey_of_toStr`
-/

namespace Novena

/-- `k` is a string. -/
def Json.Key.isStr : Json.Key → Bool
  | .str _ => true
  | _ => false

namespace Json

/-! ## Integers -/

/-- A number is written in digits. -/
private theorem isDigit_of_mem_repr {m : Nat} {c : Char} (h : c ∈ m.repr.toList) :
    c.isDigit = true := by
  rw [Nat.toList_repr] at h
  exact Nat.isDigit_of_mem_toDigits (by decide) (by decide) h

/-- And two numbers are written in two ways. -/
private theorem repr_injective {m n : Nat} (h : m.repr = n.repr) : m = n := by
  have hlist := congrArg String.toList h
  rw [Nat.toList_repr, Nat.toList_repr] at hlist
  have hread := congrArg (fun ds => Nat.ofDigitChars 10 ds 0) hlist
  simpa using hread

/-- The text of an integer consists of digits and a sign. -/
theorem int_text (n : Int) : ∀ c ∈ (toString n).toList, c.isDigit = true ∨ c = '-' := by
  intro c hc
  cases n with
  | ofNat m => exact .inl (isDigit_of_mem_repr hc)
  | negSucc m =>
    have hc : c ∈ ("-" ++ (m + 1).repr).toList := hc
    rw [String.toList_append, List.mem_append] at hc
    rcases hc with hc | hc
    · exact .inr (by simpa using hc)
    · exact .inl (isDigit_of_mem_repr hc)

/-- With their signs too. -/
theorem int_text_injective {m n : Int} (h : toString m = toString n) : m = n := by
  have hsign : ∀ (a b : Nat), a.repr ≠ "-" ++ (b + 1).repr := by
    intro a b h
    have hmem : '-' ∈ a.repr.toList := by rw [h]; simp
    exact absurd (isDigit_of_mem_repr hmem) (by decide)
  cases m with
  | ofNat a =>
    cases n with
    | ofNat b => exact congrArg _ (repr_injective h)
    | negSucc b => exact absurd h (hsign a b)
  | negSucc a =>
    cases n with
    | ofNat b => exact absurd h.symm (hsign b a)
    | negSucc b =>
      have h : "-" ++ (a + 1).repr = "-" ++ (b + 1).repr := h
      have hlist := congrArg String.toList h
      simp only [String.toList_append] at hlist
      have hrepr := String.toList_inj.mp (List.append_cancel_left hlist)
      exact congrArg Int.negSucc (Nat.succ_injective (repr_injective hrepr))

/-! ## Floats -/

/-- A question mark is not stripped. -/
private theorem strip_question (cs : List Char) : ∃ ds, strip ('?' :: cs) = '?' :: ds := by
  have hspace : isSpace '?' = false := by decide
  simp only [strip, List.dropWhile_cons, hspace, Bool.false_eq_true, if_false,
    List.reverse_cons, List.dropWhile_append]
  split
  · exact ⟨[], by simp⟩
  · exact ⟨_, by rw [List.reverse_append]; rfl⟩

/-- A text that starts with a question mark is no number. -/
theorem floatOfStr_question (t : String) : floatOfStr ("?" ++ t) = none := by
  obtain ⟨ds, hds⟩ := strip_question t.toList
  have hlower : ('?' : Char).toLower = '?' := by decide
  have hdigit : digitValue? '?' = none := by decide
  have hrun : digitRun ('?' :: ds) false [] = ([], '?' :: ds) := by
    simp [digitRun, hdigit]
  simp only [floatOfStr, String.toList_append]
  rw [show "?".toList ++ t.toList = '?' :: t.toList from rfl, hds]
  simp [sign, hlower, decimalOfChars, hrun]

/-- The text of a finite float reads back as the float, or it is one that no float reads as. -/
theorem reprDouble_reads (x : Double) : floatOfStr (reprDouble x) = some (.fin x) ∨
    reprDouble x = "?" ++ toString (Encodable.encode x.val) := by
  obtain ⟨n, nearest, -, hread⟩ | hquestion := reprDouble_cases x
  · exact .inl hread
  · exact .inr hquestion

/-- The text of a float reads back as the float, or it is one that no float reads as. -/
theorem reprFloat_reads (x : F64) : floatOfStr (reprFloat x) = some x ∨
    ∃ d, x = .fin d ∧ reprFloat x = "?" ++ toString (Encodable.encode d.val) := by
  cases x with
  | nan => exact .inl (by decide)
  | inf neg => cases neg <;> exact .inl (by decide)
  | fin d => exact (reprDouble_reads d).imp id fun h => ⟨d, rfl, h⟩

/-- Two floats are written in two ways. -/
theorem reprFloat_injective {x y : F64} (h : reprFloat x = reprFloat y) : x = y := by
  rcases reprFloat_reads x with hx | ⟨d, rfl, hd⟩ <;>
    rcases reprFloat_reads y with hy | ⟨e, rfl, he⟩
  · rw [h, hy] at hx
    exact (Option.some.inj hx).symm
  · rw [h, he, floatOfStr_question] at hx
    cases hx
  · rw [← h, hd, floatOfStr_question] at hy
    cases hy
  · rw [hd, he] at h
    have hlist := congrArg String.toList h
    simp only [String.toList_append] at hlist
    have hcode := String.toList_inj.mp (List.append_cancel_left hlist)
    have hval : d.val = e.val := Encodable.encode_injective (repr_injective hcode)
    cases d; cases e
    cases hval
    rfl

/-- A float has a point or an exponent. -/
private theorem pointedDigits_point (ds : List Char) (e : Int) :
    '.' ∈ pointedDigits ds e ∨ 'e' ∈ pointedDigits ds e := by
  simp only [pointedDigits]
  split
  · left; simp
  · split
    · left; simp
    · right; simp

/-- Whatever the decimal. -/
private theorem decimalText_point (q : ℚ) (n : Nat) (nearest : Bool) :
    '.' ∈ decimalText q n nearest ∨ 'e' ∈ decimalText q n nearest := by
  simp only [decimalText]
  split
  · left; decide
  · have hbody : ∀ (c : Prop) [Decidable c] (ds ds' : List Char) (e e' : Int),
        '.' ∈ (if c then pointedDigits ds e else pointedDigits ds' e') ∨
          'e' ∈ (if c then pointedDigits ds e else pointedDigits ds' e') := by
      intros
      split <;> exact pointedDigits_point _ _
    split
    · exact (hbody ..).imp (List.mem_cons_of_mem _) (List.mem_cons_of_mem _)
    · exact hbody ..

/-- The text of a float has a character that is neither a digit nor a sign. -/
theorem reprFloat_text (x : F64) : ∃ c ∈ (reprFloat x).toList, c.isDigit = false ∧ c ≠ '-' := by
  cases x with
  | nan => exact ⟨'n', by decide, by decide⟩
  | inf neg => cases neg <;> exact ⟨'i', by decide, by decide⟩
  | fin d =>
    simp only [reprFloat]
    obtain ⟨n, nearest, htext, -⟩ | hquestion := reprDouble_cases d
    · rw [htext, String.toList_ofList]
      rcases decimalText_point d.val n nearest with hc | hc
      · exact ⟨'.', hc, by decide⟩
      · exact ⟨'e', hc, by decide⟩
    · rw [hquestion]
      exact ⟨'?', by simp, by decide⟩

/-- So no float is written as a number. -/
private theorem int_ne_float (n : Int) (x : F64) : toString n ≠ reprFloat x := by
  intro h
  obtain ⟨c, hc, hdigit, hsign⟩ := reprFloat_text x
  rcases int_text n c (h ▸ hc) with hd | hd
  · rw [hd] at hdigit; cases hdigit
  · exact hsign hd

/-- Nor is a truth value. -/
private theorem int_ne_true (n : Int) : toString n ≠ "True" := by
  intro h
  rcases int_text n 'T' (by rw [h]; decide) with hd | hd <;> exact absurd hd (by decide)

/-- Or as a float. -/
private theorem float_ne_true (x : F64) : reprFloat x ≠ "True" := by
  intro h
  rcases reprFloat_reads x with hx | ⟨d, _, hd⟩
  · rw [h] at hx
    exact absurd hx (by rw [show floatOfStr "True" = none by decide]; exact (fun h => by cases h))
  · have hlist := congrArg String.toList (hd ▸ h)
    simp at hlist

/-! ## Keys -/

/-- A truthy dictionary key that is not a string is `True`, an integer or a float. -/
private theorem number_of_key {v : Json} {key : Key} (hv : v.truthy = true)
    (hk : v.hashKey = .ok key) (hstr : key.isStr = false) :
    v = .bool true ∨ (∃ n, v = .int n) ∨ ∃ x, v = .float x := by
  cases v with
  | null => cases hv
  | bool b => exact .inl (congrArg _ hv)
  | int n => exact .inr (.inl ⟨n, rfl⟩)
  | float x => exact .inr (.inr ⟨x, rfl⟩)
  | str s => cases hk; cases hstr
  | arr _ | obj _ => cases hk

/-- A key that is a text is the key of a text. -/
private theorem string_of_key {v : Json} {key : Key} (hk : v.hashKey = .ok key)
    (hstr : key.isStr = true) : ∃ s, v = .str s ∧ key = .str s := by
  cases v with
  | str s => exact ⟨s, rfl, (Except.ok.inj hk).symm⟩
  | float x => rcases x with _ | _ | x <;> cases hk <;> cases hstr
  | null | bool _ | int _ => cases hk; cases hstr
  | arr _ | obj _ => cases hk

/-- Values with one text are one dictionary key, unless just one of them is a string. -/
theorem hashKey_of_toStr {v v' : Json} {key key' : Key} (hv : v.truthy = true)
    (hv' : v'.truthy = true) (hk : v.hashKey = .ok key) (hk' : v'.hashKey = .ok key')
    (hkind : key.isStr = key'.isStr) (h : v.toStr = v'.toStr) : key = key' := by
  cases hs : key.isStr with
  | true =>
    obtain ⟨s, rfl, rfl⟩ := string_of_key hk hs
    obtain ⟨s', rfl, rfl⟩ := string_of_key hk' (hkind ▸ hs)
    exact congrArg _ h
  | false =>
    have hvv : v = v' := by
      rcases number_of_key hv hk hs with rfl | ⟨n, rfl⟩ | ⟨x, rfl⟩ <;>
        rcases number_of_key hv' hk' (hkind ▸ hs) with rfl | ⟨m, rfl⟩ | ⟨y, rfl⟩ <;>
        simp only [toStr, pyRepr, if_true] at h
      · rfl
      · exact absurd h.symm (int_ne_true m)
      · exact absurd h.symm (float_ne_true y)
      · exact absurd h (int_ne_true n)
      · exact congrArg _ (int_text_injective h)
      · exact absurd h (int_ne_float n y)
      · exact absurd h (float_ne_true x)
      · exact absurd h.symm (int_ne_float m x)
      · exact congrArg _ (reprFloat_injective h)
    subst hvv
    rw [hk] at hk'
    exact Except.ok.inj hk'

end Json

end Novena
