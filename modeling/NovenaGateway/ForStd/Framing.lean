import Mathlib.Data.List.Basic

/-!
# Codes that can be read off the beginning of a text

A code is framed when a text that starts with it tells where it ends, provided that what follows
starts as `rest` allows. Framed codes compose: one after another, repeated up to a closing symbol,
and separated by commas up to a closing symbol.
-/

namespace Framing

variable {α β σ : Type*} {encode : α → List σ} {rest : List σ → Prop}

/-- No other value has a code that starts a text as the code of `a` does. -/
def FramedAt (encode : α → List σ) (rest : List σ → Prop) (a : α) : Prop :=
  ∀ ⦃b : α⦄ ⦃s t : List σ⦄, rest s → rest t → encode a ++ s = encode b ++ t → a = b ∧ s = t

/-- A code that can be read is framed, whatever comes after it. -/
theorem framedAt_of_read {read : List σ → Option (α × List σ)}
    (hread : ∀ a s, read (encode a ++ s) = some (a, s)) (a : α) : FramedAt encode rest a := by
  intro b s t _ _ h
  have hsame : some (a, s) = some (b, t) := by rw [← hread a s, ← hread b t, h]
  exact Prod.mk.inj (Option.some.inj hsame)

/-- A framed code tells its values apart when nothing may follow it. -/
theorem injective_of_framedAt (hnil : rest []) (hframed : ∀ a, FramedAt encode rest a) :
    Function.Injective encode := by
  intro a b h
  exact (hframed a hnil hnil (by rw [h])).1

/-! ## Words -/

/-- The text is over or goes on with a symbol that ends a word. -/
def EndsWord (stop : σ → Prop) (s : List σ) : Prop := ∀ c ∈ s.head?, stop c

/-- A word has no symbol that ends it, so it ends where the first one is. -/
theorem word_append_inj {stop : σ → Prop} {u v s t : List σ} (hu : ∀ c ∈ u, ¬stop c)
    (hv : ∀ c ∈ v, ¬stop c) (hs : EndsWord stop s) (ht : EndsWord stop t)
    (h : u ++ s = v ++ t) : u = v ∧ s = t := by
  induction u generalizing v with
  | nil =>
    cases v with
    | nil => exact ⟨rfl, h⟩
    | cons d v =>
      have hd : d ∈ s.head? := by rw [show s = d :: (v ++ t) from h]; rfl
      exact absurd (hs d hd) (hv d List.mem_cons_self)
  | cons c u ih =>
    cases v with
    | nil =>
      have hc : c ∈ t.head? := by rw [show t = c :: (u ++ s) from h.symm]; rfl
      exact absurd (ht c hc) (hu c List.mem_cons_self)
    | cons d v =>
      rw [List.cons_append, List.cons_append, List.cons.injEq] at h
      obtain ⟨hcd, huv⟩ := ih (fun e he => hu e (List.mem_cons_of_mem c he))
        (fun e he => hv e (List.mem_cons_of_mem d he)) h.2
      exact ⟨by rw [h.1, hcd], huv⟩

/-! ## Sequences -/

/-- One code after the other. -/
theorem FramedAt.pair {encode' : β → List σ} {rest' : List σ → Prop} {a : α} {b : β}
    (ha : FramedAt encode rest a) (hb : FramedAt encode' rest' b)
    (hrest : ∀ b s, rest (encode' b ++ s)) :
    FramedAt (fun p : α × β => encode p.1 ++ encode' p.2) rest' (a, b) := by
  intro p s t hs ht h
  dsimp only at h
  rw [List.append_assoc, List.append_assoc] at h
  obtain ⟨hfst, hrest⟩ := ha (hrest b s) (hrest p.2 t) h
  obtain ⟨hsnd, hst⟩ := hb hs ht hrest
  exact ⟨by rw [hfst, hsnd], hst⟩

/-- A symbol that starts no code closes a sequence of codes. -/
theorem flatMap_append_inj {close : σ} {as bs : List α} {s t : List σ}
    (hframed : ∀ a, FramedAt encode (fun _ => True) a)
    (hclose : ∀ a s t, encode a ++ s ≠ close :: t)
    (h : as.flatMap encode ++ close :: s = bs.flatMap encode ++ close :: t) :
    as = bs ∧ s = t := by
  induction as generalizing bs with
  | nil =>
    cases bs with
    | nil => exact ⟨rfl, (List.cons.inj h).2⟩
    | cons b bs =>
      rw [List.flatMap_cons, List.append_assoc] at h
      exact absurd h.symm (hclose b _ _)
  | cons a as ih =>
    cases bs with
    | nil =>
      rw [List.flatMap_cons, List.append_assoc] at h
      exact absurd h (hclose a _ _)
    | cons b bs =>
      rw [List.flatMap_cons, List.flatMap_cons, List.append_assoc, List.append_assoc] at h
      obtain ⟨hab, hrest⟩ := hframed a trivial trivial h
      obtain ⟨hasbs, hst⟩ := ih hrest
      exact ⟨by rw [hab, hasbs], hst⟩

/-- Codes with a symbol between two of them; `first` says that none was written yet. -/
def separated (sep : σ) (encode : α → List σ) : Bool → List α → List σ
  | _, [] => []
  | first, a :: as => (if first then [] else [sep]) ++ encode a ++ separated sep encode false as

/-- What follows a code in a closed sequence is the separator or the closing symbol. -/
theorem rest_separated {sep close : σ} (hrest : ∀ s, rest (sep :: s) ∧ rest (close :: s))
    (as : List α) (s : List σ) : rest (separated sep encode false as ++ close :: s) := by
  cases as with
  | nil => exact (hrest s).2
  | cons a as => exact (hrest _).1

/-- A closed sequence of separated codes is read off the beginning of a text. -/
theorem separated_append_inj {sep close : σ} (hne : sep ≠ close)
    (hrest : ∀ s, rest (sep :: s) ∧ rest (close :: s))
    (hclose : ∀ a s t, encode a ++ s ≠ close :: t) {as bs : List α} {s t : List σ}
    (hframed : ∀ a ∈ as, FramedAt encode rest a) {first : Bool}
    (h : separated sep encode first as ++ close :: s =
      separated sep encode first bs ++ close :: t) : as = bs ∧ s = t := by
  -- an element never starts with the closing symbol, with or without a separator
  have hopen : ∀ (first : Bool) (a : α) (as : List α) (s t : List σ),
      separated sep encode first (a :: as) ++ s ≠ close :: t := by
    intro first a as s t h
    cases first with
    | false => exact hne (List.cons.inj h).1
    | true =>
      rw [separated, if_pos rfl, List.nil_append, List.append_assoc] at h
      exact hclose a _ _ h
  induction as generalizing bs first with
  | nil =>
    cases bs with
    | nil => exact ⟨rfl, (List.cons.inj h).2⟩
    | cons b bs => exact absurd h.symm (hopen first b bs _ _)
  | cons a as ih =>
    cases bs with
    | nil => exact absurd h (hopen first a as _ _)
    | cons b bs =>
      rw [separated, separated, List.append_assoc, List.append_assoc, List.append_assoc,
        List.append_assoc] at h
      have hcodes := List.append_cancel_left h
      obtain ⟨hab, htail⟩ := hframed a List.mem_cons_self (rest_separated hrest as s)
        (rest_separated hrest bs t) hcodes
      obtain ⟨hasbs, hst⟩ := ih (fun x hx => hframed x (List.mem_cons_of_mem a hx)) htail
      exact ⟨by rw [hab, hasbs], hst⟩

end Framing
