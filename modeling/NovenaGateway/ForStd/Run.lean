import Mathlib.Logic.Relation

/-!
# Runs of a labelled step function

A system is a partial function `step : σ → α → Option σ`: the label `α` carries every choice
the system does not make itself (which thread moves, what the environment answers), and
`none` means that the label is not enabled. `exec` runs a list of labels; `Along` says that
every step of a run meets a condition on the state before it and its label. The induction
over runs is done here once, in `exec_invariant` and `exec_simulates`.
-/

universe u v w x

namespace Run

variable {σ : Type u} {α : Type v} {τ : Type w} {β : Type x}

/-- The state after the labels `as`, if every one of them is enabled in turn. -/
def exec (step : σ → α → Option σ) : σ → List α → Option σ
  | s, [] => some s
  | s, a :: as => (step s a).bind fun s' => exec step s' as

/-- Every step taken along the run from `s` meets `P` in the state before it. -/
def Along (step : σ → α → Option σ) (P : σ → α → Prop) : σ → List α → Prop
  | _, [] => True
  | s, a :: as => P s a ∧ ∀ s', step s a = some s' → Along step P s' as

@[simp] theorem exec_nil (step : σ → α → Option σ) (s : σ) : exec step s [] = some s := rfl

theorem exec_cons {step : σ → α → Option σ} {s s' : σ} {a : α} {as : List α} :
    exec step s (a :: as) = some s' ↔ ∃ m, step s a = some m ∧ exec step m as = some s' := by
  simp only [exec, Option.bind_eq_some_iff]

/-- A run in two parts. -/
theorem exec_append {step : σ → α → Option σ} {as bs : List α} {s s' : σ} :
    exec step s (as ++ bs) = some s' ↔ ∃ m, exec step s as = some m ∧ exec step m bs = some s' := by
  induction as generalizing s with
  | nil => simp
  | cons a as ih =>
    rw [List.cons_append, exec_cons]
    constructor
    · rintro ⟨t, ht, hrest⟩
      obtain ⟨m, hm, hbs⟩ := ih.mp hrest
      exact ⟨m, exec_cons.mpr ⟨t, ht, hm⟩, hbs⟩
    · rintro ⟨m, hm, hbs⟩
      obtain ⟨t, ht, hrest⟩ := exec_cons.mp hm
      exact ⟨t, ht, ih.mpr ⟨m, hrest, hbs⟩⟩

/-- A property that every admitted step preserves holds wherever an admitted run ends. -/
theorem exec_invariant {step : σ → α → Option σ} {P : σ → α → Prop} {I : σ → Prop}
    (hstep : ∀ s a s', I s → P s a → step s a = some s' → I s') :
    ∀ {as s s'}, I s → Along step P s as → exec step s as = some s' → I s' := by
  intro as
  induction as with
  | nil =>
    intro s s' hI _ h
    simp only [exec_nil, Option.some.injEq] at h
    exact h ▸ hI
  | cons a as ih =>
    intro s s' hI hP h
    obtain ⟨m, hm, hrest⟩ := exec_cons.mp h
    exact ih (hstep s a m hI hP.1 hm) (hP.2 m hm) hrest

/-- The same for a property that every step preserves, with no condition on the run. -/
theorem exec_invariant' {step : σ → α → Option σ} {I : σ → Prop}
    (hstep : ∀ s a s', I s → step s a = some s' → I s')
    {as : List α} {s s' : σ} (hI : I s) (h : exec step s as = some s') : I s' := by
  induction as generalizing s with
  | nil =>
    simp only [exec_nil, Option.some.injEq] at h
    exact h ▸ hI
  | cons a as ih =>
    obtain ⟨m, hm, hrest⟩ := exec_cons.mp h
    exact ih (hstep s a m hI hm) hrest

/-- When a step keeps a property exactly where it meets a condition, a run that starts with the
    property ends with it exactly when the condition is met all along. -/
theorem exec_iff_along {step : σ → α → Option σ} {P : σ → α → Prop} {I Q : σ → Prop}
    (hI : ∀ s a s', I s → step s a = some s' → I s')
    (hQ : ∀ s a s', I s → step s a = some s' → (Q s' ↔ Q s ∧ P s a)) :
    ∀ {as s s'}, I s → exec step s as = some s' → (Q s' ↔ Q s ∧ Along step P s as) := by
  intro as
  induction as with
  | nil =>
    intro s s' _ h
    simp only [exec_nil, Option.some.injEq] at h
    simp [Along, h]
  | cons a as ih =>
    intro s s' hs h
    obtain ⟨m, hm, hrest⟩ := exec_cons.mp h
    rw [ih (hI s a m hs hm) hrest, hQ s a m hs hm, and_assoc]
    simp only [Along, hm, Option.some.injEq, forall_eq']

/-- Whether a run is admitted can be computed by running it. -/
instance Along.decidable (step : σ → α → Option σ) (P : σ → α → Prop)
    [∀ s a, Decidable (P s a)] : ∀ s as, Decidable (Along step P s as)
  | _, [] => .isTrue trivial
  | s, a :: as =>
    match h : step s a with
    | none => decidable_of_iff (P s a) (by simp [Along, h])
    | some m =>
      have := Along.decidable step P m as
      decidable_of_iff (P s a ∧ Along step P m as) (by simp [Along, h])

/-- A condition on the labels alone can be added to the condition of a run. -/
theorem Along.and_labels {step : σ → α → Option σ} {P : σ → α → Prop} {L : α → Prop}
    {as : List α} {s : σ} (h : Along step P s as) (hL : ∀ a ∈ as, L a) :
    Along step (fun s a => P s a ∧ L a) s as := by
  induction as generalizing s with
  | nil => trivial
  | cons a as ih =>
    exact ⟨⟨h.1, hL a List.mem_cons_self⟩,
      fun m hm => ih (h.2 m hm) fun b hb => hL b (List.mem_cons_of_mem a hb)⟩

/-- An invariant of the admitted steps can be used to weaken the condition of a run. -/
theorem Along.of_invariant {step : σ → α → Option σ} {P Q : σ → α → Prop} {I : σ → Prop}
    (hI : ∀ s a s', I s → P s a → step s a = some s' → I s') (hQ : ∀ s a, I s → P s a → Q s a)
    {as : List α} {s : σ} (hs : I s) (h : Along step P s as) : Along step Q s as := by
  induction as generalizing s with
  | nil => trivial
  | cons a as ih =>
    exact ⟨hQ s a hs h.1, fun s' hs' => ih (hI s a s' hs h.1 hs') (h.2 s' hs')⟩

/-- A condition every label meets in every state admits the run. -/
theorem Along.of_forall {step : σ → α → Option σ} {P : σ → α → Prop} {as : List α} {s : σ}
    (h : ∀ a ∈ as, ∀ s, P s a) : Along step P s as := by
  induction as generalizing s with
  | nil => trivial
  | cons a as ih =>
    exact ⟨h a List.mem_cons_self s, fun _ _ => ih fun b hb => h b (List.mem_cons_of_mem a hb)⟩

/-- A run prefix of an admitted run is admitted. -/
theorem Along.of_append {step : σ → α → Option σ} {P : σ → α → Prop} {as bs : List α} {s : σ}
    (h : Along step P s (as ++ bs)) : Along step P s as := by
  induction as generalizing s with
  | nil => trivial
  | cons a as ih => exact ⟨h.1, fun s' hs => ih (h.2 s' hs)⟩

/-- And so is what follows a prefix. -/
theorem Along.of_append_right {step : σ → α → Option σ} {P : σ → α → Prop} {as bs : List α}
    {s m : σ} (h : Along step P s (as ++ bs)) (hexec : exec step s as = some m) :
    Along step P m bs := by
  induction as generalizing s with
  | nil =>
    simp only [exec_nil, Option.some.injEq] at hexec
    exact hexec ▸ h
  | cons a as ih =>
    obtain ⟨s', hs', hrest⟩ := exec_cons.mp hexec
    exact ih (h.2 s' hs') hrest

/-- A property preserved by every abstract step is preserved by any number of them. -/
theorem star_invariant {r : τ → τ → Prop} {I : τ → Prop} (hr : ∀ t u, I t → r t u → I u)
    {t u : τ} (h : Relation.ReflTransGen r t u) (ht : I t) : I u := by
  induction h with
  | refl => exact ht
  | tail _ hstep ih => exact hr _ _ ih hstep

/-- Forward simulation: when every admitted concrete step from related states is matched by
    abstract steps that lead to related states, so is every admitted run. -/
theorem exec_simulates {step : σ → α → Option σ} {P : σ → α → Prop} {r : τ → τ → Prop}
    {R : σ → τ → Prop}
    (hsim : ∀ s a s' t, R s t → P s a → step s a = some s' → ∃ t', Relation.ReflTransGen r t t' ∧ R s' t') :
    ∀ {as s s' t}, R s t → Along step P s as → exec step s as = some s' →
      ∃ t', Relation.ReflTransGen r t t' ∧ R s' t' := by
  intro as
  induction as with
  | nil =>
    intro s s' t hR _ h
    simp only [exec_nil, Option.some.injEq] at h
    exact ⟨t, .refl, h ▸ hR⟩
  | cons a as ih =>
    intro s s' t hR hP h
    obtain ⟨m, hm, hrest⟩ := exec_cons.mp h
    obtain ⟨t₁, ht₁, hR₁⟩ := hsim s a m t hR hP.1 hm
    obtain ⟨t₂, ht₂, hR₂⟩ := ih hR₁ (hP.2 m hm) hrest
    exact ⟨t₂, ht₁.trans ht₂, hR₂⟩

end Run
