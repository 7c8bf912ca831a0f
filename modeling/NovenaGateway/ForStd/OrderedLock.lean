import Mathlib.Order.Lattice
import NovenaGateway.ForStd.Run
import NovenaGateway.ForStd.Update

/-!
# Serial, ordered sections under per-key locks

Agents of type `θ` enter a section under the lock of a key of type `κ`. Inside, an agent may
arm itself with a number above everything recorded for its key, and then start its action. As
long as agents arm themselves only inside the section, two started actions of one key are
never under way together, and the actions of one key start in strictly increasing order
(`Inv`).
-/

universe u v w

namespace OrderedLock

/-- The key each agent is inside of, the number an armed agent is about to start with, the
    highest number recorded for each key, the agents whose action is under way, and the
    actions started so far. -/
structure Sections (θ : Type u) (κ : Type v) (ν : Type w) where
  inside : θ → Option κ
  armed : θ → Option ν
  recorded : κ → ν
  started : List (κ × ν)

variable {θ : Type u} {κ : Type v} {ν : Type w} [DecidableEq θ] [LinearOrder ν]

/-- One step. `record` is any growth of the recorded numbers that arms nobody. -/
inductive Step : Sections θ κ ν → Sections θ κ ν → Prop where
  | enter {s : Sections θ κ ν} (a : θ) (k : κ) (hfree : ∀ b, s.inside b ≠ some k)
      (ha : s.armed a = none) :
      Step s { s with inside := Function.update s.inside a (some k) }
  | record {s : Sections θ κ ν} {recorded : κ → ν} (h : ∀ k, s.recorded k ≤ recorded k) :
      Step s { s with recorded }
  | arm {s : Sections θ κ ν} {recorded : κ → ν} (a : θ) (k : κ) (n : ν)
      (hin : s.inside a = some k) (hnew : s.recorded k < n)
      (h : ∀ k, s.recorded k ≤ recorded k) (hn : n ≤ recorded k) :
      Step s { s with recorded, armed := Function.update s.armed a (some n) }
  | start {s : Sections θ κ ν} (a : θ) (k : κ) (n : ν) (hin : s.inside a = some k)
      (ha : s.armed a = some n) :
      Step s { s with armed := Function.update s.armed a none,
                      started := s.started ++ [(k, n)] }
  | leave {s : Sections θ κ ν} (a : θ) :
      Step s { s with inside := Function.update s.inside a none,
                      armed := Function.update s.armed a none }

/-- What every step preserves. -/
structure Inv (s : Sections θ κ ν) : Prop where
  /-- One agent per key. -/
  exclusive : ∀ a b k, s.inside a = some k → s.inside b = some k → a = b
  /-- An armed agent is inside, above everything started under its key, and recorded. -/
  armed_inside : ∀ a n, s.armed a = some n →
    ∃ k, s.inside a = some k ∧ n ≤ s.recorded k ∧ ∀ p ∈ s.started, p.1 = k → p.2 < n
  /-- Everything started is recorded. -/
  started_recorded : ∀ p ∈ s.started, p.2 ≤ s.recorded p.1
  ordered : s.started.Pairwise fun p q => p.1 = q.1 → p.2 < q.2

omit [DecidableEq θ] in
theorem Inv.initial (recorded : κ → ν) :
    Inv { inside := fun _ : θ => none, armed := fun _ => none, recorded, started := [] } where
  exclusive := by simp
  armed_inside := by simp
  started_recorded := by simp
  ordered := List.Pairwise.nil

theorem Inv.step {s s' : Sections θ κ ν} (hI : Inv s) (h : Step s s') : Inv s' := by
  cases h with
  | enter a k hfree ha =>
    refine ⟨?_, ?_, hI.started_recorded, hI.ordered⟩
    · intro b c j hb hc
      rcases Function.eq_some_of_update_some hb with ⟨rfl, rfl⟩ | ⟨_, hb'⟩ <;>
        rcases Function.eq_some_of_update_some hc with ⟨rfl, h⟩ | ⟨_, hc'⟩
      · rfl
      · exact absurd hc' (hfree c)
      · exact absurd (h ▸ hb') (hfree b)
      · exact hI.exclusive b c j hb' hc'
    · intro b n hb
      have hne : b ≠ a := fun h => by simp [h, ha] at hb
      simpa [Function.update_of_ne hne] using hI.armed_inside b n hb
  | record hle =>
    refine ⟨hI.exclusive, ?_, fun p hp => (hI.started_recorded p hp).trans (hle p.1), hI.ordered⟩
    intro a n ha
    obtain ⟨k, hk, hn, hlt⟩ := hI.armed_inside a n ha
    exact ⟨k, hk, hn.trans (hle k), hlt⟩
  | arm a k n hin hnew hle hn =>
    refine ⟨hI.exclusive, ?_, fun p hp => (hI.started_recorded p hp).trans (hle p.1), hI.ordered⟩
    intro b m hb
    rcases Function.eq_some_of_update_some hb with ⟨rfl, rfl⟩ | ⟨_, hb⟩
    · refine ⟨k, hin, hn, fun p hp hpk => ?_⟩
      exact lt_of_le_of_lt (hpk ▸ hI.started_recorded p hp) hnew
    · obtain ⟨j, hj, hm, hlt⟩ := hI.armed_inside b m hb
      exact ⟨j, hj, hm.trans (hle j), hlt⟩
  | start a k n hin ha =>
    obtain ⟨k', hk', hn, hlt⟩ := hI.armed_inside a n ha
    have hkk : k' = k := Option.some.inj (hk'.symm.trans hin)
    subst hkk
    refine ⟨hI.exclusive, ?_, ?_, ?_⟩
    · intro b m hb
      obtain ⟨hne, hb⟩ := Function.eq_some_of_update_none hb
      obtain ⟨j, hj, hm, hltb⟩ := hI.armed_inside b m hb
      refine ⟨j, hj, hm, fun p hp hpj => ?_⟩
      rcases List.mem_append.mp hp with hp | hp
      · exact hltb p hp hpj
      · -- the started action has the key of `a`, which no other agent is inside of
        have hpe : p = (k', n) := by simpa using hp
        subst hpe
        exact absurd (hI.exclusive b a j hj (hpj ▸ hk')) hne
    · intro p hp
      rcases List.mem_append.mp hp with hp | hp
      · exact hI.started_recorded p hp
      · have hpe : p = (k', n) := by simpa using hp
        subst hpe
        exact hn
    · rw [List.pairwise_append]
      refine ⟨hI.ordered, List.pairwise_singleton _ _, fun p hp q hq hpq => ?_⟩
      have hqe : q = (k', n) := by simpa using hq
      subst hqe
      exact hlt p hp hpq
  | leave a =>
    refine ⟨?_, ?_, hI.started_recorded, hI.ordered⟩
    · intro b c j hb hc
      exact hI.exclusive b c j (Function.eq_some_of_update_none hb).2 (Function.eq_some_of_update_none hc).2
    · intro b n hb
      obtain ⟨hne, hb⟩ := Function.eq_some_of_update_none hb
      simpa [Function.update_of_ne hne] using hI.armed_inside b n hb

end OrderedLock
