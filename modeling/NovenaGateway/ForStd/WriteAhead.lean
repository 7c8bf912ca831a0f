import Mathlib.Data.Set.Insert
import NovenaGateway.ForStd.Run
import NovenaGateway.ForStd.Update

/-!
# At-most-once execution from write-ahead claims

Agents of type `θ` execute tasks of type `ι`. Before it executes a task an agent *claims* it:
the claim is made in volatile memory and on durable storage, and only for a task that has no
claim yet. A crash loses the agents and whatever memory knows beyond the storage. The
discipline makes every task run at most once, over any number of crashes (`Inv`).
-/

universe u v

namespace WriteAhead

/-- The claims in memory and on storage, the claims agents hold and have not used yet, and the
    tasks executed so far. -/
structure Ledger (θ : Type u) (ι : Type v) where
  claimed : Set ι
  durable : Set ι
  held : θ → Option ι
  performed : List ι

variable {θ : Type u} {ι : Type v} [DecidableEq θ]

/-- One step. `grow` is any growth of the claims that hands none out (a task given up, a
    storage write that failed); `claim` hands the claim of a new task to an agent. -/
inductive Step : Ledger θ ι → Ledger θ ι → Prop where
  | grow {l : Ledger θ ι} {claimed durable : Set ι} (hc : l.claimed ⊆ claimed)
      (hd : l.durable ⊆ durable) (hdc : durable ⊆ claimed) :
      Step l { l with claimed, durable }
  | claim {l : Ledger θ ι} {claimed durable : Set ι} (a : θ) (i : ι) (hnew : i ∉ l.claimed)
      (hc : l.claimed ⊆ claimed) (hd : l.durable ⊆ durable) (hdc : durable ⊆ claimed)
      (hi : i ∈ durable) :
      Step l { l with claimed, durable, held := Function.update l.held a (some i) }
  | perform {l : Ledger θ ι} (a : θ) (i : ι) (h : l.held a = some i) :
      Step l { l with held := Function.update l.held a none, performed := l.performed ++ [i] }
  | drop {l : Ledger θ ι} (a : θ) :
      Step l { l with held := Function.update l.held a none }
  | crash {l : Ledger θ ι} :
      Step l { l with claimed := l.durable, held := fun _ => none }

/-- What every step preserves. -/
structure Inv (l : Ledger θ ι) : Prop where
  durable_claimed : l.durable ⊆ l.claimed
  held_durable : ∀ a i, l.held a = some i → i ∈ l.durable
  held_unused : ∀ a i, l.held a = some i → i ∉ l.performed
  held_once : ∀ a b i, l.held a = some i → l.held b = some i → a = b
  performed_durable : ∀ i ∈ l.performed, i ∈ l.durable
  performed_once : l.performed.Nodup

omit [DecidableEq θ] in
/-- A ledger with no agent at work and nothing executed. -/
theorem Inv.initial {claimed durable : Set ι} (h : durable ⊆ claimed) :
    Inv { claimed, durable, held := fun _ : θ => none, performed := [] } where
  durable_claimed := h
  held_durable := by simp
  held_unused := by simp
  held_once := by simp
  performed_durable := by simp
  performed_once := List.nodup_nil

theorem Inv.step {l l' : Ledger θ ι} (hI : Inv l) (h : Step l l') : Inv l' := by
  cases h with
  | grow hc hd hdc =>
    exact { hI with
      durable_claimed := hdc
      held_durable := fun a i h => hd (hI.held_durable a i h)
      performed_durable := fun i h => hd (hI.performed_durable i h) }
  | claim a i hnew hc hd hdc hi =>
    -- a task without a claim is neither held nor performed
    have hfresh : ∀ b, l.held b ≠ some i := fun b hb =>
      hnew (hI.durable_claimed (hI.held_durable b i hb))
    refine ⟨hdc, ?_, ?_, ?_, fun j hj => hd (hI.performed_durable j hj), hI.performed_once⟩
    · intro b j h
      rcases Function.eq_some_of_update_some h with ⟨_, rfl⟩ | ⟨_, h⟩
      · exact hi
      · exact hd (hI.held_durable b j h)
    · intro b j h
      rcases Function.eq_some_of_update_some h with ⟨_, rfl⟩ | ⟨_, h⟩
      · exact fun hp => hnew (hI.durable_claimed (hI.performed_durable j hp))
      · exact hI.held_unused b j h
    · intro b c j hb hc
      rcases Function.eq_some_of_update_some hb with ⟨rfl, rfl⟩ | ⟨_, hb'⟩ <;>
        rcases Function.eq_some_of_update_some hc with ⟨rfl, h⟩ | ⟨_, hc'⟩
      · rfl
      · exact absurd hc' (hfresh c)
      · exact absurd (h ▸ hb') (hfresh b)
      · exact hI.held_once b c j hb' hc'
  | perform a i ha =>
    refine ⟨hI.durable_claimed, ?_, ?_, ?_, ?_, ?_⟩
    · intro b j h
      exact hI.held_durable b j (Function.eq_some_of_update_none h).2
    · intro b j h hj
      obtain ⟨hne, hb⟩ := Function.eq_some_of_update_none h
      rcases List.mem_append.mp hj with hj | hj
      · exact hI.held_unused b j hb hj
      · -- another agent holding the executed task would be `a` itself
        have hji : j = i := by simpa using hj
        exact hne (hI.held_once b a i (hji ▸ hb) ha)
    · intro b c j hb hc
      exact hI.held_once b c j (Function.eq_some_of_update_none hb).2 (Function.eq_some_of_update_none hc).2
    · intro j hj
      rcases List.mem_append.mp hj with hj | hj
      · exact hI.performed_durable j hj
      · have hji : j = i := by simpa using hj
        exact hji ▸ hI.held_durable a i ha
    · rw [List.nodup_append]
      refine ⟨hI.performed_once, by simp, fun j hj k hk => ?_⟩
      have hki : k = i := by simpa using hk
      rintro rfl
      exact hI.held_unused a i ha (hki ▸ hj)
  | drop a =>
    exact ⟨hI.durable_claimed,
      fun b j h => hI.held_durable b j (Function.eq_some_of_update_none h).2,
      fun b j h => hI.held_unused b j (Function.eq_some_of_update_none h).2,
      fun b c j hb hc => hI.held_once b c j (Function.eq_some_of_update_none hb).2 (Function.eq_some_of_update_none hc).2,
      hI.performed_durable, hI.performed_once⟩
  | crash =>
    exact ⟨le_refl _, by simp, by simp, by simp, hI.performed_durable, hI.performed_once⟩

end WriteAhead
