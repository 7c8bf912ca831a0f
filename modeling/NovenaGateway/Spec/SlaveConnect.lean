import Mathlib.Tactic.Linarith
import NovenaGateway.ForStd.Bursts
import NovenaGateway.Native.SlaveConnect

/-!
# A device that cannot be reached is not hammered

Polls, attribute updates and requests of a slave call `connect` at any time and at the same time.
Whatever their order, no more attempts than `connectAttemptCount` fall into an interval of
`waitAfterFailedAttemptsMs` until a call returns `True`, and any two are `connectAttemptTimeMs`
apart. The time of an attempt is that of the beginning of its call.

Key results:
- `Modbus.SlaveLink.attempts_paced`
- `Modbus.SlaveLink.connect_tries`
-/

namespace Novena.Modbus.SlaveLink

open Bursts

variable {cfg : ConnectTiming} {s s' : SlaveLink}

/-- The attempts came in bursts, of which the last one is being made. -/
structure Bursty (cfg : ConnectTiming) (s : SlaveLink) : Prop where
  bursts : ∃ earlier current, s.attempts = earlier.flatten ++ current ∧
    current.length = s.connectionAttemptCount ∧
    Spaced cfg.connectionAttempt cfg.waitAfterFailedAttemptsMs (earlier ++ [current])
  spaced : s.attempts.Pairwise fun x y => x + cfg.connectAttemptTimeMs ≤ y
  last : ∀ x ∈ s.attempts, x ≤ s.lastConnectionAttemptTime
  waiting : ∀ x ∈ s.waiting, 0 < x
  /-- Only the beginning has no last attempt. -/
  never : s.lastConnectionAttemptTime = 0 → s.attempts = []

/-- And a burst that is about to begin is a wait after the last one: when the count was set to zero
    and no attempt was made, none is made before that. -/
structure Paced (cfg : ConnectTiming) (s : SlaveLink) : Prop extends Bursty cfg s where
  reset : s.connectionAttemptCount = 0 → s.attempts ≠ [] → s.stopped = true ∨
    cfg.waitAfterFailedAttemptsMs ≤ cfg.connectAttemptTimeMs

/-- No attempts have their distance. -/
theorem spaced_nil : Spaced cfg.connectionAttempt cfg.waitAfterFailedAttemptsMs ([] ++ [[]]) :=
  Spaced.open ⟨fun _ h => absurd h List.not_mem_nil, List.Pairwise.nil⟩

/-- At the beginning none was made. -/
theorem init_paced (connected : Bool) : Paced cfg (init connected) where
  bursts := ⟨[], [], rfl, rfl, spaced_nil⟩
  spaced := List.Pairwise.nil
  last _ h := absurd h List.not_mem_nil
  waiting _ h := absurd h List.not_mem_nil
  never _ := rfl
  reset _ h := absurd rfl h

/-- Setting the count to zero ends a burst. -/
theorem Bursty.zero (h : Bursty cfg s) : Bursty cfg { s with connectionAttemptCount := 0 } where
  bursts := by
    obtain ⟨earlier, current, hattempts, -, hspaced⟩ := h.bursts
    refine ⟨earlier ++ [current], [], ?_, rfl, hspaced.open⟩
    rw [List.flatten_append, List.flatten_singleton, List.append_nil]
    exact hattempts
  spaced := h.spaced
  last := h.last
  waiting := h.waiting
  never := h.never

/-- An attempt that succeeds begins a new burst. -/
theorem Bursty.success (h : Bursty cfg s) {curTime : ℚ} (hpos : 0 < curTime) :
    Paced cfg { s with
      connectionAttemptCount := 0, lastConnectionAttemptTime := curTime, attempts := [] } where
  bursts := ⟨[], [], rfl, rfl, spaced_nil⟩
  spaced := List.Pairwise.nil
  last _ h := absurd h List.not_mem_nil
  waiting := h.waiting
  never hzero := absurd hzero hpos.ne'
  reset _ h := absurd rfl h

/-- An attempt is made at the end of a burst that is not full. -/
theorem Bursty.attempt (h : Bursty cfg s) {curTime : ℚ} (hpos : 0 < curTime)
    (hcount : s.connectionAttemptCount < cfg.connectionAttempt)
    (hlater : ∀ x ∈ s.attempts, x + cfg.connectAttemptTimeMs ≤ curTime)
    (hreset : s.connectionAttemptCount = 0 →
      ∀ x ∈ s.attempts, x + cfg.waitAfterFailedAttemptsMs ≤ curTime) :
    Paced cfg { s with
      connectionAttemptCount := s.connectionAttemptCount + 1
      lastConnectionAttemptTime := curTime
      waiting := s.waiting ++ [curTime]
      attempts := s.attempts ++ [curTime] } := by
  have hat := cfg.attemptTime_ge
  obtain ⟨earlier, current, hattempts, hlength, hspaced⟩ := h.bursts
  constructor
  case reset => exact fun hzero => absurd hzero (Nat.succ_ne_zero _)
  constructor
  case bursts =>
    refine ⟨earlier, current ++ [curTime], ?_, ?_, hspaced.snoc (by omega) ?_⟩
    · show s.attempts ++ [curTime] = _
      rw [hattempts, List.append_assoc]
    · rw [List.length_append, hlength]
      rfl
    · intro g hg x hx
      have hmem : x ∈ s.attempts := by
        rw [hattempts]
        exact List.mem_append_left _ (List.mem_flatten.mpr ⟨g, hg, hx⟩)
      cases current with
      | nil => exact hreset hlength.symm x hmem
      | cons y ys =>
        -- the burst began a wait after `x`
        have hy : y ∈ s.attempts := by
          rw [hattempts]
          exact List.mem_append_right _ List.mem_cons_self
        have hgap := (List.pairwise_append.mp hspaced.apart).2.2 g hg (y :: ys)
          List.mem_cons_self x hx y List.mem_cons_self
        have hafter := hlater y hy
        linarith
  case spaced =>
    refine List.pairwise_append.mpr ⟨h.spaced, List.pairwise_singleton _ _, ?_⟩
    intro x hx y hy
    rw [List.mem_singleton.mp hy]
    exact hlater x hx
  case last =>
    intro x hx
    show x ≤ curTime
    cases List.mem_append.mp hx with
    | inl hold =>
      have hafter := hlater x hold
      linarith
    | inr hnew => exact (List.mem_singleton.mp hnew).le
  case waiting =>
    intro x hx
    cases List.mem_append.mp hx with
    | inl hold => exact h.waiting x hold
    | inr hnew => exact List.mem_singleton.mp hnew ▸ hpos
  case never => exact fun hzero => absurd hzero hpos.ne'

/-- A turn of the loop; the count may just have been set to zero. -/
theorem Bursty.loop (h : Bursty cfg s) {curTime : ℚ} (hpos : 0 < curTime)
    (hreset : s.connectionAttemptCount = 0 → s.attempts ≠ [] → s.stopped = true ∨
      cfg.waitAfterFailedAttemptsMs ≤ cfg.connectAttemptTimeMs ∨
      cfg.waitAfterFailedAttemptsMs ≤ curTime - s.lastConnectionAttemptTime) :
    Paced cfg (s.loop cfg curTime) := by
  have hcount := cfg.attempts_ge
  unfold SlaveLink.loop
  by_cases htries : s.tries cfg curTime = true
  · rw [if_pos htries]
    simp only [tries, Bool.and_eq_true, Bool.not_eq_true', decide_eq_true_eq,
      Bool.or_eq_true] at htries
    obtain ⟨⟨-, hless⟩, hdue⟩ := htries
    by_cases hstopped : s.stopped = true
    · rw [if_pos hstopped]
      exact { h with reset := fun _ _ => .inl hstopped }
    · rw [if_neg hstopped]
      have hlater : ∀ x ∈ s.attempts, x + cfg.connectAttemptTimeMs ≤ curTime := by
        intro x hx
        have hlast := h.last x hx
        obtain hlong | hzero := hdue
        · linarith
        · rw [h.never hzero] at hx
          exact absurd hx List.not_mem_nil
      refine h.attempt hpos hless hlater fun hzero x hx => ?_
      have hlast := h.last x hx
      have hafter := hlater x hx
      obtain hstop | hshort | hwaited := hreset hzero (List.ne_nil_of_mem hx)
      · exact absurd hstop hstopped
      · linarith
      · linarith
  · rw [if_neg htries, afterLoop]
    by_cases hconnected : s.connected = true
    · rw [if_pos hconnected]
      exact h.success hpos
    · rw [if_neg hconnected]
      refine { h with reset := fun hzero hne => ?_ }
      obtain hstop | hshort | hwaited := hreset hzero hne
      · exact .inl hstop
      · exact .inr hshort
      · -- the time between two attempts was not over, so it is longer than the wait
        refine .inr (le_of_not_gt fun hlong => htries ?_)
        have hless : s.connectionAttemptCount < cfg.connectionAttempt := by omega
        have hdue : curTime - s.lastConnectionAttemptTime ≥ cfg.connectAttemptTimeMs := by
          linarith
        simp [tries, hconnected, hless, hdue]

/-- Every call of `connect` keeps the pace. -/
theorem Paced.connect (h : Paced cfg s) {curTime : ℚ} (hpos : 0 < curTime) :
    Paced cfg (s.connect cfg curTime) := by
  unfold SlaveLink.connect
  split
  case isTrue hconnected =>
    rw [afterLoop, if_pos hconnected]
    exact h.toBursty.success hpos
  case isFalse =>
    split
    case isTrue hfull =>
      exact h.toBursty.zero.loop hpos fun _ _ => .inr (.inr hfull.2)
    case isFalse =>
      refine h.toBursty.loop hpos fun hzero hne => ?_
      obtain hstop | hshort := h.reset hzero hne
      · exact .inl hstop
      · exact .inr (.inl hshort)

/-- And so does every step. -/
theorem Paced.step {a : Label} (h : Paced cfg s) (hstep : SlaveLink.step cfg s a = some s') :
    Paced cfg s' := by
  cases a with
  | network connected =>
    obtain rfl := Option.some.inj hstep
    exact { h with }
  | stop =>
    obtain rfl := Option.some.inj hstep
    exact { h with reset := fun _ _ => .inl rfl }
  | connect curTime hpos =>
    obtain rfl := Option.some.inj hstep
    exact h.connect hpos
  | resume i raised =>
    simp only [SlaveLink.step, resume] at hstep
    split at hstep
    case h_1 => cases hstep
    case h_2 curTime hcall =>
      have hpos : 0 < curTime := h.waiting curTime (List.mem_of_getElem? hcall)
      -- the call is no longer waiting
      have hgone : Paced cfg { s with waiting := s.waiting.eraseIdx i } :=
        { h with waiting := fun x hx => h.waiting x (List.mem_of_mem_eraseIdx hx) }
      split at hstep
      · obtain rfl := Option.some.inj hstep
        exact hgone
      · split at hstep
        · obtain rfl := Option.some.inj hstep
          exact hgone
        · obtain rfl := Option.some.inj hstep
          refine hgone.toBursty.loop hpos fun hzero hne => ?_
          obtain hstop | hshort := hgone.reset hzero hne
          · exact .inl hstop
          · exact .inr (.inl hshort)

/-- Until a call returns `True`, any two attempts are `connectAttemptTimeMs` apart, and no interval
    of `waitAfterFailedAttemptsMs` has more of them than `connectionAttempt`. -/
theorem attempts_paced {connected : Bool} {labels : List Label}
    (hrun : exec cfg (init connected) labels = some s) :
    (s.attempts.Pairwise fun x y => x + cfg.connectAttemptTimeMs ≤ y) ∧
    ∀ t, (s.attempts.filter fun x => t ≤ x ∧ x < t + cfg.waitAfterFailedAttemptsMs).length ≤
      cfg.connectionAttempt := by
  have hend : Paced cfg s :=
    Run.exec_invariant' (fun _ _ _ h hstep => h.step hstep) (init_paced connected) hrun
  refine ⟨hend.spaced, fun t => ?_⟩
  obtain ⟨earlier, current, hattempts, -, hspaced⟩ := hend.bursts
  have hflatten : s.attempts = (earlier ++ [current]).flatten := by
    rw [List.flatten_append, List.flatten_singleton]
    exact hattempts
  rw [hflatten]
  exact hspaced.length_interval t

/-- After any run, a call that begins long enough after the last attempt makes one. -/
theorem connect_tries (hconnected : s.connected = false) (hstopped : s.stopped = false)
    {curTime : ℚ}
    (hwait : s.lastConnectionAttemptTime + cfg.waitAfterFailedAttemptsMs ≤ curTime)
    (hattempt : s.lastConnectionAttemptTime + cfg.connectAttemptTimeMs ≤ curTime) :
    (s.connect cfg curTime).attempts = s.attempts ++ [curTime] := by
  have hcount := cfg.attempts_ge
  have hdue : curTime - s.lastConnectionAttemptTime ≥ cfg.connectAttemptTimeMs := by linarith
  have hwaited : curTime - s.lastConnectionAttemptTime ≥ cfg.waitAfterFailedAttemptsMs := by
    linarith
  by_cases hfull : s.connectionAttemptCount ≥ cfg.connectionAttempt
  · simp [SlaveLink.connect, loop, tries, hconnected, hstopped, hfull, hwaited, hdue,
      show 0 < cfg.connectionAttempt by omega]
  · simp [SlaveLink.connect, loop, tries, hconnected, hstopped, hdue,
      show s.connectionAttemptCount < cfg.connectionAttempt by omega,
      show ¬ cfg.connectionAttempt ≤ s.connectionAttemptCount by omega]

/-- Two attempts, a third one that has to wait, and one half a minute later. -/
private def fourCalls : List Label :=
  [.connect 1000 (by norm_num), .resume 0 false, .connect 1600 (by norm_num), .resume 0 false,
    .connect 2200 (by norm_num), .connect 31600 (by norm_num)]

/-- Four calls make three attempts. -/
private theorem fourCalls_run :
    exec (.ofConfig none none none) (init false) fourCalls =
      some { connected := false, stopped := false, connectionAttemptCount := 1,
             lastConnectionAttemptTime := 31600, waiting := [31600],
             attempts := [1000, 1600, 31600] } := by
  decide +kernel

/-- And they are as far apart as they must be. -/
theorem attempts_paced_fourCalls :
    ([1000, 1600, 31600] : List ℚ).Pairwise
      (fun x y => x + (ConnectTiming.ofConfig none none none).connectAttemptTimeMs ≤ y) ∧
    ∀ t, (([1000, 1600, 31600] : List ℚ).filter fun x => t ≤ x ∧
        x < t + (ConnectTiming.ofConfig none none none).waitAfterFailedAttemptsMs).length ≤
      (ConnectTiming.ofConfig none none none).connectionAttempt :=
  attempts_paced fourCalls_run

end Novena.Modbus.SlaveLink
