import NovenaGateway.Spec.NetworkWatchdog

/-!
# What a check of the watchdog can do

`Prepared` and `Selected` list the ways a metric change and a selection end, with everything that
is true on each way; `RestoredFrom` says what the restoring of the other metrics leaves alone.
`Checked` puts them together: a check that no exception ends leaves what its selection left, up to
the metrics of interfaces that are not active.

Key results:
- `NetworkWatchdog.prepareCandidate_prepared`
- `NetworkWatchdog.select_selected`
- `NetworkWatchdog.checkNetwork_checked`
-/

namespace Novena

namespace NetworkWatchdog

/-! ## Selecting -/

/-- The three ways a candidate is chosen. -/
theorem candidate_cases (healthy : List String) (current : String) (n : Nat) :
    (current ∉ healthy ∧ candidate healthy current n = (healthy.headD "", 0)) ∨
      (current ∈ healthy ∧ healthy.headD "" ≠ "" ∧ healthy.headD "" ≠ current ∧
        candidate healthy current n =
          (if 3 ≤ n + 1 then healthy.headD "" else current, n + 1)) ∨
      (current ∈ healthy ∧ candidate healthy current n = (current, 0)) := by
  -- the current interface is healthy, or it is not
  by_cases hcurrent : current ∈ healthy
  -- another one is preferred, or none
  · by_cases hbetter : healthy.headD "" ≠ "" ∧ healthy.headD "" ≠ current
    · right; left
      refine ⟨hcurrent, hbetter.1, hbetter.2, ?_⟩
      simp only [candidate]
      rw [if_neg (not_not.mpr hcurrent), if_pos hbetter]
    · right; right
      refine ⟨hcurrent, ?_⟩
      simp only [candidate]
      rw [if_neg (not_not.mpr hcurrent), if_neg hbetter]
  · left
    refine ⟨hcurrent, ?_⟩
    simp only [candidate]
    rw [if_pos hcurrent]

/-- The first healthy interface is a healthy one. -/
theorem headD_mem {healthy : List String} (h : healthy.headD "" ≠ "") :
    healthy.headD "" ∈ healthy := by
  cases healthy with
  | nil => exact absurd rfl h
  | cons i is => exact List.mem_cons_self

/-- How the metric change before a selection ends. -/
inductive Prepared (w : NetworkWatchdog) (o : Observation) (diagnostics : Dict String Diagnostic)
    (chosen : String) (original : Dict String (String × Int)) :
    List NetAction × Bool × Dict String (String × Int) → Prop
  | unneeded (hneeds : needsMetric w o diagnostics chosen = false) :
      Prepared w o diagnostics chosen original ([], true, original)
  | changed {best before : Int} {uuid : String}
      (hneeds : needsMetric w o diagnostics chosen = true)
      (hbest : (otherMetrics w o diagnostics chosen).min? = some best) (hpos : 0 < best)
      (hactive : w.active = true) (hprofile : o.profile = some (uuid, before))
      (hhelper : o.helper = true) :
      Prepared w o diagnostics chosen original ([.setMetric chosen uuid (best - 1)], true,
        if original.contains chosen then original else original.set chosen (uuid, before))
  | refused {actions : List NetAction} (hneeds : needsMetric w o diagnostics chosen = true)
      (hactions : ∀ a ∈ actions, a.interface = chosen)
      (hhelper : o.helper = false ∨ actions = []) :
      Prepared w o diagnostics chosen original (actions, false, original)

/-- A candidate is prepared, or the check ends. -/
theorem prepareCandidate_prepared (w : NetworkWatchdog) (o : Observation)
    (diagnostics : Dict String Diagnostic) (chosen : String)
    (original : Dict String (String × Int)) :
    Prepared w o diagnostics chosen original
      (prepareCandidate w o diagnostics chosen original) := by
  have hneeds : needsMetric w o diagnostics chosen =
      (otherMetrics w o diagnostics chosen).min?.any fun best =>
        decide (best ≤ metricOf o chosen) := rfl
  have hnone : ∀ a ∈ ([] : List NetAction), a.interface = chosen :=
    fun _ ha => absurd ha List.not_mem_nil
  simp only [prepareCandidate]
  -- no other uplink, so the metric is low enough
  cases hbest : (otherMetrics w o diagnostics chosen).min? with
  | none =>
    rw [hbest] at hneeds
    exact .unneeded hneeds
  | some best =>
    rw [hbest, Option.any_some] at hneeds
    -- it is lower than the best of the others
    by_cases hlow : metricOf o chosen < best
    · rw [decide_eq_false (by omega)] at hneeds
      simp only [if_pos hlow]
      exact .unneeded hneeds
    · rw [decide_eq_true (by omega)] at hneeds
      simp only [if_neg hlow]
      -- room below the best, and the watchdog may act
      by_cases hgo : w.active = true ∧ 0 < best
      · rw [if_pos hgo]
        simp only [setInterfaceMetric, hgo.1, Bool.not_true, Bool.false_eq_true, if_false]
        -- a profile to be edited
        cases hprofile : o.profile with
        | none => exact .refused hneeds hnone (.inr rfl)
        | some profile =>
          obtain ⟨uuid, before⟩ := profile
          -- the helper accepts the change
          cases hhelper : o.helper with
          | true =>
            simp only [if_true]
            exact .changed hneeds hbest hgo.2 hgo.1 hprofile hhelper
          -- it refuses, after it was asked
          | false =>
            simp only [Bool.false_eq_true, if_false]
            refine .refused hneeds (fun a ha => ?_) (.inl hhelper)
            rw [List.mem_singleton.mp ha]
            rfl
      -- diagnostic mode, or no room
      · rw [if_neg hgo]
        exact .refused hneeds hnone (.inr rfl)

/-- How a selection ends; `count` is the new count of successes. -/
inductive Selected (w : NetworkWatchdog) (s : WatchdogState) (o : Observation)
    (diagnostics : Dict String Diagnostic) (current chosen : String) (count : Nat) :
    Watched → Prop
  | switched {actions : List NetAction} {original : Dict String (String × Int)}
      (hchosen : chosen ≠ "") (hcurrent : chosen ≠ current)
      (hprepared : Prepared w o diagnostics chosen s.originalMetrics (actions, true, original)) :
      Selected w s o diagnostics current chosen count
        ⟨{ s with
            activeInterface := chosen
            consecutivePreferredSuccesses := count
            originalMetrics := original
            failoverCount := s.failoverCount +
              if current ≠ "" ∧ needsMetric w o diagnostics chosen then 1 else 0 }, actions⟩
  | refused {actions : List NetAction} {original : Dict String (String × Int)}
      (hchosen : chosen ≠ "") (hcurrent : chosen ≠ current)
      (hprepared : Prepared w o diagnostics chosen s.originalMetrics (actions, false, original)) :
      Selected w s o diagnostics current chosen count
        ⟨{ s with
            activeInterface := current
            consecutivePreferredSuccesses := count
            originalMetrics := original }, actions⟩
  | lost (hchosen : chosen = "") (hcurrent : current ≠ "") :
      Selected w s o diagnostics current chosen count
        ⟨{ s with activeInterface := "", consecutivePreferredSuccesses := count }, []⟩
  | kept (hchosen : chosen = current) :
      Selected w s o diagnostics current chosen count
        ⟨{ s with activeInterface := current, consecutivePreferredSuccesses := count }, []⟩

/-- An interface is selected, or the old one stays. -/
theorem select_selected {w : NetworkWatchdog} {s : WatchdogState} {o : Observation}
    {diagnostics : Dict String Diagnostic} {chosen : String} {count : Nat}
    (h : candidate (healthy w diagnostics) (currentInterface w s o diagnostics)
      s.consecutivePreferredSuccesses = (chosen, count)) :
    Selected w s o diagnostics (currentInterface w s o diagnostics) chosen count
      (select w s o diagnostics).1 := by
  have hprepared := prepareCandidate_prepared w o diagnostics chosen s.originalMetrics
  simp only [select, h]
  -- the candidate is another interface
  split
  · next hswitch =>
    generalize prepareCandidate w o diagnostics chosen s.originalMetrics = change at hprepared
    obtain ⟨actions, success, original⟩ := change
    -- it was prepared or not
    cases success with
    | true => exact .switched hswitch.1 hswitch.2 hprepared
    | false => exact .refused hswitch.1 hswitch.2 hprepared
  -- nothing healthy is left
  split
  · next hlost => exact .lost hlost.1 hlost.2
  · next hswitch hlost =>
    -- the candidate is empty only where there is no current interface either
    have hchosen : chosen = currentInterface w s o diagnostics := by
      by_contra hne
      by_cases hempty : chosen = ""
      · exact hlost ⟨hempty, fun hcurrent => hne (hempty.trans hcurrent.symm)⟩
      · exact hswitch ⟨hempty, hne⟩
    exact .kept hchosen

/-! ## Restoring -/

/-- What the restoring of metrics leaves alone: everything but what is remembered, and the
    interfaces that `P` excludes. -/
structure RestoredFrom (P : String → Prop) (r r' : Watched) : Prop where
  active : r'.state.activeInterface = r.state.activeInterface
  count : r'.state.consecutivePreferredSuccesses = r.state.consecutivePreferredSuccesses
  failovers : r'.state.failoverCount = r.state.failoverCount
  actions : ∃ extra, r'.actions = r.actions ++ extra ∧ ∀ a ∈ extra, P a.interface

/-- Nothing is restored. -/
theorem RestoredFrom.refl (P : String → Prop) (r : Watched) : RestoredFrom P r r :=
  ⟨rfl, rfl, rfl, [], (List.append_nil _).symm, fun _ ha => absurd ha List.not_mem_nil⟩

/-- One after the other. -/
theorem RestoredFrom.trans {P : String → Prop} {r₁ r₂ r₃ : Watched} (h : RestoredFrom P r₁ r₂)
    (h' : RestoredFrom P r₂ r₃) : RestoredFrom P r₁ r₃ := by
  obtain ⟨extra, hextra, hP⟩ := h.actions
  obtain ⟨extra', hextra', hP'⟩ := h'.actions
  refine ⟨h'.active.trans h.active, h'.count.trans h.count, h'.failovers.trans h.failovers,
    extra ++ extra', ?_, ?_⟩
  · rw [hextra', hextra, List.append_assoc]
  · intro a ha
    rcases List.mem_append.mp ha with ha | ha
    · exact hP a ha
    · exact hP' a ha

/-- One interface is restored. -/
theorem restore_restoredFrom {P : String → Prop} (o : Observation) {interface : String}
    (hP : P interface) (r : Watched) : RestoredFrom P r (restore o interface r) := by
  simp only [restore]
  split
  · split
    · refine ⟨?_, ?_, ?_, _, rfl, ?_⟩
      · split <;> rfl
      · split <;> rfl
      · split <;> rfl
      · intro a ha
        rw [List.mem_singleton.mp ha]
        exact hP
    · exact .refl P r
  · exact .refl P r

/-- The active interface keeps its metric when the others get theirs back. -/
theorem restoreUnselected_restoredFrom (o : Observation) (diagnostics : Dict String Diagnostic)
    (r : Watched) :
    RestoredFrom (· ≠ r.state.activeInterface) r (restoreUnselected o diagnostics r) := by
  rw [restoreUnselected]
  generalize r.state.originalMetrics.map Prod.fst = interfaces
  -- the loop compares with the active interface it started with
  suffices hloop : ∀ r' : Watched, r'.state.activeInterface = r.state.activeInterface →
      RestoredFrom (· ≠ r.state.activeInterface) r' (interfaces.foldl (fun r interface =>
        if interface ≠ r.state.activeInterface ∧ hasUplink diagnostics interface then
          restore o interface r
        else r) r') from hloop r rfl
  -- interface by interface
  induction interfaces with
  | nil => exact fun r' _ => .refl _ r'
  | cons interface interfaces ih =>
    intro r' hactive
    rw [List.foldl_cons]
    split
    -- the interface is not the active one and has its uplink back
    · next hgo =>
      have hone : RestoredFrom (· ≠ r.state.activeInterface) r' (restore o interface r') :=
        restore_restoredFrom o (hactive ▸ hgo.1) r'
      exact hone.trans (ih _ (hone.active.trans hactive))
    -- it is passed over
    · exact ih r' hactive

/-! ## Whole checks -/

/-- The diagnostics of a check; `none` where an exception ends it. -/
def diagnosed (w : NetworkWatchdog) (o : Observation) : Option (Dict String Diagnostic) :=
  (diagnoseAll w o 0 w.interfaces []).2

/-- A command that sets no metric. -/
def IsPing (a : NetAction) : Prop := ∃ interface target, a = .ping interface target

/-- Only pings go through it. -/
theorem pingInterface_ping {outcome : String → PingOutcome} {interface : String}
    {targets : List String} {a : NetAction} (h : a ∈ (pingInterface outcome interface targets).1) :
    IsPing a := by
  induction targets with
  | nil => exact absurd h List.not_mem_nil
  | cons target targets ih =>
    simp only [pingInterface] at h
    -- one answer is enough
    cases houtcome : outcome target with
    | replied =>
      rw [houtcome] at h
      exact ⟨interface, target, List.mem_singleton.mp h⟩
    | silent =>
      rw [houtcome] at h
      rcases List.mem_cons.mp h with rfl | h
      · exact ⟨interface, target, rfl⟩
      · exact ih h
    | raised =>
      rw [houtcome] at h
      exact ⟨interface, target, List.mem_singleton.mp h⟩

/-- The diagnosis only pings. -/
theorem diagnose_ping {w : NetworkWatchdog} {o : Observation} {i : Nat} {interface : String}
    {a : NetAction} (h : a ∈ (diagnose w o i interface).1) : IsPing a := by
  simp only [diagnose] at h
  split at h
  · exact absurd h List.not_mem_nil
  · exact absurd h List.not_mem_nil
  · split at h
    · exact pingInterface_ping h
    · exact absurd h List.not_mem_nil

/-- And so do all of them. -/
theorem diagnoseAll_ping {w : NetworkWatchdog} {o : Observation} {i : Nat}
    {interfaces : List String} {diagnostics : Dict String Diagnostic} {a : NetAction}
    (h : a ∈ (diagnoseAll w o i interfaces diagnostics).1) : IsPing a := by
  induction interfaces generalizing i diagnostics with
  | nil => exact absurd h List.not_mem_nil
  | cons interface interfaces ih =>
    simp only [diagnoseAll] at h
    split at h
    · next hrun => exact diagnose_ping (by rw [hrun]; exact h)
    · next hrun =>
      rcases List.mem_append.mp h with h | h
      · exact diagnose_ping (by rw [hrun]; exact h)
      · exact ih h

/-- Every interface the loop comes to has a diagnostic, as has what had one before. -/
theorem diagnoseAll_complete {w : NetworkWatchdog} {o : Observation} {i : Nat}
    {interfaces : List String} {diagnostics diagnostics' : Dict String Diagnostic}
    (h : (diagnoseAll w o i interfaces diagnostics).2 = some diagnostics') {interface : String}
    (hin : interface ∈ interfaces ∨ (Dict.get? diagnostics interface).isSome = true) :
    (Dict.get? diagnostics' interface).isSome = true := by
  induction interfaces generalizing i diagnostics with
  | nil =>
    obtain rfl := Option.some.inj h
    exact hin.resolve_left List.not_mem_nil
  | cons first rest ih =>
    simp only [diagnoseAll] at h
    -- a diagnosis that raised ends the loop
    split at h
    · cases h
    · next d hrun =>
      apply ih h
      -- the interface just diagnosed
      by_cases hfirst : interface = first
      · right
        rw [hfirst, Dict.get?_set_self]
        rfl
      -- one of the others, before or after it
      · rcases hin with hin | hold
        · exact .inl ((List.mem_cons.mp hin).resolve_left hfirst)
        · exact .inr (Dict.get?_set_isSome hold first d)

/-- What they find is sound. -/
theorem sound_of_diagnosed {w : NetworkWatchdog} {o : Observation}
    {diagnostics : Dict String Diagnostic} (h : diagnosed w o = some diagnostics) :
    w.Sound o diagnostics := by
  have hempty : w.Sound o [] := by
    intro _ _ hd
    cases hd
  exact diagnoseAll_sound hempty h

/-- An interface of the watchdog that is an uplink in a check has a diagnostic that says so. -/
theorem Uplink.hasUplink {w : NetworkWatchdog} {o : Observation} {interface : String}
    (hup : w.Uplink o interface) {diagnostics : Dict String Diagnostic}
    (h : diagnosed w o = some diagnostics) (hin : interface ∈ w.interfaces) :
    hasUplink diagnostics interface = true := by
  obtain ⟨r, reason, hrole, hr⟩ := hup
  obtain ⟨d, hd⟩ := Option.isSome_iff_exists.mp (diagnoseAll_complete h (.inl hin))
  have hsound := (sound_of_diagnosed h interface d hd).role
  rw [hrole] at hsound
  have hrd : r = d.role := (Prod.mk.inj (Except.ok.inj hsound)).1
  rw [NetworkWatchdog.hasUplink, hd, Option.any_some, ← hrd]
  exact hr

/-- The error a selection may add to a diagnostic changes no role. -/
theorem hasUplink_select (w : NetworkWatchdog) (s : WatchdogState) (o : Observation)
    (diagnostics : Dict String Diagnostic) (interface : String) :
    hasUplink (select w s o diagnostics).2 interface = hasUplink diagnostics interface := by
  simp only [select]
  split
  -- a switch marks the candidate
  · split
    · rfl
    · split
      · next d hd =>
        -- the mark is on another field
        simp only [hasUplink, Dict.get?_set]
        by_cases hi : interface = (candidate (healthy w diagnostics)
            (currentInterface w s o diagnostics) s.consecutivePreferredSuccesses).1
        · rw [if_pos hi, hi, hd]
          rfl
        · rw [if_neg hi]
      · rfl
  · split <;> rfl

/-- An exception ends the check with nothing done but probing. -/
theorem checkNetwork_of_raise {w : NetworkWatchdog} {o : Observation} (h : diagnosed w o = none)
    (s : WatchdogState) :
    ∃ probes, (∀ a ∈ probes, IsPing a) ∧ checkNetwork w s o = ⟨s, probes⟩ := by
  have hprobes : ∀ a ∈ (diagnoseAll w o 0 w.interfaces []).1, IsPing a :=
    fun a ha => diagnoseAll_ping ha
  rw [diagnosed] at h
  simp only [checkNetwork]
  generalize diagnoseAll w o 0 w.interfaces [] = probed at h hprobes
  obtain ⟨probes, diagnostics⟩ := probed
  obtain rfl : diagnostics = none := h
  exact ⟨probes, hprobes, rfl⟩

/-- Otherwise it probes, selects and restores. -/
theorem checkNetwork_of_diagnosed {w : NetworkWatchdog} {o : Observation}
    {diagnostics : Dict String Diagnostic} (h : diagnosed w o = some diagnostics)
    (s : WatchdogState) :
    ∃ probes, (∀ a ∈ probes, IsPing a) ∧ checkNetwork w s o =
      let selected := select w s o diagnostics
      let r := restoreUnselected o selected.2 selected.1
      ⟨{ r.state with diagnostics := selected.2 }, probes ++ r.actions⟩ := by
  have hprobes : ∀ a ∈ (diagnoseAll w o 0 w.interfaces []).1, IsPing a :=
    fun a ha => diagnoseAll_ping ha
  rw [diagnosed] at h
  simp only [checkNetwork]
  generalize diagnoseAll w o 0 w.interfaces [] = probed at h hprobes
  obtain ⟨probes, diagnostics'⟩ := probed
  obtain rfl : diagnostics' = some diagnostics := h
  exact ⟨probes, hprobes, rfl⟩

/-- What a check leaves that is not ended by an exception: what the selection left, up to the
    metrics of interfaces that are not active. -/
structure Checked (selected checked : Watched) : Prop where
  active : checked.state.activeInterface = selected.state.activeInterface
  count :
    checked.state.consecutivePreferredSuccesses = selected.state.consecutivePreferredSuccesses
  failovers : checked.state.failoverCount = selected.state.failoverCount
  actions : ∃ probes extra, checked.actions = probes ++ selected.actions ++ extra ∧
    (∀ a ∈ probes, IsPing a) ∧
    ∀ a ∈ extra, a.interface ≠ selected.state.activeInterface

/-- A check selects, and then it restores. -/
theorem checkNetwork_checked {w : NetworkWatchdog} {o : Observation}
    {diagnostics : Dict String Diagnostic} (h : diagnosed w o = some diagnostics)
    (s : WatchdogState) :
    Checked (select w s o diagnostics).1 (checkNetwork w s o) := by
  obtain ⟨probes, hprobes, hcheck⟩ := checkNetwork_of_diagnosed h s
  rw [hcheck]
  have hrestored := restoreUnselected_restoredFrom o (select w s o diagnostics).2
    (select w s o diagnostics).1
  obtain ⟨extra, hextra, hothers⟩ := hrestored.actions
  refine ⟨hrestored.active, hrestored.count, hrestored.failovers, probes, extra, ?_, hprobes,
    hothers⟩
  simp only [hextra, List.append_assoc]

end NetworkWatchdog

end Novena
