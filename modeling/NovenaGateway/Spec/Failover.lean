import NovenaGateway.Spec.WatchdogChecks

/-!
# Changing the active interface

Two results about `_check_network`: over whole runs, when an interface that is still healthy is
given up for a better one, and for one check, what a change of the active interface means for the
metrics.

The count of successes is one number for every better interface: it says that some better
interface was healthy in each of the last checks, not that the same one was.

Key results:
- `NetworkWatchdog.preempted_after_three`
- `NetworkWatchdog.failover_claimed`
-/

namespace Novena

namespace NetworkWatchdog

/-! ## Giving up a healthy interface -/

/-- `healthy` of a check; an exception in it leaves nothing that is known to be healthy. -/
def healthyIn (w : NetworkWatchdog) (o : Observation) : List String :=
  ((diagnosed w o).map (healthy w)).getD []

section Runs

variable (w : NetworkWatchdog) (os : List Observation) (k : Nat)

/-- The state before the `k`-th check of a run. -/
def stateAt : WatchdogState := (checks w init (os.take k)).state

/-- The interfaces that pass their probe in the `k`-th check. -/
def healthyAt : List String := (os[k]?.map (healthyIn w)).getD []

/-- `preferred` of the `k`-th check. -/
def preferredAt : String := (healthyAt w os k).headD ""

/-- `current` of the `k`-th check. -/
def currentAt : String :=
  ((os[k]?.bind fun o => (diagnosed w o).map (currentInterface w (stateAt w os k) o))).getD ""

/-- The `k`-th check moves the active interface away from one that is healthy in it. -/
def Preempts : Prop :=
  (stateAt w os k).activeInterface ≠ "" ∧
    (stateAt w os k).activeInterface ∈ healthyAt w os k ∧
    (stateAt w os (k + 1)).activeInterface ≠ (stateAt w os k).activeInterface

instance : Decidable (Preempts w os k) := inferInstanceAs (Decidable (_ ∧ _ ∧ _))

/-- The interface is healthy in the `k`-th check and in the two before it. -/
def Recovered (interface : String) : Prop :=
  2 ≤ k ∧ ∀ j, k ≤ j + 2 → j ≤ k → interface ∈ healthyAt w os j

/-- The count is continued only for the interface it was made for: where it is not zero, and
    another interface is preferred to a healthy one, that was so in the check before. -/
def CountKept : Prop :=
  (stateAt w os k).consecutivePreferredSuccesses ≠ 0 →
    currentAt w os k ∈ healthyAt w os k → preferredAt w os k ≠ currentAt w os k →
      preferredAt w os k = preferredAt w os (k - 1)

instance : Decidable (CountKept w os k) := inferInstanceAs (Decidable (_ → _ → _ → _))

end Runs

/-- More checks go on where the first ones end. -/
theorem checks_append (w : NetworkWatchdog) (os os' : List Observation) (s : WatchdogState) :
    (checks w s (os ++ os')).state = (checks w (checks w s os).state os').state := by
  induction os generalizing s with
  | nil => rfl
  | cons o os ih => exact ih (checkNetwork w s o).state

/-- A selection keeps the count it was made with. -/
theorem Selected.count {w : NetworkWatchdog} {s : WatchdogState} {o : Observation}
    {diagnostics : Dict String Diagnostic} {current chosen : String} {count : Nat} {r : Watched}
    (h : Selected w s o diagnostics current chosen count r) :
    r.state.consecutivePreferredSuccesses = count := by
  cases h <;> rfl

section Runs

variable {w : NetworkWatchdog} {os : List Observation} {k : Nat}

/-- The two ways the `k`-th check can end: with an exception, or with a selection. -/
theorem stateAt_cases (w : NetworkWatchdog) (os : List Observation) (k : Nat) :
    (stateAt w os (k + 1) = stateAt w os k ∧ healthyAt w os k = []) ∨
      ∃ o diagnostics chosen count r,
        candidate (healthyAt w os k) (currentAt w os k)
          (stateAt w os k).consecutivePreferredSuccesses = (chosen, count) ∧
        Selected w (stateAt w os k) o diagnostics (currentAt w os k) chosen count r ∧
        Checked r ⟨stateAt w os (k + 1), (checkNetwork w (stateAt w os k) o).actions⟩ := by
  have hnext : stateAt w os (k + 1) = (checks w (stateAt w os k) os[k]?.toList).state := by
    rw [stateAt, List.take_add_one, checks_append, ← stateAt]
  -- there may be no check `k`
  cases ho : os[k]? with
  | none =>
    left
    rw [ho] at hnext
    exact ⟨hnext, by rw [healthyAt, ho]; rfl⟩
  | some o =>
    rw [ho] at hnext
    have hstate : stateAt w os (k + 1) = (checkNetwork w (stateAt w os k) o).state := hnext
    -- it may raise
    cases hd : diagnosed w o with
    | none =>
      left
      obtain ⟨probes, -, hcheck⟩ := checkNetwork_of_raise hd (stateAt w os k)
      rw [hcheck] at hstate
      refine ⟨hstate, ?_⟩
      rw [healthyAt, ho, Option.map_some, Option.getD_some, healthyIn, hd]
      rfl
    -- or it selects an interface
    | some diagnostics =>
      right
      have hhealthy : healthyAt w os k = healthy w diagnostics := by
        rw [healthyAt, ho, Option.map_some, Option.getD_some, healthyIn, hd]
        rfl
      have hcurrent : currentAt w os k = currentInterface w (stateAt w os k) o diagnostics := by
        rw [currentAt, ho, Option.bind_some, hd]
        rfl
      rw [hhealthy, hcurrent, hstate]
      generalize hchosen : candidate (healthy w diagnostics)
        (currentInterface w (stateAt w os k) o diagnostics)
        (stateAt w os k).consecutivePreferredSuccesses = choice
      obtain ⟨chosen, count⟩ := choice
      exact ⟨o, diagnostics, chosen, count, _, rfl, select_selected hchosen,
        checkNetwork_checked hd _⟩

/-- As many of the last checks as are counted had the same preferred interface, if the last one
    had any. -/
def Streak (w : NetworkWatchdog) (os : List Observation) (k : Nat) : Prop :=
  (stateAt w os k).consecutivePreferredSuccesses ≤ k ∧
    (preferredAt w os (k - 1) ≠ "" → ∀ j < k,
      k ≤ j + (stateAt w os k).consecutivePreferredSuccesses →
        preferredAt w os j = preferredAt w os (k - 1))

/-- A streak of no check. -/
theorem Streak.zero (w : NetworkWatchdog) (os : List Observation) : Streak w os 0 :=
  ⟨Nat.le_refl 0, fun _ j hj => absurd hj (Nat.not_lt_zero j)⟩

/-- Nothing is counted. -/
theorem Streak.of_zero (h : (stateAt w os k).consecutivePreferredSuccesses = 0) :
    Streak w os k := by
  rw [Streak, h]
  exact ⟨Nat.zero_le k, fun _ j hj hle => by omega⟩

/-- One check more is counted, and it prefers what the checks before it preferred. -/
theorem Streak.succ (h : Streak w os k)
    (hcount : (stateAt w os (k + 1)).consecutivePreferredSuccesses =
      (stateAt w os k).consecutivePreferredSuccesses + 1)
    (hkept : (stateAt w os k).consecutivePreferredSuccesses ≠ 0 →
      preferredAt w os k = preferredAt w os (k - 1)) : Streak w os (k + 1) := by
  have hlast : k + 1 - 1 = k := by omega
  rw [Streak, hcount, hlast]
  constructor
  · exact Nat.succ_le_succ h.1
  · intro hpreferred j hj hle
    by_cases hjk : j = k
    · rw [hjk]
    · have hne : (stateAt w os k).consecutivePreferredSuccesses ≠ 0 := by omega
      rw [hkept hne] at hpreferred ⊢
      exact h.2 hpreferred j (by omega) (by omega)

/-- A count that is kept is a streak of one check more. -/
theorem streak_step (hkept : CountKept w os k) (h : Streak w os k) : Streak w os (k + 1) := by
  rcases stateAt_cases w os k with ⟨hstate, hhealthy⟩ | hselected
  · -- after an exception nothing is preferred
    have hlast : k + 1 - 1 = k := by omega
    have hnone : preferredAt w os k = "" := by
      rw [preferredAt, hhealthy]
      rfl
    rw [Streak, hstate, hlast]
    exact ⟨Nat.le_succ_of_le h.1, fun hne => absurd hnone hne⟩
  -- of the three outcomes one counts on, the others begin at zero
  · obtain ⟨o, diagnostics, chosen, count, r, hcandidate, hselected, hchecked⟩ := hselected
    have hcount : (stateAt w os (k + 1)).consecutivePreferredSuccesses = count :=
      hchecked.count.trans hselected.count
    rcases candidate_cases (healthyAt w os k) (currentAt w os k)
      (stateAt w os k).consecutivePreferredSuccesses with
      ⟨-, hcase⟩ | ⟨hcurrent, -, hother, hcase⟩ | ⟨-, hcase⟩
    · rw [hcase] at hcandidate
      exact .of_zero (hcount.trans (Prod.mk.inj hcandidate).2.symm)
    · rw [hcase] at hcandidate
      exact h.succ (hcount.trans (Prod.mk.inj hcandidate).2.symm)
        fun hne => hkept hne hcurrent hother
    · rw [hcase] at hcandidate
      exact .of_zero (hcount.trans (Prod.mk.inj hcandidate).2.symm)

/-- After the last check of a run there is nothing to count. -/
theorem countKept_of_length_le (h : os.length ≤ k) : CountKept w os k := by
  intro _ hcurrent
  rw [healthyAt, List.getElem?_eq_none h] at hcurrent
  exact absurd hcurrent List.not_mem_nil

/-- So a count that was kept is the length of a streak. -/
theorem streak_of_countKept (hkept : ∀ k < os.length, CountKept w os k) (k : Nat) :
    Streak w os k := by
  induction k with
  | zero => exact .zero w os
  | succ k ih =>
    apply streak_step _ ih
    by_cases hk : k < os.length
    · exact hkept k hk
    · exact countKept_of_length_le (by omega)

/-- Once there is an active interface, it is the current one of every check that gets so far. -/
theorem currentAt_of_active (hactive : (stateAt w os k).activeInterface ≠ "") {interface : String}
    (h : interface ∈ healthyAt w os k) : currentAt w os k = (stateAt w os k).activeInterface := by
  rw [healthyAt] at h
  rw [currentAt]
  cases ho : os[k]? with
  | none =>
    rw [ho] at h
    exact absurd h List.not_mem_nil
  | some o =>
    rw [ho, Option.map_some, Option.getD_some, healthyIn] at h
    rw [Option.bind_some]
    cases hd : diagnosed w o with
    | none =>
      rw [hd] at h
      exact absurd h List.not_mem_nil
    | some diagnostics =>
      show currentInterface w (stateAt w os k) o diagnostics = _
      rw [currentInterface, if_pos hactive]

/-- A healthy interface is given up only for the preferred one, when two checks were counted
    before. -/
theorem Preempts.counted (h : Preempts w os k) :
    currentAt w os k ∈ healthyAt w os k ∧ preferredAt w os k ≠ "" ∧
      preferredAt w os k ≠ currentAt w os k ∧
      2 ≤ (stateAt w os k).consecutivePreferredSuccesses ∧
      (stateAt w os (k + 1)).activeInterface = preferredAt w os k := by
  obtain ⟨hactive, hhealthy, hmoved⟩ := h
  -- a check that raised has moved nothing
  rcases stateAt_cases w os k with ⟨hstate, -⟩ | hselected
  · rw [hstate] at hmoved
    exact absurd rfl hmoved
  · obtain ⟨o, diagnostics, chosen, count, r, hcandidate, hselected, hchecked⟩ := hselected
    have hcurrent := currentAt_of_active hactive hhealthy
    have hmem : currentAt w os k ∈ healthyAt w os k := hcurrent.symm ▸ hhealthy
    have hnext := hchecked.active
    rw [← hcurrent] at hmoved hactive
    -- the candidate is another interface
    have hchosen : (stateAt w os (k + 1)).activeInterface = chosen ∧ chosen ≠ currentAt w os k := by
      cases hselected with
      | switched _ hne _ => exact ⟨hnext, hne⟩
      | refused _ _ _ => exact absurd hnext hmoved
      | lost hempty hne => exact ⟨hnext.trans hempty.symm, fun h => hne (h.symm.trans hempty)⟩
      | kept _ => exact absurd hnext hmoved
    -- the current interface is healthy, so only a preferred one can take its place, and the third
    rcases candidate_cases (healthyAt w os k) (currentAt w os k)
      (stateAt w os k).consecutivePreferredSuccesses with
      ⟨hcase, -⟩ | ⟨-, hpreferred, hother, hcase⟩ | ⟨-, hcase⟩
    · exact absurd hmem hcase
    · rw [hcase] at hcandidate
      have hif := (Prod.mk.inj hcandidate).1
      split at hif
      · next hthree =>
        exact ⟨hmem, hpreferred, hother, by omega, hchosen.1.trans hif.symm⟩
      · exact absurd hif.symm hchosen.2
    · rw [hcase] at hcandidate
      exact absurd (Prod.mk.inj hcandidate).1.symm hchosen.2

/-- In a run in which every count is continued only for the interface it was made for, a check
    moves the active interface away from a healthy one only to one that was healthy in that check
    and in the two before it. -/
theorem preempted_after_three (w : NetworkWatchdog) (os : List Observation)
    (hkept : ∀ k < os.length, CountKept w os k) (k : Nat) (h : Preempts w os k) :
    Recovered w os k (stateAt w os (k + 1)).activeInterface := by
  obtain ⟨hcurrent, hpreferred, hother, htwo, hnext⟩ := h.counted
  have hstreak := streak_of_countKept hkept k
  have hk : k < os.length := by
    by_contra hle
    rw [healthyAt, List.getElem?_eq_none (by omega)] at hcurrent
    exact absurd hcurrent List.not_mem_nil
  have hlast : preferredAt w os k = preferredAt w os (k - 1) :=
    hkept k hk (by omega) hcurrent hother
  rw [hnext]
  refine ⟨Nat.le_trans htwo hstreak.1, fun j hle hjk => ?_⟩
  -- in all three checks the same interface is preferred, and what is preferred is healthy
  have hsame : preferredAt w os j = preferredAt w os k := by
    by_cases heq : j = k
    · rw [heq]
    · rw [hlast] at hpreferred ⊢
      exact hstreak.2 hpreferred j (by omega) (by omega)
  rw [← hsame] at hpreferred ⊢
  exact headD_mem hpreferred

end Runs

/-- A site with three uplinks, of which the last has the best route. -/
def site : NetworkWatchdog := ⟨["eth0", "wlan0", "wwan0"], .obj [], ["8.8.8.8"], true⟩

/-- A check of it in which only the `i`-th interfaces, for `i` in `up`, reply. -/
def siteCheck (up : List Nat) : Observation where
  routes := [("eth0", 100), ("wlan0", 600), ("wwan0", 50)]
  physicalUp := fun _ => some true
  ping := fun i _ => if i ∈ up then .replied else .silent
  profile := some ("uuid", -1)
  helper := true
  restoreProfile := fun _ => some ("uuid", -1)
  restoreHelper := fun _ => true

/-- The first interface comes back for three checks. -/
theorem preempted_after_three_wifi :
    (∀ k < 4, CountKept site (List.map siteCheck [[2], [1, 2], [1, 2], [1, 2]]) k) ∧
      Preempts site (List.map siteCheck [[2], [1, 2], [1, 2], [1, 2]]) 3 ∧
      Recovered site (List.map siteCheck [[2], [1, 2], [1, 2], [1, 2]]) 3
        (stateAt site (List.map siteCheck [[2], [1, 2], [1, 2], [1, 2]]) 4).activeInterface :=
  ⟨by decide, by decide, preempted_after_three _ _ (by decide) _ (by decide)⟩

/-- Two checks in which Wi-Fi is the better interface count for Ethernet, which takes over in the
    first check in which it is healthy. -/
theorem preempted_at_once :
    Preempts site (List.map siteCheck [[2], [1, 2], [1, 2], [0, 1, 2]]) 3 ∧
      (stateAt site (List.map siteCheck [[2], [1, 2], [1, 2], [0, 1, 2]]) 4).activeInterface =
        "eth0" ∧
      "eth0" ∉ healthyAt site (List.map siteCheck [[2], [1, 2], [1, 2], [0, 1, 2]]) 2 ∧
      "eth0" ∉ healthyAt site (List.map siteCheck [[2], [1, 2], [1, 2], [0, 1, 2]]) 1 ∧
      ¬ Recovered site (List.map siteCheck [[2], [1, 2], [1, 2], [0, 1, 2]]) 3 "eth0" := by
  refine ⟨by decide, by decide, by decide, by decide, fun h => ?_⟩
  have hbefore := h.2 2 (by decide) (by decide)
  exact absurd hbefore (by decide)

/-! ## Claiming a failover -/

/-- An interface of the watchdog that has a default route and is an uplink. -/
def RoutedUplink (w : NetworkWatchdog) (o : Observation) (interface : String) : Prop :=
  interface ∈ w.interfaces ∧ o.routes.contains interface = true ∧ w.Uplink o interface

/-- An uplink with a route is listed. -/
theorem RoutedUplink.mem {w : NetworkWatchdog} {o : Observation}
    {diagnostics : Dict String Diagnostic} (h : diagnosed w o = some diagnostics)
    {interface : String} (hup : RoutedUplink w o interface) :
    interface ∈ routedUplinks w o diagnostics := by
  obtain ⟨hin, hrouted, hup⟩ := hup
  have huplink := hup.hasUplink h hin
  refine List.mem_filter.mpr ⟨hin, ?_⟩
  rw [hrouted, huplink]
  rfl

/-- The check set the metric of the interface that is active after it. -/
def ChangedMetric (r : Watched) : Prop :=
  ∃ uuid metric, .setMetric r.state.activeInterface uuid metric ∈ r.actions

/-- The metrics after a check: the active interface has what was set for it, an interface that
    got its metric back has none below the one before, and the others keep theirs. -/
structure MetricsAfter (o : Observation) (r : Watched) (metric : String → Int) : Prop where
  selected : ∀ uuid m, .setMetric r.state.activeInterface uuid m ∈ r.actions →
    metric r.state.activeInterface = m
  restored : ∀ i uuid m, i ≠ r.state.activeInterface → .setMetric i uuid m ∈ r.actions →
    metricOf o i ≤ metric i
  kept : ∀ i, (∀ uuid m, .setMetric i uuid m ∉ r.actions) → metric i = metricOf o i

/-- The metric change that an interface needs is not permitted, or it fails. -/
def Blocked (w : NetworkWatchdog) (o : Observation) (diagnostics : Dict String Diagnostic)
    (interface : String) : Prop :=
  w.active = false ∨ (∃ m ∈ otherMetrics w o diagnostics interface, m ≤ 0) ∨ o.profile = none ∨
    o.helper = false

/-- What a check with an active interface says about a failover. -/
structure FailoverSound (w : NetworkWatchdog) (s : WatchdogState) (o : Observation)
    (r : Watched) : Prop where
  probed : r.state.activeInterface ≠ s.activeInterface → r.state.activeInterface ≠ "" →
    r.state.activeInterface ∈ healthyIn w o
  lowest : r.state.activeInterface ≠ s.activeInterface → r.state.activeInterface ≠ "" →
    ∀ metric, MetricsAfter o r metric → ∀ i, RoutedUplink w o i →
      i ≠ r.state.activeInterface → metric r.state.activeInterface < metric i
  nonnegative : r.state.activeInterface ≠ s.activeInterface → r.state.activeInterface ≠ "" →
    ∀ metric, MetricsAfter o r metric →
      ChangedMetric r ∨ 0 ≤ metricOf o r.state.activeInterface →
        0 ≤ metric r.state.activeInterface
  refused : ∀ diagnostics chosen count, diagnosed w o = some diagnostics →
    candidate (healthy w diagnostics) s.activeInterface s.consecutivePreferredSuccesses =
      (chosen, count) →
    chosen ≠ "" → chosen ≠ s.activeInterface → needsMetric w o diagnostics chosen = true →
    Blocked w o diagnostics chosen → r.state.activeInterface = s.activeInterface
  counted : r.state.failoverCount = s.failoverCount + 1 ∧
      r.state.activeInterface ≠ s.activeInterface ∧ ChangedMetric r ∨
    r.state.failoverCount = s.failoverCount ∧
      ¬ (r.state.activeInterface ≠ s.activeInterface ∧ ChangedMetric r)

/-- And so is its metric. -/
theorem RoutedUplink.metric_mem {w : NetworkWatchdog} {o : Observation}
    {diagnostics : Dict String Diagnostic} (h : diagnosed w o = some diagnostics)
    {interface chosen : String} (hup : RoutedUplink w o interface) (hne : interface ≠ chosen) :
    metricOf o interface ∈ otherMetrics w o diagnostics chosen := by
  rw [otherMetrics]
  apply List.mem_map_of_mem
  exact List.mem_filter.mpr ⟨hup.mem h, decide_eq_true hne⟩

/-- Where no change is needed the metric is below the others. -/
theorem lt_of_unneeded {w : NetworkWatchdog} {o : Observation}
    {diagnostics : Dict String Diagnostic} {chosen : String}
    (h : needsMetric w o diagnostics chosen = false) {m : Int}
    (hm : m ∈ otherMetrics w o diagnostics chosen) : metricOf o chosen < m := by
  rw [needsMetric] at h
  cases hbest : (otherMetrics w o diagnostics chosen).min? with
  | none =>
    rw [List.min?_eq_none_iff.mp hbest] at hm
    exact absurd hm List.not_mem_nil
  | some best =>
    rw [hbest, Option.any_some, decide_eq_false_iff_not] at h
    have hle := (List.min?_eq_some_iff.mp hbest).2 m hm
    omega

/-- No metric of another interface becomes smaller. -/
theorem MetricsAfter.le {o : Observation} {r : Watched} {metric : String → Int}
    (h : MetricsAfter o r metric) {i : String} (hi : i ≠ r.state.activeInterface) :
    metricOf o i ≤ metric i := by
  by_cases hset : ∃ uuid m, .setMetric i uuid m ∈ r.actions
  · obtain ⟨uuid, m, hset⟩ := hset
    exact h.restored i uuid m hi hset
  · have hkept := h.kept i fun uuid m hm => hset ⟨uuid, m, hm⟩
    omega

/-- The probes set no metric, and the restoring none of the active interface. -/
theorem Checked.mem_setMetric {selected checked : Watched} (h : Checked selected checked)
    {uuid : String} {m : Int} :
    .setMetric checked.state.activeInterface uuid m ∈ checked.actions ↔
      .setMetric selected.state.activeInterface uuid m ∈ selected.actions := by
  obtain ⟨probes, extra, hactions, hprobes, hextra⟩ := h.actions
  rw [h.active, hactions, List.mem_append, List.mem_append]
  constructor
  · rintro ((hm | hm) | hm)
    · obtain ⟨interface, target, hping⟩ := hprobes _ hm
      cases hping
    · exact hm
    · exact absurd rfl (hextra _ hm)
  · exact fun hm => .inl (.inr hm)

/-- What the rest of a check does changes no more metrics. -/
theorem Checked.changedMetric {selected checked : Watched} (h : Checked selected checked) :
    ChangedMetric checked ↔ ChangedMetric selected := by
  simp only [ChangedMetric, h.mem_setMetric]

/-- What a successful preparation did. -/
theorem Prepared.success {w : NetworkWatchdog} {o : Observation}
    {diagnostics : Dict String Diagnostic} {chosen : String}
    {original original' : Dict String (String × Int)} {actions : List NetAction}
    (h : Prepared w o diagnostics chosen original (actions, true, original')) :
    (needsMetric w o diagnostics chosen = false ∧ actions = [] ∧ original' = original) ∨
      ∃ best uuid before, (otherMetrics w o diagnostics chosen).min? = some best ∧ 0 < best ∧
        o.profile = some (uuid, before) ∧ actions = [.setMetric chosen uuid (best - 1)] ∧
        original' =
          if original.contains chosen then original else original.set chosen (uuid, before) := by
  cases h with
  | unneeded hneeds => exact .inl ⟨hneeds, rfl, rfl⟩
  | changed _ hbest hpos _ hprofile _ => exact .inr ⟨_, _, _, hbest, hpos, hprofile, rfl, rfl⟩

/-- The metric of a new active interface is the one it had, or one less than the best other. -/
theorem MetricsAfter.selected_eq {w : NetworkWatchdog} {o : Observation}
    {diagnostics : Dict String Diagnostic} {original : Dict String (String × Int)}
    {r checked : Watched} {metric : String → Int} (h : MetricsAfter o checked metric)
    (hchecked : Checked r checked)
    (hprepared : Prepared w o diagnostics checked.state.activeInterface original
      (r.actions, true, r.state.originalMetrics)) :
    (needsMetric w o diagnostics checked.state.activeInterface = false ∧
        ¬ ChangedMetric checked ∧
        metric checked.state.activeInterface = metricOf o checked.state.activeInterface) ∨
      ∃ best,
        (otherMetrics w o diagnostics checked.state.activeInterface).min? = some best ∧
          0 < best ∧ metric checked.state.activeInterface = best - 1 := by
  -- the metric was low enough already, or it was set below all others
  rcases hprepared.success with ⟨hneeds, hactions, -⟩ | ⟨best, uuid, _, hbest, hpos, -, hactions, -⟩
  · left
    have hunset : ∀ uuid m,
        .setMetric checked.state.activeInterface uuid m ∉ checked.actions := by
      intro uuid m hm
      rw [hchecked.mem_setMetric, hactions] at hm
      exact absurd hm List.not_mem_nil
    have hunchanged : ¬ ChangedMetric checked := by
      rintro ⟨uuid, m, hm⟩
      exact hunset uuid m hm
    exact ⟨hneeds, hunchanged, h.kept _ hunset⟩
  · right
    refine ⟨best, hbest, hpos, h.selected uuid (best - 1) ?_⟩
    rw [hchecked.mem_setMetric, hactions, hchecked.active]
    exact List.mem_cons_self

section Claimed

variable {w : NetworkWatchdog} {s : WatchdogState} {o : Observation}
  {diagnostics : Dict String Diagnostic} {chosen : String} {count : Nat} {r : Watched}

/-- A new active interface is the candidate, and its metric was changed or needed no change. -/
theorem Selected.moved (h : Selected w s o diagnostics s.activeInterface chosen count r)
    (hmoved : r.state.activeInterface ≠ s.activeInterface)
    (hsome : r.state.activeInterface ≠ "") :
    chosen ≠ "" ∧ chosen ≠ s.activeInterface ∧ r.state.activeInterface = chosen ∧
      Prepared w o diagnostics chosen s.originalMetrics
        (r.actions, true, r.state.originalMetrics) := by
  cases h with
  | switched hchosen hcurrent hprepared => exact ⟨hchosen, hcurrent, rfl, hprepared⟩
  | refused => exact absurd rfl hmoved
  | lost => exact absurd rfl hsome
  | kept => exact absurd rfl hmoved

/-- The failovers are counted. -/
theorem Selected.counted (h : Selected w s o diagnostics s.activeInterface chosen count r)
    (hactive : s.activeInterface ≠ "") :
    r.state.failoverCount = s.failoverCount + 1 ∧
        r.state.activeInterface ≠ s.activeInterface ∧ ChangedMetric r ∨
      r.state.failoverCount = s.failoverCount ∧
        ¬ (r.state.activeInterface ≠ s.activeInterface ∧ ChangedMetric r) := by
  -- `failover_count` is raised where a metric was changed for a switch, and nowhere else
  cases h with
  | switched hchosen hcurrent hprepared =>
    cases hprepared with
    | unneeded hneeds =>
      right
      constructor
      · simp [hneeds]
      · rintro ⟨_, uuid, m, hm⟩
        exact absurd hm List.not_mem_nil
    | @changed best before uuid hneeds hbest hpos hon hprofile hhelper =>
      left
      refine ⟨?_, hcurrent, uuid, best - 1, List.mem_cons_self⟩
      simp [hneeds, hactive]
  | refused => exact .inr ⟨rfl, fun h => h.1 rfl⟩
  | lost =>
    refine .inr ⟨rfl, ?_⟩
    rintro ⟨_, uuid, m, hm⟩
    exact absurd hm List.not_mem_nil
  | kept => exact .inr ⟨rfl, fun h => h.1 rfl⟩

/-- A change that is needed and blocked is not made. -/
theorem Selected.blocked (h : Selected w s o diagnostics s.activeInterface chosen count r)
    (hchosen : chosen ≠ "") (hneeds : needsMetric w o diagnostics chosen = true)
    (hblocked : Blocked w o diagnostics chosen) :
    r.state.activeInterface = s.activeInterface := by
  cases h with
  | switched _ _ hprepared =>
    exfalso
    cases hprepared with
    | unneeded hneeds' => exact absurd (hneeds.symm.trans hneeds') (by decide)
    | changed _ hbest hpos hactive hprofile hhelper =>
      rcases hblocked with hoff | ⟨m, hm, hle⟩ | hnone | hfails
      · exact absurd (hactive.symm.trans hoff) (by decide)
      · have hbelow := (List.min?_eq_some_iff.mp hbest).2 m hm
        omega
      · rw [hprofile] at hnone
        cases hnone
      · exact absurd (hhelper.symm.trans hfails) (by decide)
  | refused => rfl
  | lost hempty => exact absurd hempty hchosen
  | kept => rfl

end Claimed

/-- A check that ends with another active interface had it pass its probe, and leaves it with the
    strictly lowest metric of the routed uplinks; the metric is not negative if it was set, or was
    not negative in the routing table. Where the change it needs is blocked the active interface
    stays, and failovers are counted where a metric was changed. -/
theorem failover_claimed (w : NetworkWatchdog) (s : WatchdogState) (o : Observation)
    (hactive : s.activeInterface ≠ "") : FailoverSound w s o (checkNetwork w s o) := by
  cases hd : diagnosed w o with
  | none =>
    -- the check is cut short and changes nothing
    obtain ⟨probes, -, hcheck⟩ := checkNetwork_of_raise hd s
    have hstate : (checkNetwork w s o).state = s := by rw [hcheck]
    have hsame : (checkNetwork w s o).state.activeInterface = s.activeInterface := by rw [hstate]
    exact {
      probed := fun hmoved => absurd hsame hmoved
      lowest := fun hmoved => absurd hsame hmoved
      nonnegative := fun hmoved => absurd hsame hmoved
      refused := fun _ _ _ _ _ _ _ _ _ => hsame
      counted := .inr ⟨by rw [hstate], fun h => h.1 hsame⟩ }
  | some diagnostics =>
    have hchecked := checkNetwork_checked hd s
    have hcurrent : currentInterface w s o diagnostics = s.activeInterface := by
      rw [currentInterface, if_pos hactive]
    generalize hcandidate : candidate (healthy w diagnostics) s.activeInterface
      s.consecutivePreferredSuccesses = choice
    obtain ⟨chosen, count⟩ := choice
    have hselected := select_selected (hcurrent.symm ▸ hcandidate)
    rw [hcurrent] at hselected
    generalize checkNetwork w s o = checked at hchecked
    generalize (select w s o diagnostics).1 = r at hchecked hselected
    -- what holds of a new active interface
    have hnew : checked.state.activeInterface ≠ s.activeInterface →
        checked.state.activeInterface ≠ "" →
        chosen ≠ "" ∧ chosen ≠ s.activeInterface ∧ checked.state.activeInterface = chosen ∧
          Prepared w o diagnostics chosen s.originalMetrics
            (r.actions, true, r.state.originalMetrics) := by
      rw [hchecked.active]
      exact hselected.moved
    -- nothing was counted
    exact {
      probed := by
        intro hmoved hsome
        obtain ⟨hchosen, hne, hnext, -⟩ := hnew hmoved hsome
        rw [hnext, healthyIn, hd]
        exact candidate_healthy hcandidate hchosen hne
      lowest := by
        intro hmoved hsome metric hafter i hup hi
        obtain ⟨-, -, hnext, hprepared⟩ := hnew hmoved hsome
        rw [← hnext] at hprepared
        have hle := hafter.le hi
        have hmem := hup.metric_mem hd hi
        rcases hafter.selected_eq hchecked hprepared with ⟨hneeds, -, heq⟩ | ⟨best, hbest, -, heq⟩
        · have hlt := lt_of_unneeded hneeds hmem
          omega
        · have hbelow := (List.min?_eq_some_iff.mp hbest).2 _ hmem
          omega
      nonnegative := by
        intro hmoved hsome metric hafter hor
        obtain ⟨-, -, hnext, hprepared⟩ := hnew hmoved hsome
        rw [← hnext] at hprepared
        -- without a change the metric is the one that was read
        rcases hafter.selected_eq hchecked hprepared with ⟨-, hunset, heq⟩ | ⟨best, -, hpos, heq⟩
        · have hroute := hor.resolve_left hunset
          omega
        · omega
      refused := by
        intro diagnostics' chosen' count' hd' hcandidate' hchosen _ hneeds hblocked
        obtain rfl := Option.some.inj (hd.symm.trans hd')
        obtain ⟨rfl, rfl⟩ := Prod.mk.inj (hcandidate.symm.trans hcandidate')
        rw [hchecked.active]
        exact hselected.blocked hchosen hneeds hblocked
      counted := by
        rw [hchecked.failovers, hchecked.active, hchecked.changedMetric]
        exact hselected.counted hactive }

/-- Ethernet is active and fails its probe; Wi-Fi passes it and gets a lower metric. -/
theorem failover_claimed_wifi :
    (checkNetwork site { init with activeInterface := "eth0" }
        (siteCheck [1])).state.activeInterface = "wlan0" ∧
      FailoverSound site { init with activeInterface := "eth0" } (siteCheck [1])
        (checkNetwork site { init with activeInterface := "eth0" } (siteCheck [1])) :=
  ⟨by decide, failover_claimed _ _ _ (by decide)⟩

/-- A check in which the routing table gives Wi-Fi a negative metric. -/
def negativeCheck : Observation :=
  { siteCheck [1] with routes := [("eth0", 5), ("wlan0", -1)] }

/-- Wi-Fi needs no change there, and is the active interface with the negative metric. -/
theorem failover_to_negative :
    (checkNetwork site { init with activeInterface := "eth0" }
        negativeCheck).state.activeInterface = "wlan0" ∧
      ∃ metric, MetricsAfter negativeCheck
          (checkNetwork site { init with activeInterface := "eth0" } negativeCheck) metric ∧
        ¬ 0 ≤ metric "wlan0" := by
  have hactions : (checkNetwork site { init with activeInterface := "eth0" }
      negativeCheck).actions = [.ping "eth0" "8.8.8.8", .ping "wlan0" "8.8.8.8"] := by decide
  refine ⟨by decide, metricOf negativeCheck, ⟨?_, ?_, fun _ _ => rfl⟩, by decide⟩
  · intro uuid m hm
    rw [hactions] at hm
    simp at hm
  · intro i uuid m _ _
    exact Int.le_refl _

end NetworkWatchdog

end Novena
