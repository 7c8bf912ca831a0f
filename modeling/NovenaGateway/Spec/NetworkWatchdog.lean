import NovenaGateway.ForStd.Except
import NovenaGateway.Native.NetworkWatchdog
import NovenaGateway.Spec.JsonEquality

/-!
# The watchdog and the field networks

Every ping and every change of a metric is for an interface that is an uplink in the check that
makes it; what `stop` puts back was remembered in such a check. An interface configured as a field
network is never an uplink, whatever the routes are, so it is left alone in every run.

Key results:
- `NetworkWatchdog.checkNetwork_within`
- `NetworkWatchdog.checks_within`
- `NetworkWatchdog.field_untouched`
-/

namespace Novena

namespace NetworkWatchdog

/-! ## Roles -/

/-- The interface is an uplink under these routes. -/
def Uplink (w : NetworkWatchdog) (o : Observation) (interface : String) : Prop :=
  ∃ r reason, role w.roles interface o.routes = .ok (r, reason) ∧ isUplink r = true

/-- The configuration does not make the interface a field network. -/
def NotField (w : NetworkWatchdog) (interface : String) : Prop :=
  w.roles.field interface ≠ .str "field"

/-- Only one role is that of an uplink. -/
theorem isUplink_eq {r : Json} (h : isUplink r = true) : r = .str "uplink" := Json.eq_str h

/-- A configured role is the role, with or without a default route. -/
theorem Uplink.notField {w : NetworkWatchdog} {o : Observation} {interface : String}
    (h : w.Uplink o interface) : w.NotField interface := by
  obtain ⟨r, reason, hrole, hr⟩ := h
  intro hfield
  simp only [role, Except.bind_eq_ok] at hrole
  obtain ⟨configured, hget, hrole⟩ := hrole
  rw [Json.get_eq_field hget] at hfield
  rw [hfield, if_pos (by decide)] at hrole
  simp only [Except.pure_eq_ok, Prod.mk.injEq] at hrole
  rw [← hrole.1] at hr
  exact absurd hr (by decide)

/-- In one check an interface has one role. -/
theorem Uplink.role_ne {w : NetworkWatchdog} {o : Observation} {interface : String}
    (h : w.Uplink o interface) (reason : String) :
    role w.roles interface o.routes ≠ .ok (.str "field", reason) := by
  obtain ⟨r, reason', hrole, hr⟩ := h
  intro hfield
  rw [hrole, isUplink_eq hr] at hfield
  simp at hfield

/-! ## Probing -/

/-- An interface is pinged through itself. -/
theorem pingInterface_interface {outcome : String → PingOutcome} {interface : String}
    {targets : List String} {a : NetAction} (h : a ∈ (pingInterface outcome interface targets).1) :
    a.interface = interface := by
  induction targets with
  | nil => exact absurd h List.not_mem_nil
  | cons target targets ih =>
    simp only [pingInterface] at h
    -- the first answer ends the pings
    cases houtcome : outcome target with
    | replied =>
      rw [houtcome] at h
      rw [List.mem_singleton.mp h]
      rfl
    -- silence goes on to the next target
    | silent =>
      rw [houtcome] at h
      rcases List.mem_cons.mp h with rfl | h
      · rfl
      · exact ih h
    -- an exception ends them
    | raised =>
      rw [houtcome] at h
      rw [List.mem_singleton.mp h]
      rfl

/-- A diagnostic gives the role of the check, and only an uplink is probed. -/
structure Diagnostic.Sound (w : NetworkWatchdog) (o : Observation) (interface : String)
    (d : Diagnostic) : Prop where
  role : NetworkWatchdog.role w.roles interface o.routes = .ok (d.role, d.roleReason)
  probed : d.probeOk = some true → isUplink d.role = true

/-- What the diagnosis does is done to an uplink. -/
theorem diagnose_uplink {w : NetworkWatchdog} {o : Observation} {i : Nat} {interface : String}
    {a : NetAction} (h : a ∈ (diagnose w o i interface).1) : w.Uplink o a.interface := by
  simp only [diagnose] at h
  split at h
  · exact absurd h List.not_mem_nil
  · exact absurd h List.not_mem_nil
  · next r reason physical hrole _ =>
    split at h
    · next heligible =>
      simp only [Bool.and_eq_true] at heligible
      rw [pingInterface_interface h]
      exact ⟨r, reason, hrole, heligible.1.1⟩
    · exact absurd h List.not_mem_nil

/-- And its result is true of the interface. -/
theorem diagnose_sound {w : NetworkWatchdog} {o : Observation} {i : Nat} {interface : String}
    {d : Diagnostic} (h : (diagnose w o i interface).2 = some d) :
    Diagnostic.Sound w o interface d := by
  simp only [diagnose] at h
  split at h
  · cases h
  · cases h
  · next r reason physical hrole _ =>
    obtain ⟨probeOk, hprobe, rfl⟩ := Option.map_eq_some_iff.mp h
    refine ⟨hrole, fun hok => ?_⟩
    split at hprobe
    · next heligible =>
      simp only [Bool.and_eq_true] at heligible
      exact heligible.1.1
    · -- an interface that is not eligible has no probe
      rw [← Option.some.inj hprobe] at hok
      cases hok

/-- The diagnostics of a check that are there so far. -/
def Sound (w : NetworkWatchdog) (o : Observation) (diagnostics : Dict String Diagnostic) : Prop :=
  ∀ interface d, Dict.get? diagnostics interface = some d → Diagnostic.Sound w o interface d

/-- A sound diagnosis is added to sound ones. -/
theorem Sound.set {w : NetworkWatchdog} {o : Observation} {diagnostics : Dict String Diagnostic}
    (h : w.Sound o diagnostics) {interface : String} {d : Diagnostic}
    (hd : Diagnostic.Sound w o interface d) : w.Sound o (diagnostics.set interface d) := by
  intro i d' hget
  rcases Dict.of_get?_set hget with ⟨rfl, rfl⟩ | ⟨-, hold⟩
  · exact hd
  · exact h i d' hold

/-- So it is with all interfaces. -/
theorem diagnoseAll_uplink {w : NetworkWatchdog} {o : Observation} {i : Nat}
    {interfaces : List String} {diagnostics : Dict String Diagnostic} {a : NetAction}
    (h : a ∈ (diagnoseAll w o i interfaces diagnostics).1) : w.Uplink o a.interface := by
  induction interfaces generalizing i diagnostics with
  | nil => exact absurd h List.not_mem_nil
  | cons interface interfaces ih =>
    simp only [diagnoseAll] at h
    split at h
    · next hrun => exact diagnose_uplink (by rw [hrun]; exact h)
    · next hrun =>
      rcases List.mem_append.mp h with h | h
      · exact diagnose_uplink (by rw [hrun]; exact h)
      · exact ih h

/-- And with their results. -/
theorem diagnoseAll_sound {w : NetworkWatchdog} {o : Observation} {i : Nat}
    {interfaces : List String} {diagnostics diagnostics' : Dict String Diagnostic}
    (hsound : w.Sound o diagnostics)
    (h : (diagnoseAll w o i interfaces diagnostics).2 = some diagnostics') :
    w.Sound o diagnostics' := by
  induction interfaces generalizing i diagnostics with
  | nil => exact Option.some.inj h ▸ hsound
  | cons interface interfaces ih =>
    simp only [diagnoseAll] at h
    split at h
    · cases h
    · next hrun => exact ih (hsound.set (diagnose_sound (by rw [hrun]))) h

/-- A sound diagnosis that says uplink is one of an uplink. -/
theorem Sound.uplink {w : NetworkWatchdog} {o : Observation} {diagnostics : Dict String Diagnostic}
    (h : w.Sound o diagnostics) {interface : String} (hup : hasUplink diagnostics interface = true) :
    w.Uplink o interface := by
  simp only [hasUplink] at hup
  cases hget : Dict.get? diagnostics interface with
  | none =>
    rw [hget] at hup
    cases hup
  | some d =>
    rw [hget] at hup
    exact ⟨d.role, d.roleReason, (h interface d hget).role, hup⟩

/-- And a healthy interface is an uplink. -/
theorem Sound.healthy {w : NetworkWatchdog} {o : Observation} {diagnostics : Dict String Diagnostic}
    (h : w.Sound o diagnostics) {interface : String} (hin : interface ∈ healthy w diagnostics) :
    w.Uplink o interface := by
  have hok := (List.mem_filter.mp hin).2
  cases hget : Dict.get? diagnostics interface with
  | none =>
    rw [hget] at hok
    cases hok
  | some d =>
    rw [hget] at hok
    have hd := h interface d hget
    exact ⟨d.role, d.roleReason, hd.role, hd.probed (by simpa using hok)⟩

/-! ## Selecting -/

/-- Whoever takes over from the current interface is healthy. -/
theorem candidate_healthy {healthy : List String} {current chosen : String} {n n' : Nat}
    (h : candidate healthy current n = (chosen, n')) (hne : chosen ≠ "")
    (hcurrent : chosen ≠ current) : chosen ∈ healthy := by
  have hpreferred : healthy.headD "" ≠ "" → healthy.headD "" ∈ healthy := by
    cases healthy with
    | nil => exact fun h => absurd rfl h
    | cons i is => exact fun _ => List.mem_cons_self
  -- the current interface is not healthy, so the best one is chosen at once
  simp only [candidate] at h
  split at h
  · obtain ⟨rfl, -⟩ := Prod.mk.inj h
    exact hpreferred hne
  -- it is healthy, and a better one must have replied three times
  · split at h
    · next hbetter =>
      obtain ⟨hchosen, -⟩ := Prod.mk.inj h
      split at hchosen
      · exact hchosen ▸ hpreferred hbetter.1
      · exact absurd hchosen.symm hcurrent
    · exact absurd (Prod.mk.inj h).1.symm hcurrent

/-- The actions are for interfaces with `P`, and metrics are remembered for interfaces with `Q`. -/
structure Within (P Q : String → Prop) (r : Watched) : Prop where
  actions : ∀ a ∈ r.actions, P a.interface
  remembered : ∀ i, (Dict.get? r.state.originalMetrics i).isSome = true → Q i

/-- The result of a metric change: its actions are for the interface, and it is the only one that
    may be remembered besides those that were. -/
structure Changes (interface : String) (original : Dict String (String × Int))
    (r : List NetAction × Bool × Dict String (String × Int)) : Prop where
  actions : ∀ a ∈ r.1, a.interface = interface
  remembered : ∀ i, (Dict.get? r.2.2 i).isSome = true →
    (Dict.get? original i).isSome = true ∨ i = interface

/-- Nothing is changed. -/
theorem Changes.none (interface : String) (original : Dict String (String × Int))
    (success : Bool) : Changes interface original ([], success, original) :=
  ⟨fun _ ha => absurd ha List.not_mem_nil, fun _ hi => .inl hi⟩

/-- A new metric is one change of the interface, and it is remembered. -/
theorem setInterfaceMetric_changes (w : NetworkWatchdog) (o : Observation) (interface : String)
    (metric : Int) (original : Dict String (String × Int)) :
    Changes interface original (setInterfaceMetric w o interface metric original) := by
  -- the only action that is tried names its interface
  have hone : ∀ uuid, ∀ a ∈ [NetAction.setMetric interface uuid metric],
      a.interface = interface := by
    intro uuid a ha
    rw [List.mem_singleton.mp ha]
    rfl
  simp only [setInterfaceMetric]
  split
  · exact .none ..
  split
  · exact .none ..
  next uuid before _ =>
  split
  · refine ⟨hone uuid, fun i hi => ?_⟩
    -- the metric is remembered once
    by_cases hold : original.contains interface = true
    · rw [if_pos hold] at hi
      exact .inl hi
    · rw [if_neg hold, Dict.get?_set] at hi
      by_cases hii : i = interface
      · exact .inr hii
      · rw [if_neg hii] at hi
        exact .inl hi
  · exact ⟨hone uuid, fun _ hi => .inl hi⟩

/-- So are the changes for a candidate. -/
theorem prepareCandidate_changes (w : NetworkWatchdog) (o : Observation)
    (diagnostics : Dict String Diagnostic) (interface : String)
    (original : Dict String (String × Int)) :
    Changes interface original (prepareCandidate w o diagnostics interface original) := by
  simp only [prepareCandidate]
  split
  · exact .none ..
  split
  · exact .none ..
  split
  · exact setInterfaceMetric_changes ..
  · exact .none ..

/-- From the diagnostics to the active interface only a healthy one is changed. -/
theorem select_within {w : NetworkWatchdog} {s : WatchdogState} {o : Observation}
    {diagnostics : Dict String Diagnostic} (hsound : w.Sound o diagnostics)
    (hold : ∀ i, (Dict.get? s.originalMetrics i).isSome = true → w.NotField i) :
    Within (w.Uplink o) w.NotField (select w s o diagnostics).1 ∧
      w.Sound o (select w s o diagnostics).2 := by
  have hquiet : ∀ active successes, Within (w.Uplink o) w.NotField
      ⟨{ s with activeInterface := active, consecutivePreferredSuccesses := successes }, []⟩ :=
    fun _ _ => ⟨fun _ ha => absurd ha List.not_mem_nil, hold⟩
  simp only [select]
  generalize hchosen : candidate (healthy w diagnostics) (currentInterface w s o diagnostics)
    s.consecutivePreferredSuccesses = result
  obtain ⟨chosen, successes⟩ := result
  split
  · next hswitch =>
    have hup : w.Uplink o chosen :=
      hsound.healthy (candidate_healthy hchosen hswitch.1 hswitch.2)
    have hchange := prepareCandidate_changes w o diagnostics chosen s.originalMetrics
    generalize prepareCandidate w o diagnostics chosen s.originalMetrics = change at hchange
    obtain ⟨actions, success, original⟩ := change
    -- both outcomes take the same actions and remember the same metrics
    have hactions : ∀ a ∈ actions, w.Uplink o a.interface := fun a ha =>
      hchange.actions a ha ▸ hup
    have hremembered : ∀ i, (Dict.get? original i).isSome = true → w.NotField i := by
      intro i hi
      rcases hchange.remembered i hi with hi | rfl
      · exact hold i hi
      · exact hup.notField
    split
    · exact ⟨⟨hactions, hremembered⟩, hsound⟩
    · refine ⟨⟨hactions, hremembered⟩, ?_⟩
      split
      · next d hd => exact hsound.set ⟨(hsound chosen d hd).role, (hsound chosen d hd).probed⟩
      · exact hsound
  split
  · exact ⟨hquiet _ _, hsound⟩
  · exact ⟨hquiet _ _, hsound⟩

/-! ## Restoring -/

/-- A metric is put back only where one is remembered. -/
theorem Within.restore {P Q : String → Prop} {r : Watched} (h : Within P Q r) {interface : String}
    (hP : Q interface → P interface) (o : Observation) : Within P Q (restore o interface r) := by
  simp only [NetworkWatchdog.restore]
  split
  · next uuid metric profile hget _ =>
    split
    · constructor
      · intro a ha
        rcases List.mem_append.mp ha with ha | ha
        · exact h.actions a ha
        · rw [List.mem_singleton.mp ha]
          exact hP (h.remembered interface (by rw [hget]; rfl))
      · intro i hi
        refine h.remembered i ?_
        -- what is still remembered was remembered before
        by_cases hhelper : o.restoreHelper interface = true
        · rw [if_pos hhelper] at hi
          obtain ⟨x, hx⟩ := Option.isSome_iff_exists.mp hi
          rw [(Dict.of_get?_erase hx).2]
          rfl
        · rwa [if_neg hhelper] at hi
    · exact h
  · exact h

/-- Steps within some interfaces, one after the other. -/
theorem Within.foldl {P Q : String → Prop} {f : Watched → String → Watched}
    (hf : ∀ r i, Within P Q r → Within P Q (f r i)) {r : Watched} (h : Within P Q r)
    (interfaces : List String) : Within P Q (interfaces.foldl f r) := by
  induction interfaces generalizing r with
  | nil => exact h
  | cons i is ih => exact ih (hf r i h)

/-- Of the remembered metrics a check puts back those of uplinks. -/
theorem restoreUnselected_within {w : NetworkWatchdog} {o : Observation}
    {diagnostics : Dict String Diagnostic} (hsound : w.Sound o diagnostics) {r : Watched}
    (h : Within (w.Uplink o) w.NotField r) :
    Within (w.Uplink o) w.NotField (restoreUnselected o diagnostics r) := by
  refine Within.foldl (fun r i hr => ?_) h _
  split
  · next hgo => exact hr.restore (fun _ => hsound.uplink hgo.2) o
  · exact hr

/-- The metrics are restored where they were changed. -/
theorem restoreMetrics_within {w : NetworkWatchdog} {o : Observation} {r : Watched}
    (h : Within w.NotField w.NotField r) :
    Within w.NotField w.NotField (restoreMetrics w o r) := by
  rw [restoreMetrics]
  split
  · exact h
  · exact Within.foldl (fun r i hr => hr.restore id o) h _

/-! ## Runs -/

/-- One check acts on uplinks, and remembers no field network. -/
theorem checkNetwork_within {w : NetworkWatchdog} {s : WatchdogState}
    (hold : ∀ i, (Dict.get? s.originalMetrics i).isSome = true → w.NotField i) (o : Observation) :
    Within (w.Uplink o) w.NotField (checkNetwork w s o) := by
  have hprobes : ∀ a ∈ (diagnoseAll w o 0 w.interfaces []).1, w.Uplink o a.interface :=
    fun a ha => diagnoseAll_uplink ha
  have hsound : ∀ diagnostics, (diagnoseAll w o 0 w.interfaces []).2 = some diagnostics →
      w.Sound o diagnostics := by
    intro diagnostics h
    have hempty : w.Sound o [] := fun _ _ hd => by cases hd
    exact diagnoseAll_sound hempty h
  simp only [checkNetwork]
  generalize diagnoseAll w o 0 w.interfaces [] = probed at hprobes hsound
  obtain ⟨actions, diagnostics⟩ := probed
  cases diagnostics with
  | none => exact ⟨hprobes, hold⟩
  | some diagnostics =>
    obtain ⟨hselect, hsound'⟩ := select_within (hsound diagnostics rfl) hold
    have hrestored := restoreUnselected_within hsound' hselect
    refine ⟨fun a ha => ?_, hrestored.remembered⟩
    rcases List.mem_append.mp ha with ha | ha
    · exact hprobes a ha
    · exact hrestored.actions a ha

/-- And so do all of them. -/
theorem checks_within {w : NetworkWatchdog} {s : WatchdogState}
    (hold : ∀ i, (Dict.get? s.originalMetrics i).isSome = true → w.NotField i)
    (os : List Observation) : Within w.NotField w.NotField (checks w s os) := by
  induction os generalizing s with
  | nil => exact ⟨fun _ ha => absurd ha List.not_mem_nil, hold⟩
  | cons o os ih =>
    have hcheck := checkNetwork_within hold o
    have hrest := ih hcheck.remembered
    refine ⟨fun a ha => ?_, hrest.remembered⟩
    rcases List.mem_append.mp ha with ha | ha
    · exact (hcheck.actions a ha).notField
    · exact hrest.actions a ha

/-- And so they are at the end. -/
theorem stop_within {w : NetworkWatchdog} {s : WatchdogState}
    (hold : ∀ i, (Dict.get? s.originalMetrics i).isSome = true → w.NotField i) (o : Observation)
    (running : Bool) : Within w.NotField w.NotField (stop w s o running) := by
  have hstart : Within w.NotField w.NotField ⟨s, []⟩ :=
    ⟨fun _ ha => absurd ha List.not_mem_nil, hold⟩
  rw [stop]
  split
  · exact hstart
  · exact restoreMetrics_within hstart

/-- At the beginning nothing is remembered. -/
theorem not_remembered_init (w : NetworkWatchdog) :
    ∀ i, (Dict.get? init.originalMetrics i).isSome = true → w.NotField i :=
  fun _ hi => absurd hi Bool.false_ne_true

/-- No ping and no metric change is ever for an interface configured as a field network, in any
    number of checks and the stop after them; and within one check none is for an interface that
    has the role of a field network in it. -/
theorem field_untouched (w : NetworkWatchdog) (os : List Observation) (atStop : Observation)
    (running : Bool) :
    (∀ a ∈ (lifetime w os atStop running).actions, w.roles.field a.interface ≠ .str "field") ∧
      ∀ before o after, os = before ++ o :: after →
        ∀ a ∈ (checkNetwork w (checks w init before).state o).actions, ∀ reason,
          role w.roles a.interface o.routes ≠ .ok (.str "field", reason) := by
  constructor
  · have hchecks := checks_within (not_remembered_init w) os
    intro a ha
    rcases List.mem_append.mp ha with ha | ha
    · exact hchecks.actions a ha
    · exact (stop_within hchecks.remembered atStop running).actions a ha
  · intro before o after _ a ha reason
    have hchecks := checks_within (not_remembered_init w) before
    exact ((checkNetwork_within hchecks.remembered o).actions a ha).role_ne reason

end NetworkWatchdog

end Novena
