import NovenaGateway.Spec.AtMostOnce

/-!
# The control epoch never goes back

`install_policy` replaces the policy file first and anchors the bundle's epoch in the command
journal afterwards, and it refuses only what is below the anchor. A restart reads the two files
independently. As long as the anchor on disk has caught up with the retained policy whenever the
process dies, the anchor stays at or above the loaded epoch, and the epoch never goes back.

Key results:
- `RpcState.controlEpoch_le`
- `RpcState.controlEpoch_goes_back`
-/

namespace Novena

namespace GovernedCommandGuard

variable {cfg : GuardConfig} {g : GovernedCommandGuard}

/-! ## One installation -/

/-- What a checked bundle is. -/
theorem checkPolicy_ok {wire payload : Json} {epoch : Int}
    (h : checkPolicy cfg g wire = .ok (payload, epoch)) :
    wire.item "payload" = .ok payload ∧ loadPolicy cfg (some wire) = .ok payload ∧
      (∃ fields, payload = .obj fields ∧ fields ≠ []) ∧
      (∃ x, payload.getD "control_epoch" (.int 0) = .ok x ∧ x.toInt = .ok epoch) ∧
      g.journal.maxEpoch ≤ epoch := by
  obtain ⟨bundle, rfl⟩ : ∃ bundle, wire = .obj bundle := by
    cases wire with
    | obj bundle => exact ⟨bundle, rfl⟩
    | _ => cases h
  simp only [checkPolicy, Except.bind_eq_ok, require_eq_ok] at h
  obtain ⟨_, hsigned, payload', hpayload, _, _, _, _, version, hversion, _, hone, serial,
    hserial, _, htarget, x, hx, epoch', hepoch, _, hanchor, h⟩ := h
  simp only [Except.pure_eq_ok, Prod.mk.injEq] at h
  obtain ⟨rfl, rfl⟩ := h
  refine ⟨hpayload, ?_, ?_, ⟨x, hx, hepoch⟩, by simpa using hanchor⟩
  · simp only [loadPolicy, hsigned, hpayload, hserial, htarget, Except.ok_bind]
    rfl
  · obtain ⟨fields, rfl, hfield⟩ := Json.get_ok hversion
    refine ⟨fields, rfl, ?_⟩
    rintro rfl
    -- an empty payload has no schema version
    rw [hfield] at hone
    exact absurd hone (by decide)

/-- A policy is refused, or it is checked and installed. -/
theorem installPolicy_cases (cfg : GuardConfig) (g : GovernedCommandGuard) (wire : Json)
    (fileOk ok : Bool) :
    (g.installPolicy cfg wire fileOk ok).1 = g ∨
      ∃ payload epoch, checkPolicy cfg g wire = .ok (payload, epoch) ∧
        (g.installPolicy cfg wire fileOk ok).1 =
          { policy := payload, policyFile := some wire,
            journal := (g.journal.recordEpoch epoch ok).1 } := by
  unfold installPolicy
  split
  · exact .inl rfl
  · next payload epoch hcheck =>
    cases fileOk with
    | false => exact .inl rfl
    | true => exact .inr ⟨payload, epoch, hcheck, rfl⟩

/-- The loaded policy is that of the file, and its epoch is anchored. -/
structure Anchored (cfg : GuardConfig) (g : GovernedCommandGuard) : Prop where
  loaded : loadPolicy cfg g.policyFile = .ok g.policy
  epoch : ∃ e, g.controlEpoch = .ok (.int e) ∧ e ≤ g.journal.maxEpoch

/-- A bundle whose epoch is an integer. -/
def WholeEpoch (wire : Json) : Prop :=
  ∀ payload, wire.item "payload" = .ok payload →
    ∃ e, payload.getD "control_epoch" (.int 0) = .ok (.int e)

/-- An installation raises the epoch or leaves it, and anchors it. -/
theorem anchored_installPolicy {wire : Json} (h : Anchored cfg g) (hwhole : WholeEpoch wire)
    (fileOk ok : Bool) {e : Int} (he : g.controlEpoch = .ok (.int e)) :
    Anchored cfg (g.installPolicy cfg wire fileOk ok).1 ∧
      ∃ e', (g.installPolicy cfg wire fileOk ok).1.controlEpoch = .ok (.int e') ∧ e ≤ e' := by
  obtain hsame | ⟨payload, epoch, hcheck, hnew⟩ := installPolicy_cases cfg g wire fileOk ok
  · rw [hsame]
    exact ⟨h, e, he, le_refl e⟩
  · obtain ⟨hpayload, hloaded, ⟨fields, rfl, hnonempty⟩, ⟨x, hx, hepoch⟩, hanchor⟩ :=
      checkPolicy_ok hcheck
    obtain ⟨e', he'⟩ := hwhole _ hpayload
    have hxe : x = .int e' := Except.ok.inj (hx.symm.trans he')
    subst hxe
    have hee : e' = epoch := Except.ok.inj hepoch
    subst hee
    have heffective : ∀ journal, (GovernedCommandGuard.mk (.obj fields) (some wire)
        journal).controlEpoch = .ok (.int e') := by
      intro journal
      have htruthy : (Json.obj fields).truthy = true := by
        cases fields with
        | nil => exact absurd rfl hnonempty
        | cons => rfl
      simp only [controlEpoch, Json.orElse, htruthy, if_true]
      exact he'
    have hmax : (g.journal.recordEpoch e' ok).1.maxEpoch = max e' g.journal.state.maxEpoch := by
      simp only [DurableCommandJournal.recordEpoch, DurableCommandJournal.maxEpoch,
        DurableCommandJournal.persist_state]
    obtain ⟨e₀, he₀, hle⟩ := h.epoch
    have hee₀ : e = e₀ := by simpa using he.symm.trans he₀
    rw [hnew]
    refine ⟨⟨hloaded, e', heffective _, ?_⟩, e', heffective _, ?_⟩
    · rw [hmax]
      exact le_max_left _ _
    · calc e = e₀ := hee₀
        _ ≤ g.journal.maxEpoch := hle
        _ ≤ e' := hanchor

/-- A worker's record leaves policy and anchor alone. -/
theorem Marked.maxEpoch {job : Job} {g' : GovernedCommandGuard} {r : Py Unit}
    (h : g.Marked job g' r) : g'.policy = g.policy ∧ g'.policyFile = g.policyFile ∧
      g'.journal.maxEpoch = g.journal.maxEpoch := by
  obtain ⟨rfl, _⟩ | ⟨c, record, now, ok, _, _, _, rfl, _⟩ := h.write
  · exact ⟨rfl, rfl, rfl⟩
  · exact ⟨rfl, rfl, (g.journal.write_state c record now ok).2.1⟩

/-- A mark leaves the anchor and the epoch. -/
theorem Anchored.marked {job : Job} {g' : GovernedCommandGuard} {r : Py Unit}
    (h : Anchored cfg g) (hm : g.Marked job g' r) :
    Anchored cfg g' ∧ g'.controlEpoch = g.controlEpoch := by
  obtain ⟨hpolicy, hfile, hmax⟩ := hm.maxEpoch
  have hepoch : g'.controlEpoch = g.controlEpoch := by
    rw [controlEpoch, controlEpoch, hpolicy]
  refine ⟨⟨?_, ?_⟩, hepoch⟩
  · rw [hfile, hpolicy]
    exact h.loaded
  · rw [hepoch, hmax]
    exact h.epoch

end GovernedCommandGuard

namespace RpcState

open GovernedCommandGuard

variable {cfg : RpcConfig} {s s' : RpcState}

/-! ## Runs -/

/-- When the process dies, the anchor on disk has reached the epoch of the retained policy; and
    bundles carry integers. -/
def KeepsAnchor (s : RpcState) : Label → Prop
  | .crash => ∀ e, s.guard.controlEpoch = .ok (.int e) →
      e ≤ (DurableCommandJournal.load s.guard.journal.file).maxEpoch
  | .installPolicy wire _ _ => WholeEpoch wire
  | _ => True

/-- One step keeps the anchor and never lowers the epoch. -/
theorem anchored_step {a : Label} (h : Anchored cfg.guard s.guard) (hkept : s.KeepsAnchor a)
    (hreset : a.isReset = false) (hstep : step cfg s a = some s') {e : Int}
    (he : s.guard.controlEpoch = .ok (.int e)) :
    Anchored cfg.guard s'.guard ∧ ∃ e', s'.guard.controlEpoch = .ok (.int e') ∧ e ≤ e' := by
  have hsame : s'.guard = s.guard →
      Anchored cfg.guard s'.guard ∧ ∃ e', s'.guard.controlEpoch = .ok (.int e') ∧ e ≤ e' := by
    intro hguard
    rw [hguard]
    exact ⟨h, e, he, le_refl e⟩
  have hmarked : ∀ {job : Job} {guard : GovernedCommandGuard} {r : Py Unit},
      s.guard.Marked job guard r → s'.guard = guard →
      Anchored cfg.guard s'.guard ∧ ∃ e', s'.guard.controlEpoch = .ok (.int e') ∧ e ≤ e' := by
    rintro job guard r hm rfl
    obtain ⟨hanchored, hepoch⟩ := h.marked hm
    exact ⟨hanchored, e, hepoch.trans he, le_refl e⟩
  cases step_moves hstep with
  | quiet => exact hsame rfl
  | accept => exact hsame rfl
  | doomed => exact hsame rfl
  | lock => exact hsame rfl
  | advance => exact hsame rfl
  | call => exact hsame rfl
  | finish => exact hsame (by simp)
  | mark i w now ok guard r hw hpc hg hm => exact hmarked hm rfl
  | file a i w c guard hw hpc hg hm => exact hmarked hm rfl
  | unwind a i w x guard es hw hpc hes hguard =>
    obtain rfl | ⟨_, r, hm⟩ := hguard
    · exact hsame (by simp)
    · exact hmarked hm (by simp)
  | abort a i w x guard es hw hpc hes hguard =>
    obtain rfl | ⟨_, r, hm⟩ := hguard
    · exact hsame rfl
    · exact hmarked hm rfl
  | crash guard hinit =>
    -- the policy is read back as it is, the anchor as it was written
    simp only [GovernedCommandGuard.init, h.loaded, Except.map] at hinit
    obtain rfl := Except.ok.inj hinit
    exact ⟨⟨h.loaded, e, he, hkept e he⟩, e, he, le_refl e⟩
  | reset ok removed => cases hreset
  | policy wire fileOk ok => exact anchored_installPolicy h hkept fileOk ok he

/-- The control epoch never goes back: in every run without a claim reset in which the process dies
    only when the anchor on disk has reached the retained policy, a later state of the run has no
    lower effective epoch than an earlier one. -/
theorem controlEpoch_le {labels labels' : List Label} {s₁ s₂ : RpcState} (hboot : Booted cfg s)
    (hstart : ∃ e, s.guard.controlEpoch = .ok (.int e) ∧ e ≤ s.guard.journal.maxEpoch)
    (hreset : ∀ a ∈ labels ++ labels', a.isReset = false)
    (hkept : Run.Along (step cfg) KeepsAnchor s (labels ++ labels'))
    (h₁ : exec cfg s labels = some s₁) (h₂ : exec cfg s₁ labels' = some s₂) :
    ∃ e₁ e₂, s₁.guard.controlEpoch = .ok (.int e₁) ∧ s₂.guard.controlEpoch = .ok (.int e₂) ∧
      e₁ ≤ e₂ := by
  have hall := Run.Along.and_labels hkept hreset
  obtain ⟨policyFile, journalFile, guard, hinit, rfl⟩ := hboot
  have hloaded : loadPolicy cfg.guard guard.policyFile = .ok guard.policy := by
    simp only [GovernedCommandGuard.init, Except.map_eq_ok] at hinit
    obtain ⟨policy, hpolicy, rfl⟩ := hinit
    exact hpolicy
  have hanchored : Anchored cfg.guard s₁.guard :=
    Run.exec_invariant (I := fun s : RpcState => Anchored cfg.guard s.guard)
      (fun s a s' h hk hstep => by
        obtain ⟨e, he, _⟩ := h.epoch
        exact (anchored_step h hk.1 hk.2 hstep he).1)
      ⟨hloaded, hstart⟩ hall.of_append h₁
  obtain ⟨e₁, he₁, _⟩ := hanchored.epoch
  have hlater : Anchored cfg.guard s₂.guard ∧
      ∃ e₂, s₂.guard.controlEpoch = .ok (.int e₂) ∧ e₁ ≤ e₂ :=
    Run.exec_invariant (I := fun s : RpcState => Anchored cfg.guard s.guard ∧
        ∃ e, s.guard.controlEpoch = .ok (.int e) ∧ e₁ ≤ e)
      (fun s a s' h hk hstep => by
        obtain ⟨hs, e, he, hle⟩ := h
        obtain ⟨hs', e', he', hle'⟩ := anchored_step hs hk.1 hk.2 hstep he
        exact ⟨hs', e', he', hle.trans hle'⟩)
      ⟨hanchored, e₁, he₁, le_refl e₁⟩ (hall.of_append_right h₁) h₂
  obtain ⟨_, e₂, he₂, hle⟩ := hlater
  exact ⟨e₁, e₂, he₁, he₂, hle⟩

end RpcState

namespace PumpStation

/-- The station with a key that signs every bundle. -/
def signingConfig : RpcConfig :=
  { config with guard := { guardConfig with verifies := fun _ _ s => s.same signature } }

/-- The bundle of an epoch. -/
def policyAt (epoch : Int) : Json := .obj
  [("payload", .obj [("schema_version", .int 1), ("gateway_serial", .str "GW-001"),
     ("control_epoch", .int epoch), ("controls", .obj [("7:speed", speedControl)])]),
   ("checksum", .str "9f86d081"), ("signing_key_id", .str "key-1"), ("signature", signature)]

/-- The process that starts without a policy. -/
def unconfigured : RpcState where
  guard := { policy := .null, policyFile := none, journal := .init .missing }
  heldLocks := []
  workers := []
  nextId := 0
  trace := []

/-- The station without policy has booted. -/
theorem unconfigured_booted : RpcState.Booted signingConfig unconfigured :=
  ⟨none, .missing, _, rfl, rfl⟩

end PumpStation

namespace RpcState

open PumpStation

/-- An installation, a restart after it and the next installation. -/
theorem controlEpoch_le_restarted : ∃ s₁ s₂,
    exec signingConfig unconfigured [.installPolicy (policyAt 2) true true, .crash] = some s₁ ∧
    exec signingConfig s₁ [.installPolicy (policyAt 3) true true] = some s₂ ∧
    ∃ e₁ e₂, s₁.guard.controlEpoch = .ok (.int e₁) ∧ s₂.guard.controlEpoch = .ok (.int e₂) ∧
      e₁ ≤ e₂ := by
  have hrun : ∃ s₁ s₂,
      exec signingConfig unconfigured [.installPolicy (policyAt 2) true true, .crash] = some s₁ ∧
      exec signingConfig s₁ [.installPolicy (policyAt 3) true true] = some s₂ := ⟨_, _, rfl, rfl⟩
  have hwhole : ∀ epoch, GovernedCommandGuard.WholeEpoch (policyAt epoch) := by
    intro epoch payload hpayload
    obtain rfl := Except.ok.inj hpayload
    exact ⟨epoch, rfl⟩
  have hkept : Run.Along (step signingConfig) KeepsAnchor unconfigured
      ([.installPolicy (policyAt 2) true true, .crash] ++
        [.installPolicy (policyAt 3) true true]) := by
    refine ⟨hwhole 2, fun _ hinstall => ?_⟩
    obtain rfl := Option.some.inj hinstall
    -- the anchor was written right after the policy
    refine ⟨fun e he => ?_, fun _ _ => ⟨hwhole 3, fun _ _ => trivial⟩⟩
    obtain rfl : (2 : Int) = e := Json.int.inj (Except.ok.inj he)
    exact le_refl _
  obtain ⟨s₁, s₂, h₁, h₂⟩ := hrun
  exact ⟨s₁, s₂, h₁, h₂, controlEpoch_le unconfigured_booted ⟨0, rfl, le_refl _⟩ (by decide) hkept
    h₁ h₂⟩

/-- When the process dies between the two files, the older bundle is installed afterwards. -/
theorem controlEpoch_goes_back : Booted signingConfig unconfigured ∧ ∃ s₁ s₂,
    exec signingConfig unconfigured [.installPolicy (policyAt 2) true false, .crash] = some s₁ ∧
    exec signingConfig s₁ [.installPolicy (policyAt 1) true true] = some s₂ ∧
    s₁.guard.controlEpoch = .ok (.int 2) ∧ s₂.guard.controlEpoch = .ok (.int 1) :=
  ⟨unconfigured_booted, _, _, rfl, rfl, rfl, rfl⟩

end RpcState

end Novena
