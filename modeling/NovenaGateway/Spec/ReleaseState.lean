import NovenaGateway.Spec.BootConfig

/-!
# The three copies of the release state agree

That a release is pending is said by the flag of the publisher, by the mode in `config.json` and
by the mode in the configuration the gateway holds. A release and the erasure of its credentials
keep the three together however they end. A change of credentials writes `operational` into the
file and touches the other two under conditions of their own, so while a release is pending only
the activation of another claim, completed, keeps them together.

Key results:
- `Machine.agrees_of_run`
- `Machine.agrees_rotated_iff`
- `Machine.rotation_disagrees`
-/

namespace Novena

namespace Provision

/-! ## The mode a rewrite leaves -/

/-- An edit of the section `mqtt` leaves the mode it puts there. -/
theorem releasePending_editMqtt {config config' : Json} {edit : Dict String Json → Dict String Json}
    (h : editMqtt config edit = .ok config') :
    ∃ fields mqtt, config = .obj fields ∧ Dict.get? fields "mqtt" = some (.obj mqtt) ∧
      releasePending config' =
        .ok (((Dict.get? (edit mqtt) "mode").getD .null).eq (.str "release_pending")) := by
  obtain ⟨fields, mqtt, rfl, hmqtt, rfl⟩ := editMqtt_ok h
  exact ⟨fields, mqtt, rfl, hmqtt, releasePending_obj (Dict.get?_set_self _ _ _)⟩

/-- A released configuration says that a release is pending. -/
theorem releasePending_released {config config' : Json} (h : releasedConfig config = .ok config') :
    releasePending config' = .ok true := by
  simp only [releasedConfig, Except.bind_eq_ok] at h
  obtain ⟨_, _, h⟩ := h
  obtain ⟨_, _, _, _, hmode⟩ := releasePending_editMqtt h
  rw [hmode, Dict.get?_set_self]
  rfl

/-- The note of the request says what was said before. -/
theorem releasePending_requested {config config' : Json} {requestId : String}
    (h : requestedConfig config requestId = .ok config') :
    releasePending config' = releasePending config := by
  obtain ⟨fields, mqtt, rfl, hmqtt, hmode⟩ := releasePending_editMqtt h
  rw [hmode, releasePending_obj hmqtt, Dict.get?_set_ne _ _ (by decide)]

/-- And new credentials say that none is. -/
theorem releasePending_rotated {config config' : Json} {c : Credentials} {claimChanged : Bool}
    (h : rotatedConfig config c claimChanged = .ok config') :
    releasePending config' = .ok false := by
  simp only [rotatedConfig, Except.bind_eq_ok] at h
  obtain ⟨installed, hinstalled, h⟩ := h
  have hmode : releasePending installed = .ok false := by
    obtain ⟨_, _, _, _, hmode⟩ := releasePending_editMqtt hinstalled
    rw [hmode, c.install_mode]
    rfl
  split at h
  · -- emptying the connectors does not touch the section
    obtain ⟨fields, mqtt, _, hmqtt, rfl⟩ := editMqtt_ok hinstalled
    cases h
    rw [← hmode, releasePending_obj (Dict.get?_set_self _ _ _),
      releasePending_obj ((Dict.get?_set_ne _ _ (by decide)).trans (Dict.get?_set_self _ _ _))]
  · simp only [Except.pure_eq_ok] at h
    exact h ▸ hmode

/-- A retirement is one of a pending release. -/
theorem releasePending_retired {config config' releaseRequestId : Json}
    (h : retiredConfig config releaseRequestId = .ok (some config')) :
    releasePending config = .ok true ∧ releasePending config' = .ok true := by
  simp only [retiredConfig, Except.bind_eq_ok] at h
  obtain ⟨section', hsection, mode, hmode, h⟩ := h
  split at h
  · simp at h
  next hpending =>
  simp only [Except.bind_eq_ok] at h
  obtain ⟨_, _, h⟩ := h
  split at h
  · simp at h
  simp only [Except.bind_eq_ok, Except.pure_eq_ok, Option.some.injEq] at h
  obtain ⟨_, hedit, rfl⟩ := h
  have hold : releasePending config = .ok true := by
    simp only [releasePending, hsection, hmode, Except.ok_bind]
    simpa [pure, Except.pure] using hpending
  refine ⟨hold, ?_⟩
  obtain ⟨fields, mqtt, rfl, hmqtt, hnew⟩ := releasePending_editMqtt hedit
  rw [hnew, ← hold, releasePending_obj hmqtt, Dict.get?_erase, if_neg (by decide),
    Dict.get?_set_ne _ _ (by decide), Dict.get?_set_ne _ _ (by decide)]

end Provision

namespace NovenaGateway

/-- The publisher, the file and the memory say the same about a pending release. -/
structure Agrees (g : NovenaGateway) : Prop where
  configFile : releasePending g.configFile = .ok g.publisher.releaseInProgress
  config : releasePending g.config = .ok g.publisher.releaseInProgress

/-- They all say `b`. -/
structure AllSay (b : Bool) (g : NovenaGateway) : Prop where
  configFile : releasePending g.configFile = .ok b
  config : releasePending g.config = .ok b
  publisher : g.publisher.releaseInProgress = b

variable {b : Bool} {g g' : NovenaGateway}

/-- Where all say the same, all agree. -/
theorem AllSay.agrees (h : AllSay b g) : Agrees g := by
  refine ⟨?_, ?_⟩
  · rw [h.configFile, h.publisher]
  · rw [h.config, h.publisher]

/-- And the other way round. -/
theorem Agrees.allSay (h : Agrees g) : AllSay g.publisher.releaseInProgress g :=
  ⟨h.configFile, h.config, rfl⟩

/-- A quiet step changes nothing of it. -/
theorem Agrees.of_quiet (h : Agrees g) (hquiet : Machine.Quiet g g') : Agrees g' := by
  refine ⟨?_, ?_⟩
  · rw [hquiet.configFile, hquiet.publisher.releaseInProgress, h.configFile]
  · rw [hquiet.config, hquiet.publisher.releaseInProgress, h.config]

/-- Nor does a reset. -/
theorem allSay_resetFieldState {config : Json} (hconfig : releasePending config = .ok b) :
    ∀ step ∈ resetFieldState config, ∀ s, AllSay b s → AllSay b (step.run s) := by
  simp only [resetFieldState, List.forall_mem_cons]
  refine ⟨fun s h => ⟨h.configFile, hconfig, h.publisher⟩, ?_, ?_, ?_, ?_, ?_, by simp⟩
  all_goals exact fun s h => ⟨h.configFile, h.config, h.publisher⟩

end NovenaGateway

namespace Provision

open NovenaGateway

variable {g : NovenaGateway} {n : Nat}

/-! ## One operation -/

/-- Every step of a release keeps the pending state. -/
theorem allSay_releaseSteps {config config' : Json} (requestId : String)
    (hconfig : releasePending config = .ok true) (hconfig' : releasePending config' = .ok true) :
    ∀ step ∈ releaseSteps config config' requestId, ∀ s, AllSay true s →
      AllSay true (step.run s) := by
  simp only [releaseSteps, NovenaGateway.clearClaimBuffer, List.forall_mem_append,
    List.forall_mem_cons]
  refine ⟨⟨⟨⟨fun s h => ⟨hconfig, h.config, h.publisher⟩, fun s h => ⟨h.configFile, h.config, rfl⟩,
    by simp⟩, allSay_resetFieldState hconfig⟩, fun s h => ⟨h.configFile, h.config, rfl⟩,
    fun s h => ⟨h.configFile, h.config, h.publisher⟩, by simp⟩, ?_, ?_, ?_, by simp⟩
  · exact fun s h => ⟨h.configFile, hconfig', h.publisher⟩
  · exact fun s h => ⟨hconfig', h.config, h.publisher⟩
  · exact fun s h => ⟨h.configFile, h.config, h.publisher⟩

/-- After its first three steps a release is in the pending state. -/
theorem allSay_released {config config' : Json} (requestId : String)
    (hconfig : releasePending config = .ok true) (hconfig' : releasePending config' = .ok true)
    (hn : 3 ≤ n) :
    AllSay true (Step.perform ((releaseSteps config config' requestId).take n) g) :=
  Step.perform_established (allSay_releaseSteps requestId hconfig hconfig') hn
    ⟨hconfig, hconfig, rfl⟩

/-- An exception leaves a release before its first step or after the third. -/
theorem three_le_of_raises {config config' : Json} {requestId : String}
    (h : Step.RaisesAfter (releaseSteps config config' requestId) n) : n = 0 ∨ 3 ≤ n := by
  by_contra hn
  obtain ⟨step, hstep, hfallible⟩ := h
  obtain rfl | rfl : n = 1 ∨ n = 2 := by omega
  all_goals
    obtain rfl := Option.some.inj hstep
    cases hfallible

/-- Credentials of a claim end the release. -/
theorem Credentials.adopt_releaseInProgress (c : Credentials) (p : MqttPublisher) :
    (c.adopt p).releaseInProgress = (!c.claims && p.releaseInProgress) := by
  unfold Credentials.adopt
  cases hc : c.claims <;> simp

/-- Outside a release a change of credentials never enters one. -/
theorem allSay_rotated {config : Json} {c : Credentials} (claimChanged : Bool)
    (hconfig : releasePending config = .ok false) (h : AllSay false g) :
    AllSay false (Step.perform ((rotateSteps config c claimChanged).take n) g) := by
  refine Step.perform_invariant (I := AllSay false) ?_ h n
  have hadopt : ∀ p : MqttPublisher, p.releaseInProgress = false →
      (c.adopt p).releaseInProgress = false := by
    intro p hp
    rw [c.adopt_releaseInProgress, hp, Bool.and_false]
  simp only [rotateSteps, List.forall_mem_append, List.forall_mem_cons]
  refine ⟨⟨⟨fun s h => ⟨hconfig, h.config, h.publisher⟩, by simp⟩, ?_⟩,
    fun s h => ⟨h.configFile, h.config, hadopt _ h.publisher⟩, by simp⟩
  cases claimChanged with
  | false => simp
  | true => exact allSay_resetFieldState hconfig

/-- What a completed change of credentials leaves of the configuration in memory. -/
theorem perform_rotateSteps (config : Json) (c : Credentials) (claimChanged : Bool)
    (g : NovenaGateway) :
    (Step.perform (rotateSteps config c claimChanged) g).configFile = config ∧
    (Step.perform (rotateSteps config c claimChanged) g).config =
      (if claimChanged then config else g.config) ∧
    (Step.perform (rotateSteps config c claimChanged) g).publisher = c.adopt g.publisher := by
  cases claimChanged <;> exact ⟨rfl, rfl, rfl⟩

/-- While a release is pending, a completed change of credentials keeps the three together exactly
    when it activates another claim. -/
theorem agrees_rotated_iff {config : Json} {c : Credentials} (h : AllSay true g)
    (hconfig : rotatedConfig g.configFile c (c.changesClaim g.publisher) = .ok config) :
    Agrees (Step.perform (rotateSteps config c (c.changesClaim g.publisher)) g) ↔
      c.changesClaim g.publisher = true := by
  obtain ⟨hfile, hmemory, hpublisher⟩ :=
    perform_rotateSteps config c (c.changesClaim g.publisher) g
  have hidle : releasePending config = .ok false := releasePending_rotated hconfig
  constructor
  · intro hagrees
    -- the memory is only rewritten when the claim changes
    by_contra hsame
    have hheld : releasePending g.config = .ok (c.adopt g.publisher).releaseInProgress := by
      have := hagrees.config
      rwa [hmemory, if_neg hsame, hpublisher] at this
    have hwritten : releasePending config = .ok (c.adopt g.publisher).releaseInProgress := by
      have := hagrees.configFile
      rwa [hfile, hpublisher] at this
    -- the memory still says that the release is pending, the file no longer does
    rw [h.config] at hheld
    rw [hidle, ← hheld] at hwritten
    cases hwritten
  -- file, memory and publisher leave the release together
  · intro hchanges
    have hclaims : c.claims = true := by
      rw [Credentials.changesClaim, Bool.and_eq_true] at hchanges
      exact hchanges.1
    have hleft : (c.adopt g.publisher).releaseInProgress = false := by
      rw [c.adopt_releaseInProgress, hclaims]
      rfl
    refine ⟨?_, ?_⟩
    · rw [hfile, hpublisher, hleft, hidle]
    · rw [hmemory, if_pos hchanges, hpublisher, hleft, hidle]

/-- The erasure of the credentials keeps them together, however far it gets. -/
theorem agrees_retired {config : Json} (h : AllSay true g)
    (hconfig : releasePending config = .ok true) :
    AllSay true (Step.perform ((retireSteps config).take n) g) := by
  refine Step.perform_invariant (I := AllSay true) ?_ h n
  simp only [retireSteps, List.forall_mem_cons]
  refine ⟨fun s h => ⟨h.configFile, h.config, h.publisher⟩,
    fun s h => ⟨h.configFile, h.config, h.publisher⟩,
    fun s h => ⟨h.configFile, hconfig, h.publisher⟩,
    fun s h => ⟨hconfig, h.config, h.publisher⟩,
    fun s h => ⟨h.configFile, h.config, h.publisher⟩, by simp⟩

end Provision

namespace Machine

open NovenaGateway Provision

variable {host : Host} {v : ReleaseVerifier}

/-! ## Runs -/

/-- While a release is pending no credentials change but by the activation of another claim, which
    no exception leaves once the file is written. No configuration message writes the mode of a
    release. -/
def KeepsAgreement (host : Host) : Machine → Label → Prop
  | .up g, .provision _ payload ending =>
    g.publisher.releaseInProgress = true → ∀ c, Changes g payload c →
      c.changesClaim g.publisher = true ∧ ∀ n, ending = .raises n → n = 0
  | .up g, .configUpdate cfg clock payload _ _ _ =>
    ∀ config, RemoteConfigHandler.writtenConfig host cfg g clock payload = some config →
      releasePending config = .ok false
  | _, _ => True

/-- A gateway that runs agrees with itself. -/
def AgreesWhenUp : Machine → Prop
  | .up g => Agrees g
  | .down _ => True

/-- A process agrees with itself when it starts, whatever it finds on the disk. -/
theorem agrees_boot {cfg : GuardConfig} {disk : Disk} {g : NovenaGateway}
    (h : NovenaGateway.boot host cfg disk = some g) : Agrees g := by
  obtain ⟨_, serial, mqtt', _, governance, publisher, hconfig, _, hinit, _, rfl⟩ := boot_cases h
  obtain ⟨fields, mqtt, hfields, hmqtt, hsame⟩ := publisherConfig_ok hconfig
  obtain ⟨_, _, hflag, _⟩ := MqttPublisher.init_ok hinit
  have hpending : releasePending disk.config = .ok publisher.releaseInProgress := by
    -- what `__init__` adds to the section is not the mode
    rw [hfields, releasePending_obj hmqtt, hflag, hsame "mode" (by decide) (by decide)]
  exact ⟨hpending, hpending⟩

/-- A provisioning message keeps the agreement under the condition. -/
theorem agrees_provision {g g' : NovenaGateway} {now : Int} {payload : Dict String Json}
    {ending : Ending} (h : Agrees g)
    (hkept : KeepsAgreement host (.up g) (.provision now payload ending))
    (hstep : finish g (onProvisionMessage v g now payload).steps id ending = some (.up g')) :
    Agrees g' := by
  have hcases := onProvisionMessage_cases v g now payload
  have hend := finish_up hstep
  generalize onProvisionMessage v g now payload = operation at hcases hend
  cases hcases with
  | refused =>
    obtain ⟨_, rfl⟩ | ⟨n, _, _, rfl⟩ := hend
    · exact h
    · simpa [Operation.refused] using h
  | repeated =>
    obtain ⟨_, rfl⟩ | ⟨n, _, _, rfl⟩ := hend
    · exact h
    · simpa using h
  -- the flag is raised in all three places by the third step
  | released requestId config config' _ hconfig hconfig' =>
    have hpending := releasePending_released hconfig
    have hpending' := (releasePending_requested hconfig').trans hpending
    obtain ⟨_, rfl⟩ | ⟨n, _, hraises, rfl⟩ := hend
    · have hall := allSay_released (g := g) requestId hpending hpending'
        (show 3 ≤ (releaseSteps config config' requestId).length by
          simp [releaseSteps, NovenaGateway.resetFieldState])
      rw [List.take_length] at hall
      exact hall.agrees
    · obtain rfl | hn := three_le_of_raises hraises
      · exact h
      · exact (allSay_released requestId hpending hpending' hn).agrees
  -- cut off at the unsafe directory, behind the third step
  | stopped requestId config config' _ hconfig hconfig' =>
    have hpending := releasePending_released hconfig
    have hpending' := (releasePending_requested hconfig').trans hpending
    rw [stoppedSteps_eq config config' requestId] at hend
    obtain ⟨_, rfl⟩ | ⟨n, _, hraises, rfl⟩ := hend
    · exact (allSay_released requestId hpending hpending' (by decide)).agrees
    · -- the steps that are left out are the last ones
      obtain ⟨step, hstep, hfallible⟩ := hraises
      have hn : n < 9 := by
        have hlength := (List.getElem?_eq_some_iff.mp hstep).1
        rw [List.length_take] at hlength
        omega
      rw [List.getElem?_take_of_lt hn] at hstep
      rw [List.take_take, Nat.min_eq_left hn.le]
      obtain rfl | hn' := three_le_of_raises ⟨step, hstep, hfallible⟩
      · exact h
      · exact (allSay_released requestId hpending hpending' hn').agrees
  -- a rotation outside a release, and one that ends it
  | rotated c config hchanges hconfig =>
    have hidle := releasePending_rotated hconfig
    cases hflag : g.publisher.releaseInProgress with
    | false =>
      have hall : AllSay false g := hflag ▸ h.allSay
      obtain ⟨_, rfl⟩ | ⟨n, _, _, rfl⟩ := hend
      · have hkeeps := allSay_rotated (c := c) (c.changesClaim g.publisher)
          (n := (rotateSteps config c (c.changesClaim g.publisher)).length) hidle hall
        rw [List.take_length] at hkeeps
        exact hkeeps.agrees
      · exact (allSay_rotated _ hidle hall).agrees
    -- only with a new claim, carried out whole
    | true =>
      have hall : AllSay true g := hflag ▸ h.allSay
      obtain ⟨hclaim, hwhole⟩ := hkept hflag c hchanges
      obtain ⟨_, rfl⟩ | ⟨n, hending, _, rfl⟩ := hend
      · exact (agrees_rotated_iff hall hconfig).mpr hclaim
      · obtain rfl := hwhole n hending
        exact h

/-- So does a connection event, which may erase the credentials. -/
theorem agrees_connect {g g' : NovenaGateway} {result : ConnectResult} {ending : Ending}
    (h : Agrees g)
    (hstep : finish g (onConnectSteps g result) (onConnectEnd · result) ending = some (.up g')) :
    Agrees g' := by
  have hall : ∀ n, Agrees (Step.perform ((onConnectSteps g result).take n) g) := by
    intro n
    cases result with
    | accepted => simpa [onConnectSteps] using h
    | refused => simpa [onConnectSteps] using h
    | notAuthorized =>
      simp only [onConnectSteps]
      obtain hnil | ⟨config, hconfig, hsteps, hflag⟩ := retire_cases g
      · simpa [hnil] using h
      · have hpending : AllSay true g := hflag ▸ h.allSay
        rw [hsteps]
        exact (agrees_retired hpending (releasePending_retired hconfig).2).agrees
  obtain ⟨_, rfl⟩ | ⟨n, _, _, rfl⟩ := finish_up hstep
  · have hwhole := hall (onConnectSteps g result).length
    rw [List.take_length] at hwhole
    exact hwhole.of_quiet (onConnectEnd_quiet _ _)
  · exact (hall n).of_quiet (onConnectEnd_quiet _ _)

/-- And a configuration message that writes no mode of a release. -/
theorem agrees_configUpdate {g g' : NovenaGateway} {cfg : GuardConfig} {clock : Clock}
    {payload : Json} {outcomes rollbackOutcomes : Nat → StartOutcome} {crashes : Bool}
    (h : Agrees g)
    (hkept : KeepsAgreement host (.up g)
      (.configUpdate cfg clock payload outcomes rollbackOutcomes crashes))
    (hstep : configUpdate host g cfg clock payload outcomes rollbackOutcomes crashes = .up g') :
    Agrees g' := by
  unfold configUpdate at hstep
  dsimp only at hstep
  split at hstep
  · obtain rfl := Machine.up.inj hstep
    obtain heq | ⟨updated, configFile, config, _, _, hactive, hwritten, _, heq, hheld⟩ :=
      RemoteConfigHandler.onConfigUpdate_cases host cfg g clock payload outcomes
        rollbackOutcomes
    · rw [heq]; exact h
    · -- outside a release, and the update does not enter one
      have hflag : g.publisher.releaseInProgress = false := by
        have := h.config.symm.trans hactive
        exact Except.ok.inj this
      have hupdated := hkept updated hwritten
      rw [heq]
      obtain ⟨rfl, hmemory⟩ | ⟨rfl, hmemory⟩ := hheld
      · refine ⟨?_, ?_⟩
        · rw [hflag, hupdated]
        · rw [hmemory.releasePending, hflag, hupdated]
      · refine ⟨h.configFile, ?_⟩
        rw [hmemory.releasePending, h.configFile]
  · split at hstep <;> cases hstep

/-- One step. -/
theorem agrees_step {m m' : Machine} {label : Label} (h : AgreesWhenUp m)
    (hkept : KeepsAgreement host m label) (hstep : step host v m label = some m') :
    AgreesWhenUp m' := by
  -- a machine that is down has nothing in memory to agree with
  cases m' with
  | down disk => trivial
  | up g' =>
    cases m with
    | down disk =>
      cases label with
      | boot cfg =>
        simp only [step, Option.map_eq_some_iff] at hstep
        obtain ⟨g, hboot, hg⟩ := hstep
        obtain rfl := Machine.up.inj hg
        exact agrees_boot hboot
      | _ => cases hstep
    | up g =>
      by_cases hprovision : ∃ now payload ending, label = .provision now payload ending
      · obtain ⟨now, payload, ending, rfl⟩ := hprovision
        exact agrees_provision h hkept hstep
      by_cases hconnect : ∃ result ending, label = .connect result ending
      · obtain ⟨result, ending, rfl⟩ := hconnect
        exact agrees_connect h hstep
      by_cases hupdate : ∃ cfg clock payload outcomes rollbackOutcomes crashes,
          label = .configUpdate cfg clock payload outcomes rollbackOutcomes crashes
      · obtain ⟨cfg, clock, payload, outcomes, rollbackOutcomes, crashes, rfl⟩ := hupdate
        exact agrees_configUpdate h hkept (Option.some.inj hstep)
      push Not at hprovision hconnect hupdate
      obtain hdown | ⟨_, hg, hquiet, _⟩ := stepUp_quiet hstep hprovision hconnect hupdate
      · cases hdown
      · obtain rfl := Machine.up.inj hg
        exact Agrees.of_quiet h hquiet

/-- In every run whose steps keep the agreement, the three copies agree whenever a message was
    handled and the gateway runs. -/
theorem agrees_of_run {disk : Disk} {labels : List Label} {g : NovenaGateway}
    (hkept : Run.Along (step host v) (KeepsAgreement host) (.down disk) labels)
    (hrun : Run.exec (step host v) (.down disk) labels = some (.up g)) : Agrees g :=
  Run.exec_invariant (I := AgreesWhenUp) (fun _ _ _ h hkept hstep => agrees_step h hkept hstep)
    (show AgreesWhenUp (.down disk) from trivial) hkept hrun

end Machine

/-! ## A station's credentials -/

namespace Station

/-- New credentials without a claim, and with one. -/
def rotatePassword : Dict String Json :=
  [("action", .str "rotate_password"), ("new_password", .str "s3cret-2")]

def activate (claimId : String) : Dict String Json :=
  [("action", .str "activate"), ("new_password", .str "s3cret-2"), ("claim_id", .str claimId)]

end Station

namespace Machine

open NovenaGateway Provision

/-- A release, the erasure of its credentials and the activation of another claim. -/
theorem agrees_of_run_reclaimed : ∃ g,
    Run.exec (step Station.host Station.verifier) (.down (Station.newDisk "production"))
      [.boot Station.commandGuard, Station.handled (Station.release "release-1"),
       .connect .notAuthorized .completes, Station.handled (Station.activate "claim-2")] =
        some (.up g) ∧ Agrees g := by
  have hrun : ∃ g, Run.exec (step Station.host Station.verifier)
      (.down (Station.newDisk "production"))
      [.boot Station.commandGuard, Station.handled (Station.release "release-1"),
       .connect .notAuthorized .completes, Station.handled (Station.activate "claim-2")] =
        some (.up g) := ⟨_, rfl⟩
  have hkept : Run.Along (step Station.host Station.verifier) (KeepsAgreement Station.host)
      (.down (Station.newDisk "production"))
      [.boot Station.commandGuard, Station.handled (Station.release "release-1"),
       .connect .notAuthorized .completes, Station.handled (Station.activate "claim-2")] := by
    refine ⟨trivial, fun _ hboot => ?_⟩
    obtain rfl := Option.some.inj hboot
    refine ⟨fun hpending => absurd hpending (by decide), fun _ hrelease => ?_⟩
    obtain rfl := Option.some.inj hrelease
    refine ⟨trivial, fun _ hdenied => ?_⟩
    obtain rfl := Option.some.inj hdenied
    refine ⟨fun _ c hchanges => ?_, fun _ _ => trivial⟩
    -- the claim of the release is erased, so any claim is another one
    obtain rfl := Option.some.inj (Except.ok.inj hchanges.1)
    exact ⟨rfl, fun n hending => by cases hending⟩
  obtain ⟨g, hg⟩ := hrun
  exact ⟨g, hg, agrees_of_run hkept hg⟩

/-- A new password for a released gateway ends the release in the file alone. -/
theorem rotation_disagrees : ∃ g,
    Run.exec (step Station.host Station.verifier) (.down (Station.newDisk "production"))
      [.boot Station.commandGuard, Station.handled (Station.release "release-1"),
       Station.handled Station.rotatePassword] = some (.up g) ∧
    releasePending g.configFile = .ok false ∧ releasePending g.config = .ok true ∧
    g.publisher.releaseInProgress = true ∧ ¬Agrees g :=
  ⟨_, rfl, rfl, rfl, rfl, fun h => by cases h.configFile⟩

end Machine

end Novena
