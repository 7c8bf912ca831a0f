import NovenaGateway.ForStd.Run
import NovenaGateway.Native.Lifecycle
import NovenaGateway.Spec.ConfigRollback

/-!
# What a step of the lifecycle can do

One inversion lemma for each kind of message says everything it can lead to, so that an invariant
of the whole run is a short case analysis. A message that is cut short leaves a prefix of its
steps.

Key results:
- `Provision.onProvisionMessage_cases`
- `RemoteConfigHandler.onConfigUpdate_cases`
- `Machine.finish_cases`
-/

namespace Novena

namespace Provision

open GovernedCommandGuard (field)

/-- The message asks for a change to these credentials. -/
def Changes (g : NovenaGateway) (payload : Dict String Json) (c : Credentials) : Prop :=
  readCredentials g.publisher payload ((field payload "action").eq (.str "activate")) =
    .ok (some c) ∧
  ((field payload "action").eq (.str "rotate_password") ||
    (field payload "action").eq (.str "activate")) = true

/-- The message is a verified release with this request id. -/
def Releases (v : ReleaseVerifier) (g : NovenaGateway) (now : Int) (payload : Dict String Json)
    (requestId : String) : Prop :=
  verifyRelease v g.publisher now payload = .ok requestId

/-- What a provisioning message can lead to. -/
inductive Outcome (v : ReleaseVerifier) (g : NovenaGateway) (now : Int)
    (payload : Dict String Json) : Operation → Prop where
  | refused : Outcome v g now payload .refused
  /-- The request is remembered, and acknowledged again. -/
  | repeated (requestId : String) (hverified : Releases v g now payload requestId)
      (hsame : g.publisher.releaseRequestId.eq (.str requestId) = true) :
      Outcome v g now payload ⟨[], some requestId⟩
  | released (requestId : String) (config config' : Json)
      (hverified : Releases v g now payload requestId)
      (hconfig : releasedConfig g.configFile = .ok config)
      (hconfig' : requestedConfig config requestId = .ok config')
      (hsafe : g.buffer.isSafe = true)
      (hnew : g.publisher.releaseRequestId.eq (.str requestId) = false) :
      Outcome v g now payload ⟨releaseSteps config config' requestId, some requestId⟩
  /-- The directory of the buffer is not one that is removed. -/
  | stopped (requestId : String) (config config' : Json)
      (hverified : Releases v g now payload requestId)
      (hconfig : releasedConfig g.configFile = .ok config)
      (hconfig' : requestedConfig config requestId = .ok config')
      (hoff : g.buffer.isSafe = false) :
      Outcome v g now payload ⟨stoppedSteps config, none⟩
  | rotated (c : Credentials) (config : Json) (hchanges : Changes g payload c)
      (hconfig : rotatedConfig g.configFile c (c.changesClaim g.publisher) = .ok config) :
      Outcome v g now payload ⟨rotateSteps config c (c.changesClaim g.publisher), none⟩

/-- A release that is stopped has done its first nine steps. -/
theorem stoppedSteps_eq (config config' : Json) (requestId : String) :
    stoppedSteps config = (releaseSteps config config' requestId).take 9 := rfl

/-- A message of the provisioning has one of the outcomes. -/
theorem onProvisionMessage_cases (v : ReleaseVerifier) (g : NovenaGateway) (now : Int)
    (payload : Dict String Json) :
    Outcome v g now payload (onProvisionMessage v g now payload) := by
  unfold onProvisionMessage
  dsimp only
  -- an exception anywhere in the handler is caught and logged
  split
  · next operation h =>
    -- a release message, or one about credentials
    split at h
    · simp only [handleRelease, Except.bind_eq_ok] at h
      obtain ⟨requestId, hverified, h⟩ := h
      -- the release was seen before
      split at h
      · next hsame =>
        simp only [Except.pure_eq_ok] at h
        exact h ▸ .repeated requestId hverified hsame
      -- it is new, and is verified and written
      · next hnew =>
        simp only [Except.bind_eq_ok] at h
        obtain ⟨config, hconfig, config', hconfig', h⟩ := h
        split at h
        -- the directory of the buffer may be deleted, and the release runs to its end
        · next hsafe =>
          simp only [Except.pure_eq_ok] at h
          exact h ▸ .released requestId config config' hverified hconfig hconfig' hsafe
            (Bool.eq_false_iff.mpr hnew)
        -- or it may not, and the release stops there
        · next hoff =>
          simp only [Except.pure_eq_ok] at h
          exact h ▸ .stopped requestId config config' hverified hconfig hconfig'
            (Bool.eq_false_iff.mpr hoff)
    -- usable credentials, or nothing
    · split at h
      · next haction =>
        simp only [Except.bind_eq_ok] at h
        obtain ⟨c, hc, h⟩ := h
        split at h
        · next c =>
          simp only [rotatePassword, Except.bind_eq_ok, Except.pure_eq_ok] at h
          obtain ⟨config, hconfig, rfl⟩ := h
          exact .rotated c config ⟨hc, haction⟩ hconfig
        · simp only [Except.pure_eq_ok] at h
          exact h ▸ .refused
      · simp only [Except.pure_eq_ok] at h
        exact h ▸ .refused
  · exact .refused

/-- What a refused connection does before it is counted. -/
theorem retire_cases (g : NovenaGateway) :
    retireRevokedOperationalCredentials g = [] ∨
      ∃ config, retiredConfig g.configFile g.publisher.releaseRequestId = .ok (some config) ∧
        retireRevokedOperationalCredentials g = retireSteps config ∧
        g.publisher.releaseInProgress = true := by
  unfold retireRevokedOperationalCredentials
  dsimp only
  -- the guards of the retirement
  split
  · exact .inl rfl
  · next hguard =>
    -- the configuration could be retired
    split
    · next config hconfig =>
      refine .inr ⟨config, hconfig, rfl, ?_⟩
      simp only [Bool.or_eq_true, Bool.not_eq_true', not_or, Bool.not_eq_false] at hguard
      exact hguard.1.1.1
    · exact .inl rfl

end Provision

namespace RemoteConfigHandler

open NovenaGateway

variable {host : Host}

/-- An application changes the file, the configuration and the connectors. -/
theorem applyConfigWithRollback_frame (g : NovenaGateway) (updated : Json)
    (outcomes rollbackOutcomes : Nat → StartOutcome) :
    ∃ configFile config connectors,
      (applyConfigWithRollback g updated outcomes rollbackOutcomes).1 =
        { g with configFile, config, connectors } := by
  unfold applyConfigWithRollback switchTo
  dsimp only
  split
  · next happlied =>
    obtain ⟨rfl, _⟩ := Prod.mk.inj happlied
    exact ⟨_, _, _, rfl⟩
  -- all started, or the configuration before is started again
  · next happlied =>
    obtain ⟨rfl, _⟩ := Prod.mk.inj happlied
    split
    · exact ⟨_, _, _, rfl⟩
    · split
      · next hback => obtain ⟨rfl, _⟩ := Prod.mk.inj hback; exact ⟨_, _, _, rfl⟩
      · next hback => obtain ⟨rfl, _⟩ := Prod.mk.inj hback; exact ⟨_, _, _, rfl⟩

/-- A configuration that is written is valid. -/
theorem writtenConfig_valid {cfg : GuardConfig} {g : NovenaGateway} {clock : Clock} {payload : Json}
    {config : Json} (h : writtenConfig host cfg g clock payload = some config) :
    validateConfig host config = .ok [] := by
  unfold writtenConfig at h
  split at h
  · split at h
    · exact updatedConfig_valid (Except.toOption_eq_some.mp h)
    · cases h
  · cases h

/-- What a configuration message can lead to: nothing, or an update that was written and is in
    force, or one that was taken back. Nothing but the connectors and the journal of requests
    changes with it. -/
theorem onConfigUpdate_cases (host : Host) (cfg : GuardConfig) (g : NovenaGateway) (clock : Clock)
    (payload : Json) (outcomes rollbackOutcomes : Nat → StartOutcome) :
    (onConfigUpdate host cfg g clock payload outcomes rollbackOutcomes).1 = g ∨
    ∃ updated configFile config connectors configJournal,
      releasePending g.config = .ok false ∧
      writtenConfig host cfg g clock payload = some updated ∧
      validateConfig host updated = .ok [] ∧
      (onConfigUpdate host cfg g clock payload outcomes rollbackOutcomes).1 =
        { g with configFile, config, connectors, configJournal } ∧
      (configFile = updated ∧ Held outcomes updated config ∨
        configFile = g.configFile ∧ Held rollbackOutcomes g.configFile config) := by
  unfold onConfigUpdate writtenConfig
  split
  -- release state unreadable, pending, or a payload that is no object
  · exact .inl rfl
  · exact .inl rfl
  · next wire hactive =>
    split
    -- the journal keeps the messages from being applied twice
    · exact .inl rfl
    · split
      · exact .inl rfl
      · exact .inl rfl
      · exact .inl rfl
      -- an update that is to be applied
      · next config key revision hverify =>
        simp only [hactive, hverify, handleConfig]
        split
        · exact .inl rfl
        -- it may be refused as a whole
        · cases hupdated : updatedConfig host g.configFile ((Dict.get? wire "action").getD
            (.str "full_update")) config with
          | error e => exact .inl rfl
          | ok updated =>
            have hcases := applyConfigWithRollback_cases g updated outcomes rollbackOutcomes
            obtain ⟨configFile, config', connectors, hframe⟩ :=
              applyConfigWithRollback_frame g updated outcomes rollbackOutcomes
            have hvalid := updatedConfig_valid hupdated
            dsimp only
            generalize applyConfigWithRollback g updated outcomes rollbackOutcomes = applied
              at hcases hframe ⊢
            obtain ⟨g', result⟩ := applied
            dsimp only at hcases hframe
            subst hframe
            refine .inr ⟨updated, configFile, config', connectors, ?_⟩
            -- the file and the memory hold the same configuration in each of the three cases
            have hheld : configFile = updated ∧ Held outcomes updated config' ∨
                configFile = g.configFile ∧ Held rollbackOutcomes g.configFile config' := by
              obtain ⟨_, _, _, h⟩ | ⟨_, _, _, _, h⟩ | ⟨_, _, h⟩ := hcases
              · exact .inl h
              · exact .inl h
              · exact .inr h
            cases result <;> exact ⟨_, trivial, rfl, hvalid, rfl, hheld⟩
  · exact .inl rfl

end RemoteConfigHandler

namespace MqttPublisher

/-- The publisher on its own never changes what it knows of the claim and the release, and during
    a release it puts nothing into the buffer. -/
structure Keeps (p p' : MqttPublisher) : Prop where
  claimId : p'.claimId = p.claimId
  releaseRequestId : p'.releaseRequestId = p.releaseRequestId
  releaseInProgress : p'.releaseInProgress = p.releaseInProgress
  storage : p.releaseInProgress = true → p.storage = [] → p'.storage = []

/-- Nothing is changed. -/
theorem Keeps.refl (p : MqttPublisher) : p.Keeps p := ⟨rfl, rfl, rfl, fun _ h => h⟩

/-- To buffer an event keeps the session. -/
theorem bufferEvent_keeps (p : MqttPublisher) (event : MqttEvent) : p.Keeps (p.bufferEvent event) := by
  unfold bufferEvent
  split
  · exact .refl p
  · next hidle => exact ⟨rfl, rfl, rfl, fun h => absurd h hidle⟩

/-- And so does a publication. -/
theorem publish_keeps (p : MqttPublisher) (payload : Dict String Json) (topic : String)
    (full : Bool) : p.Keeps (p.publish payload topic full) := by
  unfold publish
  split
  · exact .refl p
  · dsimp only
    split
    · exact ⟨rfl, rfl, rfl, fun _ h => h⟩
    · exact p.bufferEvent_keeps _

/-- And the publish loop. -/
theorem publishLoop_keeps (p : MqttPublisher) (accepted : Bool) : p.Keeps (p.publishLoop accepted) := by
  unfold publishLoop
  split
  · exact .refl p
  · next event queue _ =>
    dsimp only
    split
    · exact ⟨rfl, rfl, rfl, fun _ h => h⟩
    · split
      · exact ⟨rfl, rfl, rfl, fun _ h => h⟩
      · obtain ⟨hc, hr, hi, hs⟩ := bufferEvent_keeps { p with queue } event
        exact ⟨hc, hr, hi, hs⟩

/-- And a replay. -/
theorem replayed_keeps (p : MqttPublisher) (n : Nat) : p.Keeps (p.replayed n) := by
  unfold replayed
  split
  · exact ⟨rfl, rfl, rfl, fun _ h => by simp [h]⟩
  · exact .refl p

/-- The switch to the bootstrap mode keeps the claim. -/
theorem switchToBootstrapIfNeeded_keeps (p : MqttPublisher) :
    p.Keeps p.switchToBootstrapIfNeeded := by
  unfold switchToBootstrapIfNeeded
  split
  · exact .refl p
  · split
    · exact .refl p
    · dsimp only
      split
      · exact ⟨rfl, rfl, rfl, fun _ h => h⟩
      · exact .refl p

/-- A failed connection as well. -/
theorem connectionFailed_keeps (p : MqttPublisher) : p.Keeps p.connectionFailed := by
  obtain ⟨hc, hr, hi, hs⟩ := switchToBootstrapIfNeeded_keeps
    { p with connected := false, consecutiveFailures := p.consecutiveFailures + 1 }
  exact ⟨hc, hr, hi, hs⟩

/-- And a lost one. -/
theorem onDisconnect_keeps (p : MqttPublisher) (clean : Bool) : p.Keeps (p.onDisconnect clean) := by
  unfold onDisconnect
  split
  · exact ⟨rfl, rfl, rfl, fun _ h => h⟩
  · exact p.connectionFailed_keeps

/-- What a new publisher knows of the claim and the release is what the section says. -/
theorem init_ok {serial : Json} {config : Dict String Json} {storage : List MqttEvent}
    {p : MqttPublisher} (h : init serial config storage = .ok p) :
    p.claimId = (Dict.get? config "claim_id").getD .null ∧
    p.releaseRequestId = (Dict.get? config "release_request_id").getD .null ∧
    p.releaseInProgress =
      ((Dict.get? config "mode").getD .null).eq (.str "release_pending") ∧
    p.storage = storage := by
  unfold init at h
  dsimp only at h
  -- as for `init_fresh`: with and without operational credentials
  split at h
  · obtain rfl := Except.ok.inj h
    exact ⟨rfl, rfl, rfl, rfl⟩
  · simp only [Except.bind_eq_ok] at h
    obtain ⟨enabled, _, h⟩ := h
    split at h
    · obtain rfl := Except.ok.inj h
      exact ⟨rfl, rfl, rfl, rfl⟩
    · simp only [Except.bind_eq_ok] at h
      obtain ⟨_, _, _, _, h⟩ := h
      obtain rfl := Except.ok.inj h
      exact ⟨rfl, rfl, rfl, rfl⟩

end MqttPublisher

namespace NovenaGateway

/-- The look at the mode changes nothing but the phase; it finds entries only outside a release. -/
theorem beginStartup_cases {g g' : NovenaGateway} (h : g.beginStartup = .ok g') :
    (releasePending g.config = .ok true ∧ g' = { g with startup := .done }) ∨
    (releasePending g.config = .ok false ∧
      ∃ entries, g' = { g with startup := .visiting entries }) := by
  simp only [beginStartup, Except.bind_eq_ok] at h
  obtain ⟨b, hb, h⟩ := h
  -- a pending release starts no connector
  cases b with
  | true =>
    simp only [if_true, Except.pure_eq_ok] at h
    exact .inl ⟨hb, h.symm⟩
  -- otherwise the entries are visited one by one
  | false =>
    simp only [Bool.false_eq_true, if_false, Except.bind_eq_ok, Except.pure_eq_ok] at h
    obtain ⟨entries, _, h⟩ := h
    exact .inr ⟨hb, entries, h.symm⟩

/-- A failed start is no success. -/
theorem startConnector_failed {outcome : StartOutcome} {connector : Json} {error : String}
    {result : StartResult} (hfailed : outcome.error = some error)
    (h : (startConnector outcome connector).2 = .ok result) : result.success = false := by
  -- a failure makes every result unsuccessful
  have hresult : ∀ {name type : Json}, startResult outcome name type = .ok result →
      result.success = false := by
    intro name type hok
    unfold startResult at hok
    rw [hfailed] at hok
    split at hok
    · cases hok
    · split at hok <;> exact Except.ok.inj hok ▸ rfl
  unfold startConnector at h
  -- the entry is an object with a type
  split at h
  · split at h
    · cases h
    · dsimp only at h
      split at h
      · exact hresult h
      · exact hresult h
      · cases h
  · cases h

/-- A round of the start-up opens at most one connector, and only while entries are left. -/
theorem continueStartup_cases {g g' : NovenaGateway} {outcome : StartOutcome}
    (h : g.continueStartup outcome = .ok g') :
    (∃ entry entries connectors, g.startup = .visiting (entry :: entries) ∧
      (connectors ≠ g.connectors → outcome.error = none) ∧
      g' = { g with startup := .visiting entries, connectors }) ∨
    g' = { g with startup := .done } := by
  unfold continueStartup at h
  split at h
  -- the connectors change only with a start that succeeded
  · next entry entries hstartup =>
    simp only [Except.map_eq_ok] at h
    obtain ⟨result, hresult, rfl⟩ := h
    refine .inl ⟨entry, entries, _, hstartup, fun hne => ?_, rfl⟩
    cases hfailed : outcome.error with
    | none => rfl
    | some error =>
      rw [startConnector_failed hfailed hresult] at hne
      exact absurd rfl hne
  -- none is left
  · exact .inr (Except.ok.inj h).symm

/-- The section the publisher is made from is that of the configuration but for two keys. -/
theorem publisherConfig_ok {config : Json} {mqtt' : Dict String Json}
    (h : publisherConfig config = .ok mqtt') :
    ∃ fields mqtt, config = .obj fields ∧ Dict.get? fields "mqtt" = some (.obj mqtt) ∧
      ∀ key, key ≠ "bootstrap_mqtt" → key ≠ "trusted_release_keys" →
        Dict.get? mqtt' key = Dict.get? mqtt key := by
  -- `mqtt` must be an object
  simp only [publisherConfig, Except.bind_eq_ok] at h
  obtain ⟨m, hm, h⟩ := h
  obtain ⟨fields, rfl, hmqtt⟩ := Json.item_ok hm
  -- two keys are added and no other is touched
  split at h
  · next mqtt =>
    simp only [Except.bind_eq_ok, Except.pure_eq_ok] at h
    obtain ⟨_, _, _, _, _, _, rfl⟩ := h
    refine ⟨fields, mqtt, rfl, hmqtt, fun key hbootstrap hkeys => ?_⟩
    rw [Dict.get?_set_ne _ _ hkeys]
    split
    · exact Dict.get?_set_ne _ _ hbootstrap
    · rfl
  · cases h

/-- A process starts from what is on the disk. -/
theorem boot_cases {host : Host} {cfg : GuardConfig} {disk : Disk} {g : NovenaGateway}
    (h : boot host cfg disk = some g) :
    validateConfig host disk.config = .ok [] ∧
      ∃ serial mqtt path governance publisher, publisherConfig disk.config = .ok mqtt ∧
        dataFilePath disk.config = .ok path ∧
        MqttPublisher.init serial mqtt (disk.buffers (host.realpath (dirname path))) =
          .ok publisher ∧
        GovernedCommandGuard.init cfg disk.policy disk.commandJournal = .ok governance ∧
        g = { configFile := disk.config, config := disk.config, connectors := [],
              startup := .waiting, publisher, buffer := .resolve host.realpath path,
              buffers := disk.buffers, configJournal := .init disk.configJournal, governance } := by
  simp only [boot, Option.bind_eq_bind, Option.bind_eq_some_iff, Except.toOption_eq_some] at h
  obtain ⟨errors, herrors, h⟩ := h
  -- a configuration with errors does not boot
  split at h
  · cases h
  · next hempty =>
    have hnil : errors = [] := by simpa using hempty
    -- each part is read or made in the order of the constructor
    simp only [Option.bind_eq_some_iff, Except.toOption_eq_some] at h
    obtain ⟨serial, _, mqtt, hmqtt, path, hpath, publisher, hpublisher, governance, hgovernance,
      h⟩ := h
    exact ⟨hnil ▸ herrors, serial, mqtt, path, governance, publisher, hmqtt, hpath, hpublisher,
      hgovernance, (Option.some.inj h).symm⟩

end NovenaGateway

namespace Machine

/-- However an operation ends, some of its steps were done. -/
theorem finish_cases {g : NovenaGateway} {steps : List (Step NovenaGateway)}
    {after : NovenaGateway → NovenaGateway} {ending : Ending} {m : Machine}
    (h : finish g steps after ending = some m) :
    (ending = .completes ∧ m = .up (after (Step.perform steps g))) ∨
    ∃ n, (ending = .raises n ∧ Step.RaisesAfter steps n ∧
        m = .up (after (Step.perform (steps.take n) g))) ∨
      (ending = .crashes n ∧ m = .down (Step.perform (steps.take n) g).disk) := by
  -- to the end, up to an exception, or up to a crash
  cases ending with
  | completes => exact .inl ⟨rfl, (Option.some.inj h).symm⟩
  | raises n =>
    simp only [finish] at h
    split at h
    · next hraises => exact .inr ⟨n, .inl ⟨rfl, hraises, (Option.some.inj h).symm⟩⟩
    · cases h
  | crashes n => exact .inr ⟨n, .inr ⟨rfl, (Option.some.inj h).symm⟩⟩

/-- The same where the process lives on. -/
theorem finish_up {g g' : NovenaGateway} {steps : List (Step NovenaGateway)}
    {after : NovenaGateway → NovenaGateway} {ending : Ending}
    (h : finish g steps after ending = some (.up g')) :
    (ending = .completes ∧ g' = after (Step.perform steps g)) ∨
    ∃ n, ending = .raises n ∧ Step.RaisesAfter steps n ∧
      g' = after (Step.perform (steps.take n) g) := by
  obtain ⟨hending, hg⟩ | ⟨n, ⟨hending, hraises, hg⟩ | ⟨_, hg⟩⟩ := finish_cases h
  · exact .inl ⟨hending, Machine.up.inj hg⟩
  · exact .inr ⟨n, hending, hraises, Machine.up.inj hg⟩
  · cases hg

/-- Neither the configuration nor the knowledge of the claim and the release has changed. -/
structure Quiet (g g' : NovenaGateway) : Prop where
  configFile : g'.configFile = g.configFile
  config : g'.config = g.config
  configJournal : g'.configJournal = g.configJournal
  buffer : g'.buffer = g.buffer
  buffers : g'.buffers = g.buffers
  publisher : g.publisher.Keeps g'.publisher

/-- A step of the publisher is quiet for the gateway. -/
theorem Quiet.of_publisher {g : NovenaGateway} {publisher : MqttPublisher}
    (h : g.publisher.Keeps publisher) : Quiet g { g with publisher } :=
  ⟨rfl, rfl, rfl, rfl, rfl, h⟩

/-- The main thread opens a connector: the start-up loop has an entry left, and it opens. -/
def Opens (g : NovenaGateway) : Label → Prop
  | .continueStartup outcome =>
    outcome.error = none ∧ ∃ entry entries, g.startup = .visiting (entry :: entries)
  | _ => False

/-- And so is the end of a connection. -/
theorem onConnectEnd_quiet (g : NovenaGateway) (result : Provision.ConnectResult) :
    Quiet g (Provision.onConnectEnd g result) := by
  cases result with
  | accepted => exact .of_publisher ⟨rfl, rfl, rfl, fun _ h => h⟩
  | _ => exact .of_publisher g.publisher.connectionFailed_keeps

/-- A step that is no message of the other kinds is quiet, or ends the process. It changes the
    connectors only where the start-up opens one, and the guard only where that is the step. -/
theorem stepUp_quiet {host : Host} {v : ReleaseVerifier} {g : NovenaGateway} {label : Label}
    {m : Machine} (h : stepUp host v g label = some m)
    (hprovision : ∀ now payload ending, label ≠ .provision now payload ending)
    (hconnect : ∀ result ending, label ≠ .connect result ending)
    (hupdate : ∀ cfg clock payload outcomes rollbackOutcomes crashes,
      label ≠ .configUpdate cfg clock payload outcomes rollbackOutcomes crashes) :
    m = .down g.disk ∨ ∃ g', m = .up g' ∧ Quiet g g' ∧
      (¬Opens g label → g'.connectors = g.connectors) ∧
      (g'.governance = g.governance ∨ label = .govern g'.governance) := by
  -- what only moves the publisher keeps the rest
  have hpublisher : ∀ {publisher : MqttPublisher}, g.publisher.Keeps publisher →
      ∃ g', Machine.up { g with publisher } = .up g' ∧ Quiet g g' ∧
        (¬Opens g label → g'.connectors = g.connectors) ∧
        (g'.governance = g.governance ∨ label = .govern g'.governance) :=
    fun hkeeps => ⟨_, rfl, .of_publisher hkeeps, fun _ => rfl, .inl rfl⟩
  cases label with
  | boot cfg => cases h
  | halt => exact .inl (Option.some.inj h).symm
  -- the start of the connectors begins
  | beginStartup =>
    simp only [stepUp] at h
    split at h
    · split at h
      · next g' hbegin =>
        obtain rfl := Option.some.inj h
        obtain ⟨_, rfl⟩ | ⟨_, entries, rfl⟩ := NovenaGateway.beginStartup_cases hbegin
        · exact .inr ⟨_, rfl, ⟨rfl, rfl, rfl, rfl, rfl, .refl _⟩, fun _ => rfl, .inl rfl⟩
        · exact .inr ⟨_, rfl, ⟨rfl, rfl, rfl, rfl, rfl, .refl _⟩, fun _ => rfl, .inl rfl⟩
      · exact .inl (Option.some.inj h).symm
    · cases h
  -- one connector more
  | continueStartup outcome =>
    simp only [stepUp] at h
    split at h
    · next g' hcontinue =>
      obtain rfl := Option.some.inj h
      obtain ⟨entry, entries, connectors, hvisiting, hopened, rfl⟩ | rfl :=
        NovenaGateway.continueStartup_cases hcontinue
      · refine .inr ⟨_, rfl, ⟨rfl, rfl, rfl, rfl, rfl, .refl _⟩, fun hcloses => ?_, .inl rfl⟩
        by_contra hne
        exact hcloses ⟨hopened hne, entry, entries, hvisiting⟩
      · exact .inr ⟨_, rfl, ⟨rfl, rfl, rfl, rfl, rfl, .refl _⟩, fun _ => rfl, .inl rfl⟩
    · exact .inl (Option.some.inj h).symm
  -- the three actions of the configuration are excluded
  | provision now payload ending => exact absurd rfl (hprovision _ _ _)
  | connect result ending => exact absurd rfl (hconnect _ _)
  | configUpdate => exact absurd rfl (hupdate _ _ _ _ _ _)
  | govern governance =>
    obtain rfl := Option.some.inj h
    exact .inr ⟨_, rfl, ⟨rfl, rfl, rfl, rfl, rfl, .refl _⟩, fun _ => rfl, .inr rfl⟩
  -- the publisher moves
  | disconnect clean =>
    obtain rfl := Option.some.inj h
    exact .inr (hpublisher (g.publisher.onDisconnect_keeps clean))
  | publish payload topic full =>
    obtain rfl := Option.some.inj h
    exact .inr (hpublisher (g.publisher.publish_keeps payload topic full))
  | publishLoop accepted =>
    obtain rfl := Option.some.inj h
    exact .inr (hpublisher (g.publisher.publishLoop_keeps accepted))
  | replayed n =>
    obtain rfl := Option.some.inj h
    exact .inr (hpublisher (g.publisher.replayed_keeps n))

end Machine

end Novena
