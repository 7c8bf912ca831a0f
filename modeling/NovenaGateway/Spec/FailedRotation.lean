import NovenaGateway.Spec.BootConfig
import NovenaGateway.Spec.ConfigRollback

/-!
# A change of credentials that failed

`_rotate_password` acknowledges `failed` at two places. Before `config.json` is replaced nothing
has happened. When the callback for a new claim raises, the file is that of the new claim already,
while the publisher keeps the credentials it had.

## Key results

- `Provision.rotateEnd_steps`: every ending is one of the operation's
- `Provision.failed_untouched_iff`: when a failure leaves the credentials alone
-/

namespace Novena

/-- A field of an object, if there is one. -/
def Json.field? (v : Json) (key : String) : Option Json :=
  match v with
  | .obj fields => Dict.get? fields key
  | _ => none

/-- A field of an object is looked up. -/
@[simp] theorem Json.field?_obj (fields : List (String × Json)) (key : String) :
    (Json.obj fields).field? key = Dict.get? fields key := rfl

/-- A field of the section `mqtt`. -/
def mqttField (config : Json) (key : String) : Option Json :=
  (config.field? "mqtt").bind fun mqtt => mqtt.field? key

namespace Provision

/-- The credentials and the connectors in the file, and the credentials of the publisher, are those
    they were. -/
structure Untouched (g g' : NovenaGateway) : Prop where
  mqtt : ∀ key ∈ ["username", "password", "mode", "claim_id"],
    mqttField g'.configFile key = mqttField g.configFile key
  connectors : g'.configFile.field? "connectors" = g.configFile.field? "connectors"
  username : g'.publisher.username = g.publisher.username
  password : g'.publisher.password = g.publisher.password
  claimId : g'.publisher.claimId = g.publisher.claimId

/-- The callback for a new claim is called, and raises. -/
def CallbackFails (g : NovenaGateway) (c : Credentials) (failure : Option RotateFailure) : Prop :=
  (∃ done, failure = some (.callback done)) ∧ c.changesClaim g.publisher = true ∧
    ∃ mqtt, g.configFile.field? "mqtt" = some (.obj mqtt)

/-- The file has these credentials for the claim, and no connectors. -/
structure Credentials.Installed (c : Credentials) (config : Json) : Prop where
  username : c.username.truthy = true → mqttField config "username" = some c.username
  password : mqttField config "password" = some c.password
  mode : mqttField config "mode" = some (.str "operational")
  claimId : mqttField config "claim_id" = some c.claimId
  connectors : config.field? "connectors" = some (.arr [])

variable {g : NovenaGateway} {c : Credentials} {failure : Option RotateFailure}

/-! ## What is written -/

/-- Credentials of a claim bring its id. -/
theorem Credentials.install_claimId (c : Credentials) (mqtt : Dict String Json) :
    Dict.get? (c.install mqtt) "claim_id" =
      if c.claims then some c.claimId else Dict.get? mqtt "claim_id" := by
  unfold Credentials.install
  split <;> split <;> simp_all [Dict.get?_erase, Dict.get?_set]

/-- And of one that is there. -/
theorem mqttField_of_section {config : Json} {mqtt : Dict String Json}
    (h : config.field? "mqtt" = some (.obj mqtt)) (key : String) :
    mqttField config key = Dict.get? mqtt key := by
  rw [mqttField, h, Option.bind_some, Json.field?_obj]

/-- What a new claim writes, into a file that has a section `mqtt`. -/
theorem rotatedConfig_newClaim (c : Credentials) {config : Json} {mqtt : Dict String Json}
    (hmqtt : config.field? "mqtt" = some (.obj mqtt)) :
    ∃ config', rotatedConfig config c true = .ok config' ∧
      config'.field? "mqtt" = some (.obj (c.install mqtt)) ∧
      config'.field? "connectors" = some (.arr []) := by
  cases config with
  | obj fields =>
    rw [Json.field?_obj] at hmqtt
    refine ⟨.obj (Dict.set (Dict.set fields "mqtt" (.obj (c.install mqtt))) "connectors" (.arr [])),
      ?_, ?_, ?_⟩
    · simp only [rotatedConfig, editMqtt, Json.item, hmqtt, Except.ok_bind, Json.setItem, if_true]
    · rw [Json.field?_obj, Dict.get?_set_ne _ _ (by decide), Dict.get?_set_self]
    · rw [Json.field?_obj, Dict.get?_set_self]
  | _ => cases hmqtt

/-- A file without the section `mqtt` is not rewritten. -/
theorem section_of_rotatedConfig {config config' : Json} {claimChanged : Bool}
    (h : rotatedConfig config c claimChanged = .ok config') :
    ∃ mqtt, config.field? "mqtt" = some (.obj mqtt) := by
  simp only [rotatedConfig, Except.bind_eq_ok] at h
  obtain ⟨_, hinstalled, _⟩ := h
  obtain ⟨fields, mqtt, rfl, hmqtt, _⟩ := editMqtt_ok hinstalled
  exact ⟨mqtt, hmqtt⟩

/-- The credentials are written over themselves exactly when the file has them already. -/
theorem installed_iff {config config' : Json} {mqtt : Dict String Json} (hclaims : c.claims = true)
    (hmqtt : config.field? "mqtt" = some (.obj mqtt))
    (hmqtt' : config'.field? "mqtt" = some (.obj (c.install mqtt)))
    (hconnectors : config'.field? "connectors" = some (.arr [])) :
    ((∀ key ∈ ["username", "password", "mode", "claim_id"],
        mqttField config' key = mqttField config key) ∧
      config'.field? "connectors" = config.field? "connectors") ↔ c.Installed config := by
  simp only [mqttField_of_section hmqtt, mqttField_of_section hmqtt', hconnectors,
    List.forall_mem_cons, c.install_username, c.install_password, c.install_mode,
    c.install_claimId, hclaims, if_true]
  constructor
  · rintro ⟨⟨husername, hpassword, hmode, hclaim, _⟩, hempty⟩
    refine ⟨?_, ?_, ?_, ?_, hempty.symm⟩
    · intro htruthy
      rw [if_pos htruthy] at husername
      rw [mqttField_of_section hmqtt, husername]
    · rw [mqttField_of_section hmqtt, hpassword]
    · rw [mqttField_of_section hmqtt, hmode]
    · rw [mqttField_of_section hmqtt, hclaim]
  · intro h
    refine ⟨⟨?_, ?_, ?_, ?_, ?_⟩, h.connectors.symm⟩
    · split
      · next htruthy => rw [← mqttField_of_section hmqtt, h.username htruthy]
      · rfl
    · rw [← mqttField_of_section hmqtt, h.password]
    · rw [← mqttField_of_section hmqtt, h.mode]
    · rw [← mqttField_of_section hmqtt, h.claimId]
    · simp

/-! ## What is left -/

/-- The reset for a new claim concerns neither the file nor the publisher. -/
theorem resetFieldState_keeps (config : Json) (g : NovenaGateway) (done : Nat) :
    let g' := Step.perform ((NovenaGateway.resetFieldState config).take done) g
    g'.configFile = g.configFile ∧ g'.publisher = g.publisher := by
  dsimp only
  apply Step.perform_invariant
    (I := fun s : NovenaGateway => s.configFile = g.configFile ∧ s.publisher = g.publisher)
  · simp only [NovenaGateway.resetFieldState, List.forall_mem_cons]
    exact ⟨fun _ h => h, fun _ h => h, fun _ h => h, fun _ h => h, fun _ h => h, fun _ h => h,
      by simp⟩
  · exact ⟨rfl, rfl⟩

/-- Without a section the rotation fails. -/
theorem rotateEnd_error {e : Exn}
    (h : rotatedConfig g.configFile c (c.changesClaim g.publisher) = .error e) :
    rotateEnd g c failure = (g, .failed) := by
  unfold rotateEnd
  dsimp only
  rw [h]

/-- And so it does without a file. -/
theorem rotateEnd_file : rotateEnd g c (some .file) = (g, .failed) := by
  unfold rotateEnd
  dsimp only
  split <;> first | rfl | simp_all

/-- When the reset of the old claim raises, the file is the new one. -/
theorem rotateEnd_callback {config : Json} {done : Nat}
    (h : rotatedConfig g.configFile c (c.changesClaim g.publisher) = .ok config)
    (hchanged : c.changesClaim g.publisher = true) :
    rotateEnd g c (some (.callback done)) =
      (Step.perform ((NovenaGateway.resetFieldState config).take done)
        { g with configFile := config }, .failed) := by
  unfold rotateEnd
  dsimp only
  rw [h]
  dsimp only
  rw [if_pos hchanged]

/-- Without an exception that is caught, the operation runs to its end. -/
theorem rotateEnd_success {config : Json}
    (h : rotatedConfig g.configFile c (c.changesClaim g.publisher) = .ok config)
    (hfile : failure ≠ some .file)
    (hcallback : c.changesClaim g.publisher = true → ∀ done, failure ≠ some (.callback done)) :
    rotateEnd g c failure =
      (Step.perform (rotateSteps config c (c.changesClaim g.publisher)) g, .success) := by
  unfold rotateEnd
  dsimp only
  rw [h]
  cases failure with
  | none => rfl
  | some failure =>
    cases failure with
    | file => exact absurd rfl hfile
    | callback done =>
      dsimp only
      rw [if_neg]
      exact fun hchanged => hcallback hchanged done rfl

/-- What is left is what some of the steps of the operation leave. -/
theorem rotateEnd_steps {config : Json}
    (hconfig : rotatedConfig g.configFile c (c.changesClaim g.publisher) = .ok config) :
    ∃ n, (rotateEnd g c failure).1 =
      Step.perform ((rotateSteps config c (c.changesClaim g.publisher)).take n) g := by
  by_cases hfile : failure = some .file
  · subst hfile
    exact ⟨0, by rw [rotateEnd_file]; rfl⟩
  by_cases hcallback : c.changesClaim g.publisher = true ∧ ∃ done, failure = some (.callback done)
  · obtain ⟨hchanged, done, rfl⟩ := hcallback
    rw [rotateEnd_callback hconfig hchanged, hchanged]
    -- the file first, and then at most the steps of the reset
    refine ⟨min done (NovenaGateway.resetFieldState config).length + 1, ?_⟩
    rw [rotateSteps, if_pos rfl, List.append_assoc, List.singleton_append, List.take_succ_cons,
      Step.perform_cons, List.take_append_of_le_length (Nat.min_le_right _ _)]
    rw [← List.take_eq_take_min]
  · refine ⟨(rotateSteps config c (c.changesClaim g.publisher)).length, ?_⟩
    rw [List.take_length, rotateEnd_success hconfig hfile]
    intro hchanged done hdone
    exact hcallback ⟨hchanged, done, hdone⟩

/-- An acknowledged failure leaves the credentials alone exactly when the callback did not raise,
    or when the file had the new credentials and no connectors before the message. -/
theorem failed_untouched_iff (hfailed : (rotateEnd g c failure).2 = .failed) :
    Untouched g (rotateEnd g c failure).1 ↔
      (CallbackFails g c failure → c.Installed g.configFile) := by
  have hsame : Untouched g g := ⟨fun _ _ => rfl, rfl, rfl, rfl, rfl⟩
  by_cases hcallback : CallbackFails g c failure
  · obtain ⟨⟨done, rfl⟩, hchanged, mqtt, hmqtt⟩ := id hcallback
    have hclaims : c.claims = true := by
      rw [Credentials.changesClaim, Bool.and_eq_true] at hchanged
      exact hchanged.1
    obtain ⟨config, hconfig, hmqtt', hconnectors⟩ := rotatedConfig_newClaim c hmqtt
    rw [← hchanged] at hconfig
    rw [rotateEnd_callback hconfig hchanged]
    have hkeeps := resetFieldState_keeps config { g with configFile := config } done
    have hinstalled := installed_iff hclaims hmqtt hmqtt' hconnectors
    constructor
    · intro h _
      have hm := h.mqtt
      have hc := h.connectors
      rw [hkeeps.1] at hm hc
      exact hinstalled.mp ⟨hm, hc⟩
    · intro h
      have hheld := hinstalled.mpr (h hcallback)
      refine ⟨?_, ?_, ?_, ?_, ?_⟩
      · rw [hkeeps.1]
        exact hheld.1
      · rw [hkeeps.1]
        exact hheld.2
      · rw [hkeeps.2]
      · rw [hkeeps.2]
      · rw [hkeeps.2]
  · refine iff_of_true ?_ fun h => absurd h hcallback
    cases hconfig : rotatedConfig g.configFile c (c.changesClaim g.publisher) with
    | error e =>
      rw [rotateEnd_error hconfig]
      exact hsame
    | ok config =>
      by_cases hfile : failure = some .file
      · rw [hfile, rotateEnd_file]
        exact hsame
      · -- it would have been a success
        rw [rotateEnd_success hconfig hfile] at hfailed
        · cases hfailed
        · intro hchanged done hdone
          exact hcallback ⟨⟨done, hdone⟩, hchanged, section_of_rotatedConfig hconfig⟩

/-! ## A new claim for the station -/

section Station

/-- The credentials of a second claim. -/
def secondClaim : Credentials where
  password := .str "secret-2"
  username := .str "GW-001"
  claimId := .str "claim-2"
  activate := true

/-- The station after the callback could not replace the journal of requests. -/
def halfway : NovenaGateway :=
  (rotateEnd RemoteConfigHandler.station secondClaim (some (.callback 1))).1

/-- The same message again: the file has everything, and stays as it is. -/
theorem failed_untouched_again :
    Untouched halfway (rotateEnd halfway secondClaim (some (.callback 1))).1 := by
  apply (failed_untouched_iff rfl).mpr
  intro _
  exact ⟨fun _ => rfl, rfl, rfl, rfl, rfl⟩

/-- The failure is acknowledged, and the file has the password of the second claim. -/
theorem password_of_failed_claim :
    (rotateEnd RemoteConfigHandler.station secondClaim (some (.callback 1))).2 = .failed ∧
      mqttField halfway.configFile "password" = some (.str "secret-2") ∧
      ¬Untouched RemoteConfigHandler.station halfway := by
  refine ⟨rfl, rfl, fun h => ?_⟩
  have hpassword : some (Json.str "secret-2") = some (.str "secret-1") :=
    h.mqtt "password" (by decide)
  simp at hpassword

end Station

end Provision

end Novena
