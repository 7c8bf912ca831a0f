import NovenaGateway.Native.RemoteConfig

/-!
# Provisioning messages

`_on_provision_message` of `novena_mqtt_publisher.py` with what it leads to, the release of the
gateway and the change of its credentials, and what a refused connection leads to after a release.
Each of them rewrites `config.json` and then the memory of the publisher and of the gateway, whose
callbacks are installed. The rewritten configurations are computed first; the steps that put them
in place follow, as an operation that can be cut short.
-/

namespace Novena

/-- The external functions of `_verify_release`. -/
structure ReleaseVerifier where
  /-- `str(UUID(s))`. -/
  uuid : String → Py String
  /-- `datetime.fromisoformat` after `Z` was replaced, moved to UTC. -/
  fromisoformat : String → Py IsoTime
  /-- Ed25519 under an encoded key accepts a signature over a payload's canonical bytes. -/
  verifies : Json → Json → Json → Bool

namespace Provision

open GovernedCommandGuard (field signedBody)

/-! ## Rewriting the configuration -/

/-- `config["mqtt"]` after `edit` changed it in place. -/
def editMqtt (config : Json) (edit : Dict String Json → Dict String Json) : Py Json := do
  match ← config.item "mqtt" with
  | .obj mqtt => config.setItem "mqtt" (.obj (edit mqtt))
  | _ => throw .typeError

/-- What `_handle_release` writes first. -/
def releasedConfig (config : Json) : Py Json := do
  editMqtt (← config.setItem "connectors" (.arr [])) fun mqtt =>
    Dict.set mqtt "mode" (.str "release_pending")

/-- What it writes when everything is reset. -/
def requestedConfig (config : Json) (requestId : String) : Py Json :=
  editMqtt config fun mqtt => Dict.set mqtt "release_request_id" (.str requestId)

/-- What `_retire_revoked_operational_credentials` writes, if the file is that of the release. -/
def retiredConfig (config releaseRequestId : Json) : Py (Option Json) := do
  let mqtt ← config.getD "mqtt" (.obj [])
  if !(← mqtt.get "mode").eq (.str "release_pending") then return none else
  if !(← mqtt.get "release_request_id").eq releaseRequestId then return none else
  return some (← editMqtt config fun mqtt =>
    Dict.erase (Dict.set (Dict.set mqtt "username" (.str "")) "password" (.str "")) "claim_id")

/-- The arguments of `_rotate_password`. `activate` says which of the two actions it is. -/
structure Credentials where
  password : Json
  username : Json
  claimId : Json
  activate : Bool

/-- `action == "activate" and claim_id`. -/
def Credentials.claims (c : Credentials) : Bool := c.activate && c.claimId.truthy

/-- The section `mqtt` with the new credentials. -/
def Credentials.install (c : Credentials) (mqtt : Dict String Json) : Dict String Json :=
  let mqtt := if c.username.truthy then Dict.set mqtt "username" c.username else mqtt
  let mqtt := Dict.set (Dict.set mqtt "password" c.password) "mode" (.str "operational")
  if c.claims then Dict.erase (Dict.set mqtt "claim_id" c.claimId) "release_request_id" else mqtt

/-- What `_rotate_password` writes. -/
def rotatedConfig (config : Json) (c : Credentials) (claimChanged : Bool) : Py Json := do
  let config ← editMqtt config c.install
  if claimChanged then config.setItem "connectors" (.arr []) else return config

/-! ## Release -/

/-- `raise ValueError(msg)` unless `b`. -/
def ensure (b : Bool) (msg : String) : Py Unit := if b then .ok () else .error (.valueError msg)

@[simp] theorem ensure_eq_ok {b : Bool} {msg : String} {u : Unit} :
    ensure b msg = .ok u ↔ b = true := by
  cases b <;> simp [ensure]

/-- `_trusted_release_keys.get(key_id)`. -/
def releaseKey (keys keyId : Json) : Py Json :=
  match keys with
  | .obj fields => do
    match ← keyId.hashKey with
    | .str id => return (Dict.get? fields id).getD .null
    | _ => return .null
  | _ => .error .attributeError

/-- `_verify_release`: the request id of a release that may be carried out. -/
def verifyRelease (v : ReleaseVerifier) (p : MqttPublisher) (now : Int)
    (payload : Dict String Json) : Py String := do
  ensure ((field payload "schema_version").eq (.int 1)) "invalid release schema"
  let serial ← ((field payload "target").orElse (.obj [])).get "gateway_serial"
  ensure ((field payload "action").eq (.str "release") && serial.eq p.serialNumber)
    "release targets a different Gateway"
  let requestId ← v.uuid (field payload "request_id").toStr
  ensure ((field payload "claim_id").eq p.claimId && p.claimId.truthy)
    "release belongs to a different claim"
  let key ← releaseKey p.trustedReleaseKeys (field payload "signing_key_id")
  ensure key.truthy "untrusted release signing key"
  let expiry ← v.fromisoformat (field payload "expires_at").toStr
  ensure (expiry.aware && decide (now < expiry.utc)) "expired release request"
  if v.verifies key (signedBody payload) (field payload "signature") then return requestId
  else throw .invalidSignature

/-- The steps of `_handle_release` until `clear_claim_buffer` finds the directory of the buffer
    unsafe. -/
def stoppedSteps (config : Json) : List (Step NovenaGateway) :=
  [⟨true, fun g => { g with configFile := config }⟩,
   ⟨false, fun g => { g with publisher := { g.publisher with releaseInProgress := true } }⟩] ++
  NovenaGateway.resetFieldState config ++ NovenaGateway.clearClaimBuffer.take 1

/-- The steps of `_handle_release` between the check and the acknowledgement: `config` is written
    first, `config'` last. The gateway holds the dictionary the request id is put into. -/
def releaseSteps (config config' : Json) (requestId : String) : List (Step NovenaGateway) :=
  [⟨true, fun g => { g with configFile := config }⟩,
   ⟨false, fun g => { g with publisher := { g.publisher with releaseInProgress := true } }⟩] ++
  NovenaGateway.resetFieldState config ++ NovenaGateway.clearClaimBuffer ++
  [⟨false, fun g => { g with config := config' }⟩,
   ⟨true, fun g => { g with configFile := config' }⟩,
   ⟨false, fun g => { g with publisher :=
      { g.publisher with releaseRequestId := .str requestId } }⟩]

/-- An operation and the request id of the release acknowledgement it ends with, if it does. -/
structure Operation where
  steps : List (Step NovenaGateway)
  releaseAck : Option String

/-- Nothing happens but a log line or a `failed` acknowledgement. -/
def Operation.refused : Operation := ⟨[], none⟩

/-- `_handle_release`. -/
def handleRelease (v : ReleaseVerifier) (g : NovenaGateway) (now : Int)
    (payload : Dict String Json) : Py Operation := do
  let requestId ← verifyRelease v g.publisher now payload
  if g.publisher.releaseRequestId.eq (.str requestId) then return ⟨[], some requestId⟩ else
  let config ← releasedConfig g.configFile
  let config' ← requestedConfig config requestId
  if g.buffer.isSafe then return ⟨releaseSteps config config' requestId, some requestId⟩
  else return ⟨stoppedSteps config, none⟩

/-! ## Credentials -/

/-- The last step of `_rotate_password` before its acknowledgement. -/
def Credentials.adopt (c : Credentials) (p : MqttPublisher) : MqttPublisher :=
  let p := { p with
    username := if c.username.truthy then c.username else p.username
    password := c.password
    bootstrapMode := false }
  if c.claims then
    { p with claimId := c.claimId, releaseRequestId := .null, releaseInProgress := false,
             operationalCredentialsRetired := false }
  else p

/-- `claim_changed`. -/
def Credentials.changesClaim (c : Credentials) (p : MqttPublisher) : Bool :=
  c.claims && !c.claimId.eq p.claimId

/-- The steps of `_rotate_password`. -/
def rotateSteps (config : Json) (c : Credentials) (claimChanged : Bool) :
    List (Step NovenaGateway) :=
  [⟨true, fun g => { g with configFile := config }⟩] ++
  (if claimChanged then NovenaGateway.resetFieldState config else []) ++
  [⟨false, fun g => { g with publisher := c.adopt g.publisher }⟩]

/-- `_rotate_password`. -/
def rotatePassword (g : NovenaGateway) (c : Credentials) : Py Operation := do
  let claimChanged := c.changesClaim g.publisher
  let config ← rotatedConfig g.configFile c claimChanged
  return ⟨rotateSteps config c claimChanged, none⟩

/-- Where `_rotate_password` catches an exception: around the file, before it is replaced, and
    around the callback after some of its steps. -/
inductive RotateFailure where
  | file
  | callback (done : Nat)

/-- `credential_update_status`. -/
inductive CredentialStatus where
  | success
  | failed
  deriving DecidableEq

/-- `_rotate_password` up to its acknowledgement, when an exception may be caught: what it leaves
    and the status it acknowledges. The callback is not called for the claim it has. -/
def rotateEnd (g : NovenaGateway) (c : Credentials) (failure : Option RotateFailure) :
    NovenaGateway × CredentialStatus :=
  let claimChanged := c.changesClaim g.publisher
  match rotatedConfig g.configFile c claimChanged, failure with
  | .error _, _ | .ok _, some .file => (g, .failed)
  | .ok config, some (.callback done) =>
    if claimChanged then
      (Step.perform ((NovenaGateway.resetFieldState config).take done)
        { g with configFile := config }, .failed)
    else (Step.perform (rotateSteps config c claimChanged) g, .success)
  | .ok config, none => (Step.perform (rotateSteps config c claimChanged) g, .success)

/-- The arguments `_on_provision_message` reads; none without a password. -/
def readCredentials (p : MqttPublisher) (payload : Dict String Json) (activate : Bool) :
    Py (Option Credentials) := do
  let mqtt := (field payload "mqtt").orElse (.obj [])
  let password := (field payload "new_password").orElse (← mqtt.get "password")
  let username := (← mqtt.get "username").orElse p.serialNumber
  if !password.truthy then return none else
  return some { password, username, claimId := field payload "claim_id", activate }

/-- `_on_provision_message`. An exception that leaves it is logged by `_on_message`. -/
def onProvisionMessage (v : ReleaseVerifier) (g : NovenaGateway) (now : Int)
    (payload : Dict String Json) : Operation :=
  let action := field payload "action"
  let operation : Py Operation :=
    if action.eq (.str "release") then handleRelease v g now payload
    else if action.eq (.str "rotate_password") || action.eq (.str "activate") then do
      match ← readCredentials g.publisher payload (action.eq (.str "activate")) with
      | some c => rotatePassword g c
      | none => return .refused
    else return .refused
  match operation with
  | .ok operation => operation
  | .error _ => .refused

/-! ## Refused connections -/

/-- The steps of `_retire_revoked_operational_credentials`. -/
def retireSteps (config : Json) : List (Step NovenaGateway) :=
  [⟨false, fun g => { g with configJournal := (g.configJournal.reset false).1 }⟩,
   ⟨true, fun g => { g with configJournal := (g.configJournal.reset true).1 }⟩,
   ⟨false, fun g => { g with config }⟩,
   ⟨true, fun g => { g with configFile := config }⟩,
   ⟨false, fun g => { g with publisher :=
      { g.publisher with
        username := .str "", password := .str "", claimId := .null,
        operationalCredentialsRetired := true, consecutiveFailures := 2 } }⟩]

/-- `_retire_revoked_operational_credentials`, which does something only after a release that was
    completed, and only once. -/
def retireRevokedOperationalCredentials (g : NovenaGateway) : List (Step NovenaGateway) :=
  let p := g.publisher
  if !p.releaseInProgress || !p.releaseRequestId.truthy || p.operationalCredentialsRetired ||
      p.bootstrapMode then []
  else match retiredConfig g.configFile p.releaseRequestId with
    | .ok (some config) => retireSteps config
    | _ => []

/-- What the broker answers to a connection. -/
inductive ConnectResult where
  | accepted
  | notAuthorized
  | refused
  deriving DecidableEq

/-- `_on_connect` up to the failure count. -/
def onConnectSteps (g : NovenaGateway) : ConnectResult → List (Step NovenaGateway)
  | .notAuthorized => retireRevokedOperationalCredentials g
  | _ => []

/-- The end of `_on_connect`. -/
def onConnectEnd (g : NovenaGateway) : ConnectResult → NovenaGateway
  | .accepted =>
    { g with publisher := { g.publisher with connected := true, consecutiveFailures := 0 } }
  | _ => { g with publisher := g.publisher.connectionFailed }

end Provision

end Novena
