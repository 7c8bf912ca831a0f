import NovenaGateway.Native.Json

/-!
# The MQTT publisher

The state of `NovenaMqttPublisher` and what it does on its own: tagging a payload with the claim,
queueing it or buffering it in SQLite, publishing and replaying, and falling back to the bootstrap
credentials. What the broker, the client and the queue's bound answer is an argument. The
provisioning messages also change the gateway and are in `Native.Provision`.
-/

namespace Novena

/-- An item of the publish queue or of the offline buffer: `{"topic", "payload", "claim_id"}`. -/
structure MqttEvent where
  topic : String
  payload : Json
  claimId : Json

/-- `NovenaMqttPublisher`. `storage` is the SQLite buffer, the rest is lost with the process. -/
structure MqttPublisher where
  serialNumber : Json
  username : Json
  password : Json
  bootstrap : Json
  claimId : Json
  trustedReleaseKeys : Json
  releaseRequestId : Json
  releaseInProgress : Bool
  operationalCredentialsRetired : Bool
  bootstrapMode : Bool
  connected : Bool
  consecutiveFailures : Nat
  queue : List MqttEvent
  storage : List MqttEvent

namespace MqttPublisher

/-- `__init__` on the section `mqtt` of the configuration, over the events in the buffer. -/
def init (serialNumber : Json) (config : Dict String Json) (storage : List MqttEvent) :
    Py MqttPublisher := do
  let get (key : String) (default : Json) : Json := (Dict.get? config key).getD default
  let username := get "username" (.str "")
  let password := get "password" (.str "")
  let bootstrap := ((get "bootstrap" .null).orElse (get "bootstrap_mqtt" .null)).orElse (.obj [])
  let releaseRequestId := get "release_request_id" .null
  let releaseInProgress := (get "mode" .null).eq (.str "release_pending")
  let retired := releaseInProgress && releaseRequestId.truthy && !username.truthy &&
    !password.truthy
  let p : MqttPublisher :=
    { serialNumber, username, password, bootstrap, claimId := get "claim_id" .null,
      trustedReleaseKeys := (get "trusted_release_keys" .null).orElse (.obj []), releaseRequestId,
      releaseInProgress, operationalCredentialsRetired := retired, bootstrapMode := false,
      connected := false, consecutiveFailures := 0, queue := [], storage }
  if username.truthy || !retired then return p else
  if !(← bootstrap.get "enabled").truthy then return p else
  let username ← bootstrap.getD "username" (.str "")
  let password ← bootstrap.getD "password" (.str "")
  return { p with username, password, bootstrapMode := username.truthy && password.truthy }

/-! ## Publishing -/

/-- `_scoped_topic`. -/
def scopedTopic (p : MqttPublisher) (suffix : String) : String :=
  if p.serialNumber.truthy then "v1/gateway/" ++ p.serialNumber.toStr ++ "/" ++ suffix
  else "v1/gateway/" ++ suffix

/-- `s.endswith(suffix)`. -/
def endsWith (s suffix : String) : Bool := suffix.toList.isSuffixOf s.toList

/-- `_with_claim_id`. -/
def withClaimId (p : MqttPublisher) (payload : Dict String Json) (topic : String) :
    Dict String Json :=
  if p.claimId.truthy && (endsWith topic "/telemetry" || endsWith topic "/logs") then
    payload.set "claim_id" p.claimId
  else payload

/-- `_buffer_event`, which drops the event while a release is in progress. -/
def bufferEvent (p : MqttPublisher) (event : MqttEvent) : MqttPublisher :=
  if p.releaseInProgress then p else { p with storage := p.storage ++ [event] }

/-- `publish`: `full` says that the queue has no room, and then its oldest event is dropped. -/
def publish (p : MqttPublisher) (payload : Dict String Json) (topic : String) (full : Bool) :
    MqttPublisher :=
  if p.releaseInProgress then p else
  let event : MqttEvent := ⟨topic, .obj (p.withClaimId payload topic), p.claimId⟩
  if p.connected then
    { p with queue := (if full then p.queue.tail else p.queue) ++ [event] }
  else p.bufferEvent event

/-- One round of `_publish_loop`: `accepted` says whether the client took the event. -/
def publishLoop (p : MqttPublisher) (accepted : Bool) : MqttPublisher :=
  match p.queue with
  | [] => p
  | event :: queue =>
    let p := { p with queue }
    if !event.claimId.eq p.claimId || p.releaseInProgress then p
    else if p.connected && !p.bootstrapMode && accepted then p
    else p.bufferEvent event

/-- The end of a round of `_replay_loop` in which the client took, or the claim discarded, every
    one of the leading `n` events: they are deleted from the buffer. -/
def replayed (p : MqttPublisher) (n : Nat) : MqttPublisher :=
  if p.connected && !p.bootstrapMode && !p.releaseInProgress then
    { p with storage := p.storage.drop n }
  else p

/-! ## Connection -/

/-- `_switch_to_bootstrap_if_needed`. A section `bootstrap` that is no object raises, which ends
    the callback with nothing changed. -/
def switchToBootstrapIfNeeded (p : MqttPublisher) : MqttPublisher :=
  if p.bootstrapMode || p.consecutiveFailures < 3 then p
  else if p.releaseInProgress && p.releaseRequestId.truthy && !p.operationalCredentialsRetired then
    p
  else
    let username := p.bootstrap.field "username"
    let password := p.bootstrap.field "password"
    if (p.bootstrap.field "enabled").truthy && username.truthy && password.truthy then
      { p with bootstrapMode := true, username, password }
    else p

/-- The failure count of `_on_connect` and `_on_disconnect`. -/
def connectionFailed (p : MqttPublisher) : MqttPublisher :=
  switchToBootstrapIfNeeded
    { p with connected := false, consecutiveFailures := p.consecutiveFailures + 1 }

/-- `_on_disconnect`: `clean` says that the reason code is 0. -/
def onDisconnect (p : MqttPublisher) (clean : Bool) : MqttPublisher :=
  if clean then { p with connected := false } else p.connectionFailed

end MqttPublisher

end Novena
