import NovenaGateway.ForStd.Run
import NovenaGateway.Native.Lifecycle
import NovenaGateway.Native.RemoteLog

/-!
# The way of site data to the publisher

A connector hands its samples to `send_to_storage`; `_data_processing_loop` takes them from the
queue, formats them and publishes them under `_field_claim_lock`. Log records wait in the remote log
handler until a flush publishes them. Both get the claim of the publisher when they are published.
The network thread changes the claim meanwhile, one `NetworkStep` after the other, and connectors
are stopped and started.

`step` takes one action of one thread at a time. Where a sample or a record was made, and what was
published, is history: no function reads it.
-/

namespace Novena

/-! ## `PayloadFormatter` -/

/-- A `TelemetryEntry`, its keys as `format` writes them. -/
structure TelemetryEntry where
  ts : Json
  values : List (String × Json)

/-- What `format` reads of a `ConvertedData`. -/
structure ConvertedData where
  deviceName : Json
  deviceId : Json
  telemetry : List TelemetryEntry
  attributes : List (String × Json)

namespace PayloadFormatter

/-- `values`, with the name of the device. -/
def values (data : ConvertedData) (pairs : List (String × Json)) : Json :=
  .obj (Dict.set (pairs.foldl (fun d p => Dict.set d p.1 p.2) []) "device_name" data.deviceName)

/-- `payload["device_id"] = device_id`, where there is one. -/
def withDeviceId (data : ConvertedData) (payload : Dict String Json) : Dict String Json :=
  if data.deviceId.truthy then payload.set "device_id" data.deviceId else payload

/-- `format`: one payload for each telemetry entry, and one for the attributes. -/
def format (serialNumber : Json) (data : ConvertedData) : List (Dict String Json) :=
  (data.telemetry.map fun entry => withDeviceId data
    [("serial_number", serialNumber), ("ts", entry.ts), ("device_name", data.deviceName),
     ("values", values data entry.values)]) ++
  if data.attributes.isEmpty then [] else
    [withDeviceId data
      [("serial_number", serialNumber), ("device_name", data.deviceName),
       ("values", values data data.attributes)]]

end PayloadFormatter

/-! ## The network thread -/

/-- What the network thread does between two actions of another thread. -/
inductive NetworkStep where
  /-- `config.json` is replaced. -/
  | write (config : Json)
  | beginRelease
  /-- `_reset_field_state_for_new_claim`, which holds the lock. -/
  | reset (config : Json)
  | clearQueue
  | clearStorage
  | hold (config : Json)
  | endRelease (requestId : String)
  | adopt (c : Provision.Credentials)
  | resetJournal
  | retire
  /-- The end of `_on_connect`. -/
  | connected (result : Provision.ConnectResult)

namespace NetworkStep

/-- The part of an operation of `Native.Provision` it is. -/
def steps : NetworkStep → List (Step NovenaGateway)
  | write config => [⟨true, fun g => { g with configFile := config }⟩]
  | beginRelease =>
    [⟨false, fun g => { g with publisher := { g.publisher with releaseInProgress := true } }⟩]
  | reset config => NovenaGateway.resetFieldState config
  | clearQueue =>
    [⟨false, fun g => { g with publisher :=
        { g.publisher with releaseInProgress := true, queue := [] } }⟩]
  | clearStorage =>
    [⟨true, NovenaGateway.eraseBuffer⟩]
  | hold config => [⟨false, fun g => { g with config }⟩]
  | endRelease requestId =>
    [⟨false, fun g => { g with publisher :=
        { g.publisher with releaseRequestId := .str requestId } }⟩]
  | adopt c => [⟨false, fun g => { g with publisher := c.adopt g.publisher }⟩]
  -- in memory and then on the disk
  | resetJournal =>
    [⟨false, fun g => { g with configJournal := (g.configJournal.reset false).1 }⟩,
     ⟨true, fun g => { g with configJournal := (g.configJournal.reset true).1 }⟩]
  | retire =>
    [⟨false, fun g => { g with publisher :=
        { g.publisher with
          username := .str "", password := .str "", claimId := .null,
          operationalCredentialsRetired := true, consecutiveFailures := 2 } }⟩]
  | connected result => [⟨false, fun g => Provision.onConnectEnd g result⟩]

/-- `_handle_release`. -/
def handleRelease (v : ReleaseVerifier) (g : NovenaGateway) (now : Int)
    (payload : Dict String Json) : Py (List NetworkStep) := do
  let requestId ← Provision.verifyRelease v g.publisher now payload
  if g.publisher.releaseRequestId.eq (.str requestId) then return [] else
  let config ← Provision.releasedConfig g.configFile
  let config' ← Provision.requestedConfig config requestId
  return [.write config, .beginRelease, .reset config, .clearQueue] ++
    if g.buffer.isSafe then [.clearStorage, .hold config', .write config', .endRelease requestId]
    else []

/-- `_rotate_password`. -/
def rotatePassword (g : NovenaGateway) (c : Provision.Credentials) : Py (List NetworkStep) := do
  let claimChanged := c.changesClaim g.publisher
  let config ← Provision.rotatedConfig g.configFile c claimChanged
  return [.write config] ++ (if claimChanged then [.reset config] else []) ++ [.adopt c]

/-- `_on_provision_message`. -/
def onProvisionMessage (v : ReleaseVerifier) (g : NovenaGateway) (now : Int)
    (payload : Dict String Json) : List NetworkStep :=
  let action := GovernedCommandGuard.field payload "action"
  let steps : Py (List NetworkStep) :=
    if action.eq (.str "release") then handleRelease v g now payload
    else if action.eq (.str "rotate_password") || action.eq (.str "activate") then do
      match ← Provision.readCredentials g.publisher payload (action.eq (.str "activate")) with
      | some c => rotatePassword g c
      | none => return []
    else return []
  match steps with
  | .ok steps => steps
  -- an exception is logged
  | .error _ => []

/-- `_retire_revoked_operational_credentials`. -/
def retireRevokedOperationalCredentials (g : NovenaGateway) : List NetworkStep :=
  let p := g.publisher
  if !p.releaseInProgress || !p.releaseRequestId.truthy || p.operationalCredentialsRetired ||
      p.bootstrapMode then []
  else match Provision.retiredConfig g.configFile p.releaseRequestId with
    | .ok (some config) => [.resetJournal, .hold config, .write config, .retire]
    | _ => []

/-- `_on_connect`. -/
def onConnect (g : NovenaGateway) (result : Provision.ConnectResult) : List NetworkStep :=
  (match result with
    | .notAuthorized => retireRevokedOperationalCredentials g
    | _ => []) ++ [.connected result]

/-- What an exception in an operation does not keep from being done. -/
def closes : NetworkStep → Bool
  | .connected _ => true
  | _ => false

end NetworkStep

/-! ## The threads -/

/-- An item of `_data_queue`, and the claim under which it was made. -/
structure Sample where
  connector : Json
  data : ConvertedData
  claimId : Json

/-- Where `_data_processing_loop` stands. It holds the lock while it publishes. -/
inductive DataLoop where
  | idle
  | holding (sample : Sample)
  | publishing (sample : Sample) (payload : Dict String Json) (payloads : List (Dict String Json))

/-- The loop goes on with these payloads of a sample. -/
def DataLoop.rest (sample : Sample) : List (Dict String Json) → DataLoop
  | [] => .idle
  | payload :: payloads => .publishing sample payload payloads

/-- A payload that was published, with what it was made of. -/
inductive Published where
  | telemetry (sample : Sample) (payload : Dict String Json)
  | logs (batch : List LogEntry) (payload : Dict String Json)

/-- The gateway with the threads its site data passes through. `samples` are those the connectors
    have made and not yet handed over, `flushes` the batches each flush still has to publish,
    `network` what is left of the message the network thread handles. -/
structure SiteData where
  gateway : NovenaGateway
  samples : List Sample
  dataQueue : List Sample
  dataLoop : DataLoop
  logHandler : RemoteLogHandler
  flushes : Dict Nat (List (List LogEntry))
  network : List NetworkStep
  trace : List Published

namespace SiteData

/-- One action, with what the environment decides. Of a publication it says whether the queue is
    full, or that `publish` raises. -/
inductive Label where
  /-- A connector, which may have been closed, has a sample. -/
  | poll (connector : Json) (data : ConvertedData)
  | sendToStorage (i : Nat)
  | dequeue
  | process
  | publishNext (full : Option Bool)
  | emit (record : LogRecord) (now wall : Int)
  | flush (i : Nat) (now wall : Int)
  | publishBatch (i : Nat) (ts : Int) (full : Option Bool)
  | stopLogs
  /-- A message or an event reaches the network thread. -/
  | provision (now : Int) (payload : Dict String Json)
  | connect (result : Provision.ConnectResult)
  | disconnect (clean : Bool)
  | configUpdate (cfg : GuardConfig) (clock : Clock) (payload : Json)
      (outcomes rollbackOutcomes : Nat → StartOutcome)
  | network
  | networkRaises (n : Nat)
  /-- A configuration update, a command or the start of the process stops or starts connectors. -/
  | stopConnectors
  | stopConnector (i : Nat)
  | startConnector (name : Json)
  /-- The publisher's own threads. -/
  | publishLoop (accepted : Bool)
  | replayed (n : Nat)

variable (s : SiteData)

/-- `publish` of a payload made of `published`, which tells what becomes of it. -/
def publish (payload : Dict String Json) (topic : String) (full : Bool)
    (published : Dict String Json → Published) : SiteData :=
  let p := s.gateway.publisher
  { s with
    gateway.publisher := p.publish payload topic full
    trace := if p.releaseInProgress then s.trace
      else s.trace ++ [published (p.withClaimId payload topic)] }

/-! ## `_data_processing_loop` -/

/-- `send_to_storage`. -/
def sendToStorage (i : Nat) : Option SiteData :=
  s.samples[i]?.map fun sample =>
    { s with samples := s.samples.eraseIdx i, dataQueue := s.dataQueue ++ [sample] }

/-- `_data_queue.get`. -/
def dequeue : Option SiteData :=
  match s.dataLoop, s.dataQueue with
  | .idle, sample :: dataQueue => some { s with dataQueue, dataLoop := .holding sample }
  | _, _ => none

/-- The loop gets the lock, and looks whether a connector runs. -/
def process : Option SiteData :=
  match s.dataLoop with
  | .holding sample =>
    if s.gateway.connectors.isEmpty then some { s with dataLoop := .idle } else
    let payloads := PayloadFormatter.format s.gateway.publisher.serialNumber sample.data
    some { s with dataLoop := .rest sample payloads }
  | _ => none

/-- The next payload of the sample is published; an exception leaves the others out. -/
def publishNext (full : Option Bool) : Option SiteData :=
  match s.dataLoop with
  | .publishing sample payload payloads =>
    match full with
    | some full =>
      let topic := s.gateway.publisher.scopedTopic "telemetry"
      some { s.publish payload topic full (.telemetry sample) with
        dataLoop := .rest sample payloads }
    | none => some { s with dataLoop := .idle }
  | _ => none

/-- The loop holds `_field_claim_lock`. -/
def locked : Bool :=
  match s.dataLoop with
  | .publishing .. => true
  | _ => false

/-! ## The remote log -/

/-- `_flush` on a thread takes what has gathered. -/
def flush (i : Nat) (now wall : Int) : Option SiteData :=
  match s.flushes.get? i with
  | some _ => none
  | none =>
    let (batches, logHandler) := s.logHandler.flush now wall
    some { s with logHandler, flushes := s.flushes.set i batches }

/-- A flush publishes its next batch, or ends. -/
def publishBatch (i : Nat) (ts : Int) (full : Option Bool) : Option SiteData :=
  match s.flushes.get? i with
  | some (batch :: batches) =>
    -- the batch leaves the list before it is published
    let flushes := s.flushes.set i batches
    match full with
    | some full =>
      let payload := RemoteLogHandler.payload s.gateway.publisher.serialNumber ts batch
      let topic := s.gateway.publisher.scopedTopic "logs"
      some { s.publish payload topic full (.logs batch) with flushes }
    | none => some { s with flushes }
  -- all batches are out
  | some [] => some { s with flushes := s.flushes.erase i }
  | none => none

/-! ## The network thread -/

/-- The network thread takes up a message when it is done with the one before. -/
def receive (steps : List NetworkStep) : Option SiteData :=
  match s.network with
  | [] => some { s with network := steps }
  | _ => none

/-- Some of the steps of a network step. With the first of them a reset replaces the queue. -/
def carryOut (step : NetworkStep) (steps : List (Step NovenaGateway)) : SiteData :=
  { s with
    gateway := Step.perform steps s.gateway
    dataQueue := match step with
      | .reset _ => []
      | _ => s.dataQueue }

/-- A reset waits for the lock. -/
def waits : NetworkStep → Bool
  | .reset _ => s.locked
  | _ => false

/-- The next network step. -/
def advance : Option SiteData :=
  match s.network with
  | [] => none
  | step :: network =>
    if s.waits step then none else some { s.carryOut step step.steps with network }

/-- An exception leaves the next network step after `n` of its steps. -/
def advanceRaises (n : Nat) : Option SiteData :=
  match s.network with
  | [] => none
  | step :: network =>
    if s.waits step then none
    else if Step.RaisesAfter step.steps n then
      some { s.carryOut step (step.steps.take n) with
        network := network.filter NetworkStep.closes }
    else none

/-! ## The system -/

/-- A gateway that has just started. -/
def start (gateway : NovenaGateway) (settings : LogSettings) : SiteData :=
  { gateway, samples := [], dataQueue := [], dataLoop := .idle,
    logHandler := .init settings, flushes := [], network := [], trace := [] }

variable (host : Host) (v : ReleaseVerifier)

/-- One action. What a configuration update does to the connectors is left to the labels that stop
    and start them. -/
def step (s : SiteData) : Label → Option SiteData
  | .poll connector data =>
    -- the connector tags the sample when it reads it
    some { s with samples := s.samples ++ [⟨connector, data, s.gateway.publisher.claimId⟩] }
  | .sendToStorage i => s.sendToStorage i
  | .dequeue => s.dequeue
  | .process => s.process
  | .publishNext full => s.publishNext full
  | .emit record now wall =>
    -- the record is tagged when it is made
    let record := { record with claimId := s.gateway.publisher.claimId }
    some { s with logHandler := s.logHandler.emit record now wall }
  | .flush i now wall => s.flush i now wall
  | .publishBatch i ts full => s.publishBatch i ts full
  | .stopLogs => some { s with logHandler.stopped := true }
  | .provision now payload => s.receive (NetworkStep.onProvisionMessage v s.gateway now payload)
  | .connect result => s.receive (NetworkStep.onConnect s.gateway result)
  | .disconnect clean =>
    (s.receive []).map fun s =>
      { s with gateway.publisher := s.gateway.publisher.onDisconnect clean }
  | .configUpdate cfg clock payload outcomes rollbackOutcomes =>
    (s.receive []).map fun s =>
      let handled := (RemoteConfigHandler.onConfigUpdate host cfg s.gateway clock payload outcomes
        rollbackOutcomes).1
      -- connectors start and stop as actions of their own
      { s with gateway := { handled with connectors := s.gateway.connectors } }
  | .network => s.advance
  | .networkRaises n => s.advanceRaises n
  | .stopConnectors => some { s with gateway.connectors := [] }
  | .stopConnector i => some { s with gateway.connectors := s.gateway.connectors.eraseIdx i }
  | .startConnector name => some { s with gateway.connectors := s.gateway.connectors ++ [name] }
  | .publishLoop accepted =>
    some { s with gateway.publisher := s.gateway.publisher.publishLoop accepted }
  | .replayed n => some { s with gateway.publisher := s.gateway.publisher.replayed n }

/-- A run. -/
def exec (s : SiteData) (labels : List Label) : Option SiteData :=
  Run.exec (step host v) s labels

/-- A gateway that has just started, over any files. -/
def Booted (s : SiteData) : Prop :=
  ∃ cfg disk gateway settings,
    NovenaGateway.boot host cfg disk = some gateway ∧ s = start gateway settings

end SiteData

end Novena
