import NovenaGateway.ForStd.Run
import NovenaGateway.Native.Provision

/-!
# The threads of the MQTT publisher

`publish` is called from any thread, `_publish_loop` and `_replay_loop` run on their own, the
callbacks and the provisioning messages come on the network thread, and `disconnect` on the main
one. `step` takes one action of one of them at a time; looking at a message and handing it to the
client is one action. The buffer gives out the same leading events until they are deleted, and only
`clear_claim_buffer` empties it otherwise.

The trace is history: no function reads it.
-/

namespace Novena

/-- What is left of a call of `publish` once the event is made. -/
inductive PublishCall where
  | enqueue (event : MqttEvent)
  /-- The queue was full. -/
  | dropOldest (event : MqttEvent)
  | enqueueAgain (event : MqttEvent)
  | buffer (event : MqttEvent)

/-- Where `_publish_loop` stands. -/
inductive PublishLoop where
  | idle
  | waiting
  | taken (event : MqttEvent)
  | buffering (event : MqttEvent)
  | ended

/-- One turn of the loop over a pack: the claim it was compared with, whether it counts as a success
    and whether the client took the event. -/
structure Examination where
  event : MqttEvent
  claimId : Json
  counted : Bool
  accepted : Bool

/-- Where `_replay_loop` stands. `exiting` is past the loop, with the thread still alive. -/
inductive ReplayLoop where
  | off
  | top
  | counting
  | fetching
  | replaying (pack : List MqttEvent) (examined : List Examination)
  | concluding (pack : List MqttEvent) (examined : List Examination)
  | exiting

/-- Where `disconnect` stands. -/
inductive Shutdown where
  | none
  | stopping
  | flushing
  | flushed

/-- Who hands a message to the MQTT client. -/
inductive Consumer where
  | publishLoop
  | replayLoop
  | flushQueue

/-- What happened to the messages, in order. -/
inductive Transfer where
  | published (event : MqttEvent)
  | handed (consumer : Consumer) (event : MqttEvent) (claimId : Json) (accepted : Bool)
  /-- An event of another claim, or one met while a release is in progress. -/
  | discarded (event : MqttEvent)
  /-- The oldest of a full queue, or one the buffer refused. -/
  | dropped (event : MqttEvent)
  | deleted (pack : List MqttEvent) (examined : List Examination)

/-- `NovenaMqttPublisher` with its threads. `batch` is the length of the pack the buffer has
    prepared, if it has. -/
structure MqttThreads where
  publisher : MqttPublisher
  maxQueueSize : Nat
  stopped : Bool
  storageStopped : Bool
  batch : Nat
  droppedMessageCount : Nat
  calls : Dict Nat PublishCall
  publishLoop : PublishLoop
  replayLoop : ReplayLoop
  shutdown : Shutdown
  trace : List Transfer

/-- How the examination of a buffered event goes: `raised` when its text does not parse, or when
    the client raises. -/
inductive ReplayOutcome where
  | accepted
  | failed
  | raised
  deriving DecidableEq

namespace MqttThreads

/-- One action, with what the environment answers: whether the client accepts a message, whether
    the buffer stores one, the length of the pack it prepares. -/
inductive Label where
  | publish (i : Nat) (payload : Dict String Json) (topic : String)
  | resume (i : Nat) (stored : Bool)
  | beginRound
  | take
  | forward (accepted : Bool)
  | storeTaken (stored : Bool)
  | beginReplayRound
  | count
  | fetch (n : Nat)
  | examine (outcome : ReplayOutcome)
  | conclude
  | exit
  | connect
  | connectFailed (notAuthorized retires : Bool)
  | connectionLost (clean : Bool)
  | adopt (c : Provision.Credentials)
  | beginRelease
  | clearQueue
  | clearStorage
  | endRelease (requestId : String)
  | stop
  | stopStorage
  | flush (accepted : Bool)
  | restart (serialNumber : Json) (config : Dict String Json)

variable (s : MqttThreads)

/-- Record what happened. -/
def emit (t : Transfer) : MqttThreads := { s with trace := s.trace ++ [t] }

/-! ## `publish` -/

/-- `publish` up to the choice between the queue and the buffer; it reads the claim once. -/
def publish (i : Nat) (payload : Dict String Json) (topic : String) : Option MqttThreads :=
  match s.calls.get? i with
  | some _ => none
  | none =>
    if s.publisher.releaseInProgress then some s else
    let event : MqttEvent :=
      ⟨topic, .obj (s.publisher.withClaimId payload topic), s.publisher.claimId⟩
    let call := if s.publisher.connected then .enqueue event else .buffer event
    some { s.emit (.published event) with calls := s.calls.set i call }

/-- `_queue.put_nowait` would raise `Full`. -/
def full : Bool := decide (0 < s.maxQueueSize ∧ s.maxQueueSize ≤ s.publisher.queue.length)

/-- `_queue.put_nowait`. -/
def enqueue (event : MqttEvent) : MqttThreads :=
  { s with publisher.queue := s.publisher.queue ++ [event] }

/-- `_buffer_event`, and the count when it returns `False`. -/
def bufferEvent (event : MqttEvent) (stored : Bool) : MqttThreads :=
  if s.publisher.releaseInProgress || stored && !s.storageStopped then
    { s with publisher := s.publisher.bufferEvent event }
  else { s.emit (.dropped event) with droppedMessageCount := s.droppedMessageCount + 1 }

/-- `_queue.get_nowait` on a full queue, and the count. -/
def dropOldest : MqttThreads :=
  let s := { s with droppedMessageCount := s.droppedMessageCount + 1 }
  match s.publisher.queue with
  | [] => s
  | oldest :: queue => { s.emit (.dropped oldest) with publisher.queue := queue }

/-- A call of `publish` goes on. When the queue is full again, `Full` leaves it. -/
def resume (i : Nat) (call : PublishCall) (stored : Bool) : MqttThreads :=
  match call with
  | .enqueue event =>
    if s.full then { s with calls := s.calls.set i (.dropOldest event) }
    else { s.enqueue event with calls := s.calls.erase i }
  | .dropOldest event => { s.dropOldest with calls := s.calls.set i (.enqueueAgain event) }
  | .enqueueAgain event =>
    { (if s.full then s else s.enqueue event) with calls := s.calls.erase i }
  | .buffer event => { s.bufferEvent event stored with calls := s.calls.erase i }

/-! ## `_publish_loop` -/

/-- `while not self._stopped`. -/
def beginRound : Option MqttThreads :=
  match s.publishLoop with
  | .idle => some { s with publishLoop := if s.stopped then .ended else .waiting }
  | _ => none

/-- `_queue.get`, which ends empty-handed after a while. -/
def take : Option MqttThreads :=
  match s.publishLoop with
  | .waiting =>
    match s.publisher.queue with
    | [] => some { s with publishLoop := .idle }
    | event :: queue => some { s with publisher.queue := queue, publishLoop := .taken event }
  | _ => none

/-- The checks on an event, and `_client.publish`. -/
def forward (accepted : Bool) : Option MqttThreads :=
  match s.publishLoop with
  | .taken event =>
    if !event.claimId.eq s.publisher.claimId || s.publisher.releaseInProgress then
      some { s.emit (.discarded event) with publishLoop := .idle }
    else if s.publisher.connected && !s.publisher.bootstrapMode then
      some { s.emit (.handed .publishLoop event s.publisher.claimId accepted) with
        publishLoop := if accepted then .idle else .buffering event }
    else some { s with publishLoop := .buffering event }
  | _ => none

/-- The event that was not sent is buffered. -/
def storeTaken (stored : Bool) : Option MqttThreads :=
  match s.publishLoop with
  | .buffering event => some { s.bufferEvent event stored with publishLoop := .idle }
  | _ => none

/-! ## `_replay_loop` -/

/-- `_trigger_replay`. -/
def triggerReplay : MqttThreads :=
  match s.replayLoop with
  | .off => { s with replayLoop := .top }
  | _ => s

/-- The condition of the loop. -/
def replays : Bool :=
  !s.stopped && s.publisher.connected && !s.publisher.bootstrapMode &&
    !s.publisher.releaseInProgress

/-- The loop begins another round, or ends. -/
def beginReplayRound : Option MqttThreads :=
  match s.replayLoop with
  | .top => some { s with replayLoop := if s.replays then .counting else .exiting }
  | _ => none

/-- `_storage.len()`. -/
def count : Option MqttThreads :=
  match s.replayLoop with
  | .counting =>
    some { s with replayLoop := if s.publisher.storage.isEmpty then .exiting else .fetching }
  | _ => none

/-- `_storage.get_event_pack()`: `n` is the length of a new pack. -/
def fetch (n : Nat) : Option MqttThreads :=
  match s.replayLoop with
  | .fetching =>
    if s.storageStopped then some { s with replayLoop := .top } else
    let batch := if s.batch = 0 then min n s.publisher.storage.length else s.batch
    let pack := s.publisher.storage.take batch
    some { s with batch, replayLoop := if pack.isEmpty then .top else .replaying pack [] }
  | _ => none

/-- One turn of the loop over the pack. -/
def examine (outcome : ReplayOutcome) : Option MqttThreads :=
  match s.replayLoop with
  | .replaying pack examined =>
    let claimId := s.publisher.claimId
    match pack[examined.length]? with
    -- the end of the pack
    | none => some { s with replayLoop := .concluding pack examined }
    | some event =>
      -- the replay may not go on
      if s.stopped || !s.publisher.connected || s.publisher.releaseInProgress then
        some { s with replayLoop := .concluding pack examined }
      -- one event that cannot be read does not stop the others
      else if outcome = .raised then
        some { s with replayLoop := .replaying pack (examined ++ [⟨event, claimId, false, false⟩]) }
      -- an event of another claim counts as examined and is not sent
      else if !event.claimId.eq claimId then
        some { s with replayLoop := .replaying pack (examined ++ [⟨event, claimId, true, false⟩]) }
      -- a bootstrap session sends no telemetry
      else if s.publisher.bootstrapMode then
        some { s with replayLoop := .concluding pack examined }
      else
        let accepted := decide (outcome = .accepted)
        some { s.emit (.handed .replayLoop event claimId accepted) with
          replayLoop := .replaying pack (examined ++ [⟨event, claimId, accepted, accepted⟩]) }
  | _ => none

/-- `success_count == len(pack)` and `event_pack_processing_done`. -/
def conclude : Option MqttThreads :=
  match s.replayLoop with
  | .concluding pack examined =>
    let s := { s with replayLoop := .top }
    if examined.countP Examination.counted = pack.length && !s.storageStopped then
      some { s.emit (.deleted pack examined) with
        publisher.storage := s.publisher.storage.drop pack.length, batch := 0 }
    else some s
  | _ => none

/-- The thread ends. -/
def exit : Option MqttThreads :=
  match s.replayLoop with
  | .exiting => some { s with replayLoop := .off }
  | _ => none

/-! ## The network thread -/

/-- `_on_connect` of an accepted connection. -/
def connect : MqttThreads :=
  let s := { s with publisher.connected := true, publisher.consecutiveFailures := 0 }
  if s.publisher.bootstrapMode then s else s.triggerReplay

/-- The memory `_retire_revoked_operational_credentials` leaves. -/
def retire (p : MqttPublisher) : MqttPublisher :=
  if !p.releaseInProgress || !p.releaseRequestId.truthy || p.operationalCredentialsRetired ||
      p.bootstrapMode then p
  else { p with username := .str "", password := .str "", claimId := .null,
                operationalCredentialsRetired := true, consecutiveFailures := 2 }

/-- `_on_connect` of a refused connection; `retires` says that the file is that of the release and
    could be written. -/
def connectFailed (notAuthorized retires : Bool) : MqttThreads :=
  let p := if notAuthorized && retires then retire s.publisher else s.publisher
  { s with publisher := p.connectionFailed }

/-- The end of `clear_claim_buffer`, which gives up when the replay thread does not end. -/
def clearStorage : MqttThreads :=
  match s.replayLoop with
  | .off => { s with publisher.storage := [], storageStopped := false, batch := 0 }
  | _ => s

/-! ## `disconnect` -/

/-- `_stopped = True`. -/
def stop : Option MqttThreads :=
  match s.shutdown with
  | .none => some { s with stopped := true, shutdown := .stopping }
  | _ => none

/-- `_storage.stop()`. -/
def stopStorage : Option MqttThreads :=
  match s.shutdown with
  | .stopping => some { s with storageStopped := true, shutdown := .flushing }
  | _ => none

/-- One round of `_flush_queue`, or its end. -/
def flush (accepted : Bool) : Option MqttThreads :=
  match s.shutdown with
  | .flushing =>
    match s.publisher.queue with
    | [] => some { s with shutdown := .flushed }
    | event :: queue =>
      if !s.publisher.connected || s.publisher.bootstrapMode then
        some { s with shutdown := .flushed }
      else if !event.claimId.eq s.publisher.claimId then
        some { s.emit (.discarded event) with publisher.queue := queue }
      else
        some { s.emit (.handed .flushQueue event s.publisher.claimId accepted) with
          publisher.queue := queue }
  | _ => none

/-! ## The system -/

/-- A publisher that has just started. -/
def start (publisher : MqttPublisher) (maxQueueSize : Nat) (trace : List Transfer) : MqttThreads :=
  { publisher, maxQueueSize, stopped := false, storageStopped := false, batch := 0,
    droppedMessageCount := 0, calls := [], publishLoop := .idle, replayLoop := .off,
    shutdown := .none, trace }

/-- One action. -/
def step (s : MqttThreads) : Label → Option MqttThreads
  | .publish i payload topic => s.publish i payload topic
  | .resume i stored => (s.calls.get? i).map (s.resume i · stored)
  | .beginRound => s.beginRound
  | .take => s.take
  | .forward accepted => s.forward accepted
  | .storeTaken stored => s.storeTaken stored
  | .beginReplayRound => s.beginReplayRound
  | .count => s.count
  | .fetch n => s.fetch n
  | .examine outcome => s.examine outcome
  | .conclude => s.conclude
  | .exit => s.exit
  | .connect => some s.connect
  | .connectFailed notAuthorized retires => some (s.connectFailed notAuthorized retires)
  | .connectionLost clean => some { s with publisher := s.publisher.onDisconnect clean }
  | .adopt c => some { s with publisher := c.adopt s.publisher }
  | .beginRelease => some { s with publisher.releaseInProgress := true }
  | .clearQueue =>
    some { s with publisher.releaseInProgress := true, publisher.queue := [] }
  | .clearStorage => some s.clearStorage
  | .endRelease requestId => some { s with publisher.releaseRequestId := .str requestId }
  | .stop => s.stop
  | .stopStorage => s.stopStorage
  | .flush accepted => s.flush accepted
  -- the process ends and starts again over its buffer
  | .restart serialNumber config =>
    match MqttPublisher.init serialNumber config s.publisher.storage with
    | .ok publisher => some (start publisher s.maxQueueSize s.trace)
    | .error _ => none

/-- A run. -/
def exec (s : MqttThreads) (labels : List Label) : Option MqttThreads := Run.exec step s labels

/-- A publisher that has just started, over any buffer. -/
def Booted (s : MqttThreads) : Prop :=
  ∃ serialNumber config storage publisher maxQueueSize,
    MqttPublisher.init serialNumber config storage = .ok publisher ∧
      s = start publisher maxQueueSize []

end MqttThreads

end Novena
