import NovenaGateway.Native.Provision

/-!
# The gateway over its restarts

One step is one MQTT message or connection event handled to its end on the network thread, one
round of another thread, or the end or the start of the process. A message may also be cut short
by an exception or by the death of the process. What the environment decides is in the label: the
texts of the messages, the keys the guards were made with, the outcomes of the connector starts.
-/

namespace Novena

/-- How a message ends: handled, left by an exception after some of its steps, or cut short by the
    death of the process after some of them. -/
inductive Ending where
  | completes
  | raises (n : Nat)
  | crashes (n : Nat)
  deriving DecidableEq

/-- A gateway that runs, or the files of one that does not. -/
inductive Machine where
  | up (g : NovenaGateway)
  | down (disk : NovenaGateway.Disk)

namespace Machine

/-- What can happen next. -/
inductive Label where
  /-- The process starts; the keys of the command guard are those of the configuration. -/
  | boot (cfg : GuardConfig)
  /-- The process ends. -/
  | halt
  /-- The main thread begins, or goes on with, starting the connectors. -/
  | beginStartup
  | continueStartup (outcome : StartOutcome)
  /-- A message on the provisioning topics. -/
  | provision (now : Int) (payload : Dict String Json) (ending : Ending)
  /-- `_on_connect` and `_on_disconnect`. -/
  | connect (result : Provision.ConnectResult) (ending : Ending)
  | disconnect (clean : Bool)
  /-- A message on the configuration topic; the process may die once the file is written. -/
  | configUpdate (cfg : GuardConfig) (clock : Clock) (payload : Json)
      (outcomes rollbackOutcomes : Nat → StartOutcome) (crashes : Bool)
  /-- A control policy, or the worker of a governed command, leaves the guard in this state. -/
  | govern (governance : GovernedCommandGuard)
  /-- A payload is published by any of the threads, and the publisher's own threads. -/
  | publish (payload : Dict String Json) (topic : String) (full : Bool)
  | publishLoop (accepted : Bool)
  | replayed (n : Nat)

/-- An operation on a running gateway ends. `after` is what follows it when it was not the process
    that died. -/
def finish (g : NovenaGateway) (steps : List (Step NovenaGateway))
    (after : NovenaGateway → NovenaGateway) : Ending → Option Machine
  | .completes => some (.up (after (Step.perform steps g)))
  | .raises n =>
    if Step.RaisesAfter steps n then some (.up (after (Step.perform (steps.take n) g))) else none
  | .crashes n => some (.down (Step.perform (steps.take n) g).disk)

variable (host : Host) (v : ReleaseVerifier)

/-- A configuration message. -/
def configUpdate (g : NovenaGateway) (cfg : GuardConfig) (clock : Clock) (payload : Json)
    (outcomes rollbackOutcomes : Nat → StartOutcome) (crashes : Bool) : Machine :=
  let handled := (RemoteConfigHandler.onConfigUpdate host cfg g clock payload outcomes
    rollbackOutcomes).1
  if !crashes then .up handled else
  -- the file is written before anything else changes
  match RemoteConfigHandler.writtenConfig host cfg g clock payload with
  | some config => .down { g.disk with config }
  | none => .down g.disk

/-- One step of a running gateway. -/
def stepUp (g : NovenaGateway) : Label → Option Machine
  | .boot _ => none
  | .halt => some (.down g.disk)
  | .beginStartup =>
    match g.startup with
    | .waiting => match g.beginStartup with
      | .ok g' => some (.up g')
      | .error _ => some (.down g.disk)
    | _ => none
  | .continueStartup outcome =>
    match g.continueStartup outcome with
    | .ok g' => some (.up g')
    | .error _ => some (.down g.disk)
  | .provision now payload ending =>
    finish g (Provision.onProvisionMessage v g now payload).steps id ending
  | .connect result ending =>
    finish g (Provision.onConnectSteps g result) (Provision.onConnectEnd · result) ending
  | .disconnect clean => some (.up { g with publisher := g.publisher.onDisconnect clean })
  | .configUpdate cfg clock payload outcomes rollbackOutcomes crashes =>
    some (configUpdate host g cfg clock payload outcomes rollbackOutcomes crashes)
  -- a worker may be under way when a release begins, and nothing stops it
  | .govern governance => some (.up { g with governance })
  | .publish payload topic full =>
    some (.up { g with publisher := g.publisher.publish payload topic full })
  | .publishLoop accepted => some (.up { g with publisher := g.publisher.publishLoop accepted })
  | .replayed n => some (.up { g with publisher := g.publisher.replayed n })

/-- One step. A process whose configuration is refused does not start. -/
def step : Machine → Label → Option Machine
  | .up g, label => stepUp host v g label
  | .down disk, .boot cfg => (NovenaGateway.boot host cfg disk).map .up
  | .down _, _ => none

/-- The release acknowledgement a step sends. -/
def releaseAck : Machine → Label → Option String
  | .up g, .provision now payload .completes =>
    (Provision.onProvisionMessage v g now payload).releaseAck
  | _, _ => none

/-- What `config.json` says. -/
def configFile : Machine → Json
  | .up g => g.configFile
  | .down disk => disk.config

end Machine

end Novena
