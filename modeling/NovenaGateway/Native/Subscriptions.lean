import NovenaGateway.ForStd.Dict
import NovenaGateway.ForStd.Run

/-!
# Subscriptions of the MQTT publisher

`subscribe`, `_resubscribe_all` and what `_on_connect`, `_on_disconnect` and `_on_message` of
`NovenaMqttPublisher` have to do with subscriptions. `subscribe` is called from any thread, the
callbacks of the client come on its network thread. The client asks for a clean session, so that
the broker forgets the subscriptions with the connection, and `_client.subscribe` has no effect
without one.

A callback is known by its number. The list of returned calls is history.
-/

namespace Novena

/-- Where a call of `subscribe` stands. -/
inductive SubscribeStage where
  /-- Before `_subscription_lock`. -/
  | entered
  /-- The callback is registered, `_connected` not read. -/
  | registered
  /-- `_connected` was `True`. -/
  | issuing
  deriving DecidableEq

/-- A call of `subscribe`. -/
structure SubscribeCall where
  topic : String
  callback : Nat
  stage : SubscribeStage
  deriving DecidableEq

/-- Where the network thread stands. -/
inductive NetworkThread where
  | idle
  /-- In `_on_connect` with `rc` 0, before `_connected = True`. -/
  | connecting
  /-- Before the lock of `_resubscribe_all`. -/
  | acquiring
  /-- In the loop of `_resubscribe_all`, with the lock. -/
  | resubscribing (remaining : List String)
  deriving DecidableEq

/-- Of `NovenaMqttPublisher`: what its subscriptions depend on. -/
structure Subscriptions where
  /-- `_subscriptions`. -/
  subscriptions : Dict String (List Nat)
  /-- `_connected`. -/
  connected : Bool
  /-- The topics asked for on the connection there is. -/
  session : Option (List String)
  network : NetworkThread
  calls : List SubscribeCall
  /-- The topics and callbacks of the calls that have returned. -/
  returned : List (String × Nat)
  deriving DecidableEq

namespace Subscriptions

def init : Subscriptions :=
  { subscriptions := [], connected := false, session := none, network := .idle, calls := [],
    returned := [] }

/-- The callbacks `_on_message` calls for a topic. -/
def callbacks (s : Subscriptions) (topic : String) : List Nat :=
  (s.subscriptions.get? topic).getD []

/-- `_client.subscribe`. -/
def clientSubscribe (s : Subscriptions) (topic : String) : Subscriptions :=
  { s with session := s.session.map (· ++ [topic]) }

/-- `_subscriptions[topic].append(callback)`, for a new topic too. -/
def register (s : Subscriptions) (topic : String) (callback : Nat) : Subscriptions :=
  { s with subscriptions := s.subscriptions.set topic (s.callbacks topic ++ [callback]) }

/-- The end of the call at place `i`. -/
def endCall (s : Subscriptions) (i : Nat) (call : SubscribeCall) : Subscriptions :=
  { s with
    calls := s.calls.eraseIdx i
    returned := s.returned ++ [(call.topic, call.callback)] }

/-- The network thread has `_subscription_lock`. -/
def locked (s : Subscriptions) : Bool :=
  match s.network with
  | .resubscribing _ => true
  | .idle | .connecting | .acquiring => false

/-- The call at place `i` goes on. -/
def resume (s : Subscriptions) (i : Nat) : Option Subscriptions :=
  match s.calls[i]? with
  | none => none
  | some call =>
    match call.stage with
    | .entered =>
      if s.locked then none
      else some { s.register call.topic call.callback with
        calls := s.calls.set i { call with stage := .registered } }
    | .registered =>
      if s.connected then
        some { s with calls := s.calls.set i { call with stage := .issuing } }
      else some (s.endCall i call)
    | .issuing => some ((s.clientSubscribe call.topic).endCall i call)

/-- The network thread goes on with `_on_connect`. -/
def networkStep (s : Subscriptions) : Option Subscriptions :=
  match s.network with
  | .idle => none
  | .connecting => some { s with connected := true, network := .acquiring }
  | .acquiring => some { s with network := .resubscribing (s.subscriptions.map Prod.fst) }
  | .resubscribing [] => some { s with network := .idle }
  | .resubscribing (topic :: remaining) =>
    some { s.clientSubscribe topic with network := .resubscribing remaining }

/-- What can happen next. -/
inductive Label where
  /-- `subscribe(topic, callback)` is called. -/
  | subscribe (topic : String) (callback : Nat)
  | resume (i : Nat)
  /-- A connection is made, and `_on_connect` is called with `rc` 0. -/
  | connect
  /-- `_on_connect` with another `rc`. -/
  | refuse
  | network
  /-- The connection breaks or is closed, at any time. -/
  | lose
  /-- `_on_disconnect`, which the client may leave out. -/
  | disconnected

def step (s : Subscriptions) : Label → Option Subscriptions
  | .subscribe topic callback =>
    some { s with calls := s.calls ++ [{ topic, callback, stage := .entered }] }
  | .resume i => s.resume i
  | .connect =>
    if s.network = .idle then some { s with session := some [], network := .connecting } else none
  | .refuse =>
    if s.network = .idle then some { s with session := none, connected := false } else none
  | .network => s.networkStep
  | .lose => some { s with session := none }
  | .disconnected =>
    -- the client has lost its connection when it says so
    if s.network = .idle ∧ s.session = none then some { s with connected := false } else none

/-- A run from the start of the process. -/
def exec (labels : List Label) : Option Subscriptions := Run.exec step init labels

end Subscriptions

end Novena
