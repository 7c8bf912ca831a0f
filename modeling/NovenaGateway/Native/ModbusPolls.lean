import Mathlib.Data.Finset.Insert
import Mathlib.Data.Finset.Erase

/-!
# Modbus polls

The timers of the slaves queue poll callbacks; `__process_requests` takes them one by one. It awaits
the poll of a serial slave and creates a task for any other. All of this runs in one event loop, so
a coroutine is interrupted only where it awaits, and a label is one stretch between two awaits.

What a poll does on the wire and with its readings changes nothing here; a label only says how it
ends. The model ends where the connector is stopped: `close` cancels the tasks of the loop.
-/

namespace Novena.Modbus

/-- `port` of a slave: a number, or the path of a serial device. -/
inductive Port where
  | number (n : Int)
  | path (device : String)
  deriving DecidableEq, Repr

/-- `str(port)`. -/
def Port.toStr : Port → String
  | .number n => toString n
  | .path device => device

/-- Of a `Slave`: what decides when it is polled. -/
structure Slave where
  deviceName : String
  type : String
  host : Option String
  port : Port
  deriving DecidableEq, Repr

/-- `master_connection_name` of `__get_master`. `_master_connections` keeps one `Master` for a name
    and never another one, so the name stands for the object. -/
def Slave.master (slave : Slave) : Port :=
  match slave.host with
  | none => slave.port
  | some host => if host = "" then slave.port else .path (host ++ ":" ++ slave.port.toStr)

/-- A call of `__poll_device_exclusive`. -/
structure Poll where
  slave : Slave
  master : Port
  /-- It has begun; a task that was only created has not. -/
  started : Bool
  deriving DecidableEq, Repr

/-- Where `__process_requests` is. -/
inductive Processor where
  | idle
  /-- It awaits the poll of a serial slave. -/
  | awaits (poll : Poll)
  /-- It was left by an exception that is no `Exception`. -/
  | ended
  deriving DecidableEq, Repr

/-- How a poll ends. -/
inductive PollEnd where
  | returned
  /-- With an `Exception`, `QueueEmpty` among them. -/
  | raised
  /-- With `CancelledError`. -/
  | cancelled
  /-- With `KeyboardInterrupt` or `SystemExit`, which leave the event loop as well. -/
  | exited
  deriving DecidableEq, Repr

/-- Of `AsyncModbusConnector`: what decides which poll runs, and the event loop. -/
structure PollState where
  /-- `process_device_requests`. -/
  requests : List Slave
  /-- `_active_polls`. -/
  activePolls : Finset Port
  processor : Processor
  /-- The tasks of `create_task` that have not ended. -/
  tasks : List Poll
  loopRuns : Bool
  deriving DecidableEq

namespace PollState

def init : PollState :=
  { requests := [], activePolls := ∅, processor := .idle, tasks := [], loopRuns := true }

/-- The capacity of `process_device_requests`. -/
def maxRequests : Nat := 100000

/-- `Slave.__send_callback`: `QueueFull` is logged. -/
def sendCallback (s : PollState) (slave : Slave) : PollState :=
  if s.requests.length < maxRequests then { s with requests := s.requests ++ [slave] } else s

/-- `_active_polls.discard(master)`. -/
def discard (s : PollState) (master : Port) : PollState :=
  { s with activePolls := s.activePolls.erase master }

/-- A turn of `__process_requests` with a slave it took from the queue; `created` says whether
    `create_task` returns or raises. -/
def pollRequest (s : PollState) (slave : Slave) (created : Bool) : PollState :=
  let master := slave.master
  -- 'Skipping overlapping poll'
  if master ∈ s.activePolls then s
  else
    let s := { s with activePolls := insert master s.activePolls }
    if slave.type = "serial" then
      { s with processor := .awaits { slave, master, started := true } }
    else if created then
      { s with tasks := s.tasks ++ [{ slave, master, started := false }] }
    else s.discard master

/-- A turn of `__process_requests`, up to where it awaits or to its next turn. -/
def processRequest (s : PollState) (created : Bool) : Option PollState :=
  match s.processor with
  | .idle =>
    match s.requests with
    | [] => some s
    | slave :: requests => some ({ s with requests }.pollRequest slave created)
  | .awaits _ | .ended => none

/-- The loop runs a task for the first time. -/
def beginTask (s : PollState) (i : Nat) : Option PollState :=
  match s.tasks[i]? with
  | some poll =>
    if poll.started then none
    else some { s with tasks := s.tasks.set i { poll with started := true } }
  | none => none

/-- A task ends, after the `finally` of its poll. Its exception stays with it. -/
def endTask (s : PollState) (i : Nat) (outcome : PollEnd) : Option PollState :=
  match s.tasks[i]? with
  | some poll =>
    if poll.started then
      let s := { s.discard poll.master with tasks := s.tasks.eraseIdx i }
      match outcome with
      | .returned | .raised | .cancelled => some s
      | .exited => some { s with loopRuns := false }
    else none
  | none => none

/-- The poll that `__process_requests` awaits ends. Its `finally` and the `except` around the
    `await` both discard the master. -/
def endAwaited (s : PollState) (outcome : PollEnd) : Option PollState :=
  match s.processor with
  | .awaits poll =>
    let s := s.discard poll.master
    match outcome with
    | .returned => some { s with processor := .idle }
    | .raised => some { s.discard poll.master with processor := .idle }
    | .cancelled => some { s with processor := .ended }
    | .exited => some { s with processor := .ended, loopRuns := false }
  | .idle | .ended => none

/-- `run_until_complete` returns once `__process_requests` has ended. -/
def endLoop (s : PollState) : Option PollState :=
  if s.processor = .ended then some { s with loopRuns := false } else none

/-- What the event loop does next. -/
inductive Event where
  | callback (slave : Slave)
  | request (created : Bool)
  | begin (i : Nat)
  | taskEnds (i : Nat) (outcome : PollEnd)
  | awaitedEnds (outcome : PollEnd)
  | loopEnds
  deriving DecidableEq, Repr

def step (s : PollState) (e : Event) : Option PollState :=
  if s.loopRuns then
    match e with
    | .callback slave => some (s.sendCallback slave)
    | .request created => s.processRequest created
    | .begin i => s.beginTask i
    | .taskEnds i outcome => s.endTask i outcome
    | .awaitedEnds outcome => s.endAwaited outcome
    | .loopEnds => s.endLoop
  else none

/-! ## The polls of a state -/

/-- The poll that `__process_requests` awaits. -/
def awaited (s : PollState) : Option Poll :=
  match s.processor with
  | .awaits poll => some poll
  | .idle | .ended => none

/-- The polls that are scheduled or in progress. -/
def polls (s : PollState) : List Poll := s.awaited.toList ++ s.tasks

/-- The polls of a master that are in progress. -/
def inProgress (s : PollState) (master : Port) : List Poll :=
  s.polls.filter fun poll => poll.started && poll.master = master

/-- Where a poll is run: by `__process_requests` itself or as a task. -/
inductive Place where
  | processor
  | task (i : Nat)
  deriving DecidableEq, Repr

def pollAt (s : PollState) : Place → Option Poll
  | .processor => s.awaited
  | .task i => s.tasks[i]?

/-- What is left of a poll when it is to end so. -/
def remaining (poll : Poll) (outcome : PollEnd) : Place → List Event
  | .processor => [.awaitedEnds outcome]
  | .task i => if poll.started then [.taskEnds i outcome] else [.begin i, .taskEnds i outcome]

end PollState
end Novena.Modbus
