import Mathlib.Data.Rat.Defs
import Mathlib.Algebra.Order.Ring.Rat
import NovenaGateway.ForStd.Run

/-!
# The connection attempts of a Modbus slave

`connect` of `slave.py`, called by the polls of a slave, its attribute updates and its requests.
All of them run in one event loop, and a call is interrupted only where it awaits the connection of
its master, so that several calls can be under way. A label is one stretch between two awaits; the
master is shared with other slaves, and its connection comes and goes by itself.

The list of attempts is history.
-/

namespace Novena.Modbus

/-- What the constructor of a slave takes from its configuration for the attempts; times are in
    milliseconds. -/
structure ConnectTiming where
  connectAttemptTimeMs : ℚ
  waitAfterFailedAttemptsMs : ℚ
  connectionAttempt : Nat
  attemptTime_ge : 500 ≤ connectAttemptTimeMs
  wait_ge : 30000 ≤ waitAfterFailedAttemptsMs
  attempts_ge : 2 ≤ connectionAttempt

/-- The fields as `__init__` sets them. -/
def ConnectTiming.ofConfig (connectAttemptTimeMs waitAfterFailedAttemptsMs : Option ℚ)
    (connectAttemptCount : Option Nat) : ConnectTiming where
  connectAttemptTimeMs :=
    if connectAttemptTimeMs.getD 500 > 500 then connectAttemptTimeMs.getD 500 else 500
  waitAfterFailedAttemptsMs :=
    if waitAfterFailedAttemptsMs.getD 30000 > 30000 then waitAfterFailedAttemptsMs.getD 30000
    else 30000
  connectionAttempt :=
    if connectAttemptCount.getD 2 ≥ 2 then connectAttemptCount.getD 2 else 2
  attemptTime_ge := by
    split
    · exact le_of_lt ‹_›
    · exact le_rfl
  wait_ge := by
    split
    · exact le_of_lt ‹_›
    · exact le_rfl
  attempts_ge := by split <;> omega

/-- Of a `Slave`: what `connect` reads and writes. -/
structure SlaveLink where
  /-- `self.master.connected()`. -/
  connected : Bool
  stopped : Bool
  connectionAttemptCount : Nat
  lastConnectionAttemptTime : ℚ
  /-- The `cur_time` of the calls that await the connection of the master. -/
  waiting : List ℚ
  /-- The `cur_time` of the calls that have made an attempt, since one has returned `True`. -/
  attempts : List ℚ
  deriving DecidableEq

namespace SlaveLink

variable (cfg : ConnectTiming)

/-- A slave that has just been made. -/
def init (connected : Bool) : SlaveLink where
  connected := connected
  stopped := false
  connectionAttemptCount := 0
  lastConnectionAttemptTime := 0
  waiting := []
  attempts := []

/-- What follows the loop: `True` with a connection, `False` without. -/
def afterLoop (s : SlaveLink) (curTime : ℚ) : SlaveLink :=
  if s.connected then
    { s with connectionAttemptCount := 0, lastConnectionAttemptTime := curTime, attempts := [] }
  else s

/-- The condition of the loop. -/
def tries (s : SlaveLink) (curTime : ℚ) : Bool :=
  !s.connected && s.connectionAttemptCount < cfg.connectionAttempt &&
    (curTime - s.lastConnectionAttemptTime ≥ cfg.connectAttemptTimeMs ||
      s.lastConnectionAttemptTime = 0)

/-- A turn of the loop up to the `await`, or the end of the call. -/
def loop (s : SlaveLink) (curTime : ℚ) : SlaveLink :=
  if s.tries cfg curTime then
    if s.stopped then s
    else
      { s with
        connectionAttemptCount := s.connectionAttemptCount + 1
        lastConnectionAttemptTime := curTime
        waiting := s.waiting ++ [curTime]
        attempts := s.attempts ++ [curTime] }
  else s.afterLoop curTime

/-- A call of `connect` up to its first `await`. -/
def connect (s : SlaveLink) (curTime : ℚ) : SlaveLink :=
  if s.connected then s.afterLoop curTime
  else if s.connectionAttemptCount ≥ cfg.connectionAttempt ∧
      curTime - s.lastConnectionAttemptTime ≥ cfg.waitAfterFailedAttemptsMs then
    { s with connectionAttemptCount := 0 }.loop cfg curTime
  else s.loop cfg curTime

/-- The `await` of a call is over, by its timeout too; another exception leaves the call. -/
def resume (s : SlaveLink) (i : Nat) (raised : Bool) : Option SlaveLink :=
  match s.waiting[i]? with
  | none => none
  | some curTime =>
    let s := { s with waiting := s.waiting.eraseIdx i }
    if raised then some s
    else if s.connectionAttemptCount = cfg.connectionAttempt then some s
    else some (s.loop cfg curTime)

/-- One stretch between two awaits, or a change of the connection. -/
inductive Label where
  | network (connected : Bool)
  | stop
  /-- `monotonic()` is positive. -/
  | connect (curTime : ℚ) (positive : 0 < curTime)
  | resume (i : Nat) (raised : Bool)

def step (s : SlaveLink) : Label → Option SlaveLink
  | .network connected => some { s with connected }
  | .stop => some { s with stopped := true }
  | .connect curTime _ => some (s.connect cfg curTime)
  | .resume i raised => s.resume cfg i raised

/-- A run. -/
def exec (s : SlaveLink) (labels : List Label) : Option SlaveLink := Run.exec (step cfg) s labels

end SlaveLink

end Novena.Modbus
