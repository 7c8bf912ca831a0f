import NovenaGateway.ForStd.Dict
import NovenaGateway.Native.Json

/-!
# The threads of discovery

Requests for a scan are answered by several RPC workers at once. `start_guided_scan` first checks
whether a scan may start and then starts it in a thread of its own; boot and periodic scans come
from threads of the service. All of them share `_scan_lock`, the active id, the cancel event and the
table of reports.

A label says which thread moves and what the environment decides. The steps of a thread are cut
where another thread can see the difference: an operation under no lock, the two ends of the scan
body, and the operations of `run` after it. Publishing a report changes nothing here and does not
raise.
-/

namespace Novena

/-- `scan_type`. -/
inductive ScanKind where
  | guided
  | boot
  | periodic
  deriving DecidableEq, Repr

def ScanKind.text : ScanKind → String
  | .guided => "guided"
  | .boot => "boot"
  | .periodic => "periodic"

/-- Of a report: its `scan_id`, `scan_type` and `status`. -/
structure ReportHead where
  scanId : String
  kind : ScanKind
  status : String
  deriving DecidableEq, Repr

/-- `prior.get("status") in {"complete", "cancelled", "error"}`. -/
def ReportHead.isTerminal (r : ReportHead) : Bool :=
  r.status = "complete" || r.status = "cancelled" || r.status = "error"

/-- What a thread does next. -/
inductive ScanPhase where
  /-- It has not called `scan` yet. -/
  | launched
  /-- It is in the body of `scan`. -/
  | scanning
  /-- The body has published its last report; the lock is still to be released. -/
  | reported
  /-- `scan` has raised. -/
  | failed
  /-- `run` is in its `finally`. -/
  | closing
  | leaving
  deriving DecidableEq, Repr

/-- A thread that runs a scan. -/
structure ScanThread where
  kind : ScanKind
  /-- The id in the reports of `scan`. -/
  scanId : String
  /-- For a guided scan, the `scan_id` of `start_guided_scan`. -/
  activeId : String
  phase : ScanPhase

/-- The thread of a guided scan, which runs `run`, is at this point. -/
def ScanThread.Runs (th : ScanThread) (phase : ScanPhase) : Prop :=
  th.kind = .guided ∧ th.phase = phase

instance (th : ScanThread) (phase : ScanPhase) : Decidable (th.Runs phase) :=
  inferInstanceAs (Decidable (_ ∧ _))

/-- The attributes of `DiscoveryService` that the threads share. The last two fields are a record
    of what happened; no function reads them. -/
structure ScanState where
  /-- The workers between the check and the launch, with the `scan_id` of their request. -/
  workers : Nat → Option Json
  threads : Nat → Option ScanThread
  nextId : Nat
  /-- `_guided_scan_thread`. -/
  guided : Option Nat
  /-- `_scan_lock.locked()`. -/
  locked : Bool
  activeId : Option String
  /-- `_scan_cancelled.is_set()`. -/
  cancelled : Bool
  reports : Dict String ReportHead
  /-- The ids that were answered `started`. -/
  started : List String
  /-- Every report given to `_remember_and_publish`. -/
  remembered : List ReportHead

namespace ScanState

def init : ScanState :=
  { workers := fun _ => none, threads := fun _ => none, nextId := 0, guided := none
    locked := false, activeId := none, cancelled := false, reports := [], started := []
    remembered := [] }

/-- What the threads do, one step at a time. -/
inductive Label where
  /-- A worker is called with a request and makes the checks of `start_guided_scan`. -/
  | check (w : Nat) (scanId : Json)
  /-- The same worker goes on. -/
  | launch (w : Nat)
  | cancel (scanId : Option String)
  /-- A boot or a periodic scan is due at this time. -/
  | fire (periodic : Bool) (ts : Nat)
  /-- The thread of a guided scan calls `scan`. -/
  | begin (t : Nat)
  | progress (t : Nat)
  /-- The body comes to its end; `timedOut` is what its own errors make of the status. -/
  | report (t : Nat) (timedOut : Bool)
  /-- An exception leaves the body. -/
  | raise (t : Nat)
  | release (t : Nat)
  /-- `run` reports the exception. -/
  | fail (t : Nat)
  | clear (t : Nat)
  | exit (t : Nat)

/-! ## Requests -/

/-- `str(options.get("scan_id") or "").strip()`. -/
def requestedId (scanId : Json) : String :=
  String.ofList (strip (scanId.orElse (.str "")).toStr.toList)

/-- `_guided_scan_thread and _guided_scan_thread.is_alive()`. -/
def guidedAlive (s : ScanState) : Bool :=
  s.guided.any fun t => (s.threads t).isSome

/-- How `start_guided_scan` goes on after its checks. -/
inductive Answer where
  | invalid
  | replayed (report : ReportHead)
  | running (scanId : String)
  | busy
  | passes
  deriving DecidableEq

/-- The checks of `start_guided_scan`. -/
def check (s : ScanState) (scanId : Json) : Answer :=
  let id := requestedId scanId
  if id = "" then .invalid else
  match (Dict.get? s.reports id).filter ReportHead.isTerminal with
  | some prior => .replayed prior
  | none =>
    if s.locked || s.guidedAlive then
      if some id = s.activeId then .running id else .busy
    else .passes

/-- The rest of `start_guided_scan`. `scan` gets the options of the request and reads `scan_id` out
    of them again. -/
def launch (s : ScanState) (scanId : Json) : ScanState :=
  let id := requestedId scanId
  { s with
    cancelled := false
    activeId := some id
    threads := Function.update s.threads s.nextId (some ⟨.guided, scanId.toStr, id, .launched⟩)
    guided := some s.nextId
    nextId := s.nextId + 1
    started := s.started ++ [id] }

/-- `cancel_current_scan`, up to the event it sets. -/
def cancelCurrentScan (s : ScanState) (scanId : Option String) : Py Unit :=
  if scanId.any (· ≠ "") ∧ scanId ≠ s.activeId then
    .error (.valueError "The requested discovery scan is not active")
  else if !s.activeId.any (· ≠ "") then .error (.valueError "No discovery scan is active")
  else .ok ()

/-! ## Scans -/

/-- A thread goes on. -/
def goto (s : ScanState) (t : Nat) (th : ScanThread) (phase : ScanPhase) : ScanState :=
  { s with threads := Function.update s.threads t (some { th with phase }) }

/-- A thread ends. -/
def gone (s : ScanState) (t : Nat) : ScanState :=
  { s with threads := Function.update s.threads t none }

/-- `_remember_and_publish`: at most twenty reports are kept. -/
def remember (s : ScanState) (r : ReportHead) : ScanState :=
  let reports := Dict.set s.reports r.scanId r
  { s with reports := if 20 < reports.length then reports.tail else reports
           remembered := s.remembered ++ [r] }

/-- A boot or periodic scan takes the lock, unless another scan has it. -/
def fire (s : ScanState) (kind : ScanKind) (ts : Nat) : ScanState :=
  if s.locked then s else
  { s with
    locked := true
    cancelled := false
    threads := Function.update s.threads s.nextId
      (some ⟨kind, kind.text ++ "-" ++ toString ts, "", .scanning⟩)
    nextId := s.nextId + 1 }

/-- `scan` takes the lock or raises. -/
def enter (s : ScanState) (t : Nat) (th : ScanThread) : ScanState :=
  if s.locked then s.goto t th .failed
  else { s with locked := true }.goto t th .scanning

/-- The terminal status of the body. -/
def terminalStatus (s : ScanState) (timedOut : Bool) : String :=
  if s.cancelled then "cancelled" else if timedOut then "error" else "complete"

/-- `_publish_progress`. -/
def progress (s : ScanState) (th : ScanThread) : ScanState :=
  { s with reports := Dict.set s.reports th.scanId ⟨th.scanId, th.kind, "running"⟩ }

/-- The lock is released; `run` goes on with `phase`, a background thread is done with the scan. -/
def leave (s : ScanState) (t : Nat) (th : ScanThread) (phase : ScanPhase) : ScanState :=
  let s := { s with locked := false }
  if th.kind = .guided then s.goto t th phase else s.gone t

/-- `if self._active_scan_id == scan_id: self._active_scan_id = None`. -/
def clearActive (s : ScanState) (th : ScanThread) : ScanState :=
  { s with activeId := if s.activeId = some th.activeId then none else s.activeId }

/-- The step of a thread, when it is its next one. -/
def act (s : ScanState) (t : Nat) (th : ScanThread) : Label → Option ScanState
  | .begin _ => if th.Runs .launched then some (s.enter t th) else none
  | .progress _ => if th.phase = .scanning then some (s.progress th) else none
  | .report _ timedOut =>
    if th.phase = .scanning then
      some ((s.remember ⟨th.scanId, th.kind, s.terminalStatus timedOut⟩).goto t th .reported)
    else none
  | .raise _ => if th.phase = .scanning then some (s.leave t th .failed) else none
  | .release _ => if th.phase = .reported then some (s.leave t th .closing) else none
  | .fail _ =>
    if th.Runs .failed then
      some ((s.remember ⟨th.activeId, th.kind, "error"⟩).goto t th .closing)
    else none
  | .clear _ => if th.Runs .closing then some ((s.clearActive th).goto t th .leaving) else none
  | .exit _ => if th.Runs .leaving then some (s.gone t) else none
  | _ => none

/-- One step of one thread. -/
def step (s : ScanState) : Label → Option ScanState
  | .check w scanId =>
    if (s.workers w).isSome then none
    else if s.check scanId = .passes then
      some { s with workers := Function.update s.workers w (some scanId) }
    else some s
  | .launch w => (s.workers w).map fun scanId =>
      { s.launch scanId with workers := Function.update s.workers w none }
  | .cancel scanId => match s.cancelCurrentScan scanId with
    | .ok _ => some { s with cancelled := true }
    | .error _ => some s
  | .fire periodic ts => some (s.fire (if periodic then .periodic else .boot) ts)
  | label@(.begin t) | label@(.progress t) | label@(.report t _) | label@(.raise t)
  | label@(.release t) | label@(.fail t) | label@(.clear t) | label@(.exit t) =>
    (s.threads t).bind fun th => s.act t th label

end ScanState

end Novena
