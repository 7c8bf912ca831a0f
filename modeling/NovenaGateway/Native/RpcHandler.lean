import NovenaGateway.ForStd.Run
import NovenaGateway.Native.GovernedCommands

/-!
# RPC requests and their workers

`RpcHandler._on_rpc_request` runs on the MQTT thread: it answers or drops a request, or
answers `gateway_received` and starts a worker thread. The worker (`execute`) takes the
device lock, checks the prerequisites, records `executing`, calls the command handler, records
the terminal result and answers; an exception releases the lock first and is recorded and
answered afterwards. `step` runs one of these actions at a time, so that a list of labels is
one interleaving of deliveries, workers, crashes, claim resets and policy installations.

The trace is history: no function reads it.
-/

namespace Novena

/-- The keys of `_commands`. -/
def rpcCommands : List String :=
  ["ping", "get_config", "get_config_status", "set_log_level", "restart_connector",
   "restart_all", "reboot", "get_status", "get_devices", "write_device", "read_device",
   "get_device_health", "register_preflight", "scan_devices", "deployment_preflight",
   "deployment_discover", "deployment_validate", "update_firmware", "network_preflight",
   "hardware_preflight", "privilege_preflight"]

/-- `STATE_CHANGING_COMMANDS`. -/
def stateChangingCommands : List String :=
  ["set_log_level", "restart_connector", "restart_all", "reboot", "write_device",
   "update_firmware"]

/-- `SIGNED_DEPLOYMENT_DIAGNOSTICS`. -/
def signedDeploymentDiagnostics : List String :=
  ["scan_devices", "deployment_preflight", "deployment_discover", "deployment_validate"]

/-- The configuration of one `RpcHandler`. -/
structure RpcConfig where
  guard : GuardConfig
  localWritebackEnabled : Bool
  diagnosticClockSkew : F64

/-- The response of `_send_response`, before redaction. -/
structure Response where
  requestId : String
  method : Json
  status : String
  stage : String
  result : Json
  error : Json

/-- What a worker closes over. -/
structure Job where
  requestId : String
  method : String
  params : Dict String Json
  payload : Dict String Json
  control : Json

namespace Job

/-- `method in STATE_CHANGING_COMMANDS`. -/
def governed (job : Job) : Bool := job.method ∈ stateChangingCommands

/-- The `command_id` of the envelope, when it is a string. -/
def commandId? (job : Job) : Option String :=
  match GovernedCommandGuard.field job.payload "command_id" with
  | .str c => some c
  | _ => none

/-- The `device_id` of an envelope's target. -/
def targetDevice (payload : Dict String Json) : Json :=
  match GovernedCommandGuard.field payload "target" with
  | .obj target => GovernedCommandGuard.field target "device_id"
  | _ => .null

/-- The device a command is for. -/
def deviceId (job : Job) : Json := targetDevice job.payload

/-- `self._governance.device_lock(payload["target"]["device_id"])`. -/
def lockKey (job : Job) : Py Json.Key := do
  let target ← (Json.obj job.payload).item "target"
  let deviceId ← target.item "device_id"
  GovernedCommandGuard.deviceLock deviceId

end Job

/-! ## Admission -/

/-- One MQTT delivery: the payload, the release flag of the active configuration and the clock
    while `_on_rpc_request` runs. -/
structure Delivery where
  releasePending : Bool
  clock : Clock
  payload : Json

/-- How `_on_rpc_request` leaves a delivery. -/
inductive Admission where
  | ignored
  | raised (e : Exn)
  | answered (response : Response)
  | started (response : Response) (job : Job)

namespace RpcHandler

variable (cfg : RpcConfig)

/-- A response with status `error` and stage `rejected`. -/
def reject (requestId : String) (method : Json) (error : String) : Admission :=
  .answered { requestId, method, status := "error", stage := "rejected", result := .null,
              error := .str error }

/-- The answer `gateway_received` and the start of a worker. -/
def start (job : Job) : Admission :=
  .started { requestId := job.requestId, method := .str job.method, status := "received",
             stage := "gateway_received", result := .null, error := .null } job

/-- The answer to a command whose terminal record is replayed. -/
def replay (job : Job) (record : CommandRecord) : Admission :=
  .answered { requestId := job.requestId, method := .str job.method,
              status := record.status.getD "", result := record.result, error := record.error,
              stage := match record.stage with
                | some stage => if stage = "" then "replayed_terminal_result" else stage
                | none => "replayed_terminal_result" }

/-- The checks a state-changing command passes before `validate`: the error text of the first
    one that fails. -/
def precheck (job : Job) : Option String :=
  let envelope := job.payload
  let target := GovernedCommandGuard.field envelope "target"
  -- the checks in the order of the source, each with its own text
  if !cfg.localWritebackEnabled then some "Local write-back is disabled on this Gateway"
  else if !(GovernedCommandGuard.field envelope "schema_version").eq (.int 1) then
    some "Unsupported or missing governed-command schema version"
  else if !(GovernedCommandGuard.field envelope "command_id").truthy then
    some "Governed state-changing commands require command_id"
  else if !((GovernedCommandGuard.field envelope "idempotency_key").truthy &&
      (match target with
        | .obj t => (GovernedCommandGuard.field t "gateway_serial").eq (.str cfg.guard.serialNumber)
        | _ => false)) then
    some "Governed commands require canonical command and Gateway identity"
  -- a device write also names the device and its command
  else if job.method = "write_device" ∧
      !((GovernedCommandGuard.field job.params "device_id").truthy &&
        (GovernedCommandGuard.field job.params "command_key").truthy &&
        (Job.targetDevice envelope).toStr =
          (GovernedCommandGuard.field job.params "device_id").toStr) then
    some "Governed device writes require one canonical device_id and command_key"
  else none

/-- The branch of `_on_rpc_request` for `STATE_CHANGING_COMMANDS`. -/
def admitGoverned (g : GovernedCommandGuard) (clock : Clock) (job : Job) : Admission :=
  match precheck cfg job with
  | some error => reject job.requestId (.str job.method) error
  -- no check of the gateway failed, the guard goes on
  | none =>
    match g.validate cfg.guard clock job.payload with
    -- the only exception `on_rpc_request` catches here
    | .error (.governedCommandRejected msg) => reject job.requestId (.str job.method) msg
    | .error e => .raised e
    -- a command known to the journal is answered from it
    | .ok (_, some record) => replay job record
    | .ok (control, none) => start { job with control }

/-- The branch of `_on_rpc_request` for `SIGNED_DEPLOYMENT_DIAGNOSTICS`. -/
def admitDiagnostic (clock : Clock) (job : Job) : Admission :=
  match GovernedCommandGuard.validateDiagnostic cfg.guard cfg.diagnosticClockSkew clock
      job.payload with
  | .error (.governedCommandRejected msg) => reject job.requestId (.str job.method) msg
  | .error e => .raised e
  | .ok _ => start job

/-- `_on_rpc_request` up to the start of the worker thread. -/
def onRpcRequest (g : GovernedCommandGuard) (d : Delivery) : Admission :=
  -- while a release waits nothing is accepted
  if d.releasePending then .ignored else
  match d.payload with
  | .obj payload =>
    match GovernedCommandGuard.field payload "request_id" with
    | .str requestId =>
      if strip requestId.toList = [] then .ignored else
      let method := (Dict.get? payload "method").getD (.str "")
      -- membership in the table hashes the method
      match method.hashKey with
      | .error e => .raised e
      | .ok key =>
        if key ∈ rpcCommands.map Json.Key.str then
          -- `params` missing means an empty object
          match (Dict.get? payload "params").getD (.obj []) with
          | .obj params =>
            let job : Job :=
              { requestId, method := method.toStr, params, payload, control := .null }
            -- governed, signed and plain methods go different ways
            if job.governed then admitGoverned cfg g d.clock job
            else if job.method ∈ signedDeploymentDiagnostics then admitDiagnostic cfg d.clock job
            else start job
          | _ => reject requestId method "RPC params must be an object"
        else reject requestId method ("Unknown RPC method: " ++ method.toStr)
    -- neither a blank request id nor a missing one gets an answer
    | _ => .ignored
  -- what is no object is logged and dropped
  | _ => .ignored

end RpcHandler

/-! ## The worker -/

/-- What `execute` has computed when it reaches `mark_terminal`. -/
structure Conclusion where
  status : String
  result : Json
  error : Json
  stage : String

/-- Where a worker stands. `ready` is just before `handler(params)`; `failing` is the `except`
    block, reached after the lock was released. -/
inductive Pc where
  | start
  | locked
  | checked
  | ready
  | running
  | returned (c : Conclusion)
  | terminal (c : Conclusion)
  | failing (e : Exn)

structure Worker where
  job : Job
  pc : Pc

/-- `str(exc)`, as far as the text is modelled. -/
def Exn.text : Exn → String
  | .governedCommandRejected msg | .deploymentSetupRejected msg | .valueError msg
  | .runtimeError msg => msg
  | .invalidSignature | .typeError | .keyError | .attributeError | .overflowError | .osError => ""

/-- `abs(x - y)` on floats. -/
def F64.absSub : F64 → F64 → F64
  | .nan, _ | _, .nan => .nan
  | .inf a, .inf b => if a = b then .nan else .inf false
  | .inf _, _ | _, .inf _ => .inf false
  | .fin x, .fin y => (F64.ofRat? |x.val - y.val|).getD (.inf false)

namespace Worker

/-- The post-write verification of `write_device`: `readResult` is what `_cmd_read_device`
    answers. The status, the error and the result with its `verification` entry. -/
def verifyReadback (job : Job) (result : Json) (readResult : Py Json) :
    Py (String × Json × Json) := do
  let readback := (← job.control.get "readback").orElse (.obj [])
  if !(← readback.get "required").truthy then return ("success", .null, result)
  -- the arguments of the read are evaluated before the read
  let _ ← (Json.obj job.params).item "device_name"
  let _ ← (← readback.getD "functionCode" (.int 3)).toInt
  let address ← (Json.obj job.params).item "address"
  let _ ← (← readback.getD "address" address).toInt
  let _ ← (← readback.getD "objectsCount" (.int 1)).toInt
  let actual ← (← readResult).get "read_value"
  let tolerance ← (← readback.getD "tolerance" (.int 0)).toFloat
  let expected ← (← (Json.obj job.params).item "expected_value").toFloat
  -- no value read is a mismatch
  let mismatch ← match actual with
    | .null => pure true
    | actual => do
      let x ← actual.toFloat
      pure (tolerance.lt (x.absSub expected))
  -- the verification is written into the result, which must be an object
  let fields : Dict String Json ← match result with
    | .obj fields => pure fields
    | _ => throw .typeError
  if mismatch then
    let critical := (← job.control.get "risk").eq (.str "critical")
    let verification := Json.obj [("status", .str "mismatch"), ("expected", .float expected),
      ("actual", actual), ("tolerance", .float tolerance), ("critical", .bool critical)]
    return ("error", .str "Post-write verification mismatch",
      .obj (fields.set "verification" verification))
  else
    let verification := Json.obj [("status", .str "verified"), ("expected", .float expected),
      ("actual", actual), ("tolerance", .float tolerance)]
    return ("success", .null, .obj (fields.set "verification" verification))

/-- The status and error of a handler's result before any read-back. -/
def statusOf (job : Job) (result : Json) : String × Json :=
  -- only an object can say that it failed
  match result with
  | .obj fields =>
    -- and only of the device methods
    if job.method ∈ ["read_device", "write_device", "register_preflight"] then
      let error := GovernedCommandGuard.field fields "error"
      let refused := match GovernedCommandGuard.field fields "device_accepted" with
        | .bool false => true
        | _ => false
      if error.truthy || refused then
        ("error", error.orElse (.str "Device command was not accepted"))
      else ("success", .null)
    else ("success", .null)
  | _ => ("success", .null)

/-- The stage of a result. -/
def stageOf (job : Job) (status : String) (result : Json) : Py String := do
  if status ≠ "success" then return "failed"
  if job.method = "write_device" then
    match result with
    | .obj fields =>
      let verification := (Dict.get? fields "verification").getD (.obj [])
      return if (← verification.get "status").eq (.str "verified")
        then "field_execution_verified" else "field_protocol_accepted"
    | _ => return "field_protocol_accepted"
  else if job.method = "update_firmware" then return "ota_initiated"
  else if job.governed then return "gateway_action_completed"
  else return "diagnostic_completed"

/-- `execute` between the return of the handler and `mark_terminal`. -/
def conclude (job : Job) (result : Json) (readResult : Py Json) : Py Conclusion := do
  let (status, error) := statusOf job result
  let (status, error, result) ←
    if job.method = "write_device" ∧ status = "success" then verifyReadback job result readResult
    else pure (status, error, result)
  let stage ← stageOf job status result
  return { status, result, error, stage }

end Worker

/-! ## The system -/

/-- What happened, in order. `id` numbers the deliveries; a worker has the number of its
    delivery. -/
inductive Event where
  | accepted (id : Nat) (job : Job)
  | response (id : Nat) (r : Response)
  | invoked (id : Nat) (job : Job)
  | returned (id : Nat) (job : Job)
  | policy (wire : Json)
  | claimReset

/-- The gateway process as far as commands go, with the disk and the history. -/
structure RpcState where
  guard : GovernedCommandGuard
  heldLocks : List Json.Key
  workers : Dict Nat Worker
  nextId : Nat
  trace : List Event

/-- One action, with the choices of its environment: clock readings, outcomes of file
    operations (`ok`), of the prerequisite checks, of the command handler and of the read-back. -/
inductive Label where
  | deliver (d : Delivery)
  | acquire (i : Nat)
  | prerequisites (i : Nat) (verdict : Py Unit)
  | markExecuting (i : Nat) (now : Int) (ok : Bool)
  | call (i : Nat)
  | handlerReturn (i : Nat) (outcome readResult : Py Json)
  | markTerminal (i : Nat) (now : Int) (ok : Bool)
  | finish (i : Nat)
  | abort (i : Nat) (now : Int) (ok : Bool)
  | crash
  | reset (ok removed : Bool)
  | installPolicy (wire : Json) (fileOk ok : Bool)

namespace RpcState

variable (cfg : RpcConfig)

/-- Record an event. -/
def emit (s : RpcState) (e : Event) : RpcState := { s with trace := s.trace ++ [e] }

/-- Worker `i` goes on at `pc`. -/
def goto (s : RpcState) (i : Nat) (w : Worker) (pc : Pc) : RpcState :=
  { s with workers := s.workers.set i { w with pc } }

/-- Worker `i` ends. -/
def retire (s : RpcState) (i : Nat) : RpcState := { s with workers := s.workers.erase i }

/-- The device lock of a job is released. -/
def release (s : RpcState) (job : Job) : RpcState :=
  match job.lockKey with
  | .ok key => { s with heldLocks := s.heldLocks.filter (· ≠ key) }
  | .error _ => s

/-- An exception leaves the `with lock` block of worker `i`. -/
def unwind (s : RpcState) (i : Nat) (w : Worker) (e : Exn) : RpcState :=
  (if w.job.governed then s.release w.job else s).goto i w (.failing e)

/-- A response of worker `i`. -/
def respond (s : RpcState) (i : Nat) (job : Job) (status stage : String) (result error : Json) :
    RpcState :=
  s.emit (.response i { requestId := job.requestId, method := .str job.method, status, stage,
                        result, error })

/-- `_on_rpc_request`. -/
def deliver (s : RpcState) (d : Delivery) : RpcState :=
  let s' := { s with nextId := s.nextId + 1 }
  -- a dropped request and an exception leave the log line only
  match RpcHandler.onRpcRequest cfg s.guard d with
  | .ignored | .raised _ => s'
  -- refused or replayed at once
  | .answered r => s'.emit (.response s.nextId r)
  -- accepted, and a worker thread started
  | .started r job =>
    { (s'.emit (.response s.nextId r)).emit (.accepted s.nextId job) with
      workers := s.workers.set s.nextId ⟨job, .start⟩ }

/-- The worker takes its lock; it waits while another worker holds it. -/
def acquire (s : RpcState) (i : Nat) (w : Worker) : Option RpcState :=
  match w.pc with
  | .start =>
    -- only governed commands take a device lock
    if w.job.governed then
      match w.job.lockKey with
      -- the thread dies when its key cannot be hashed
      | .error _ => some (s.retire i)
      | .ok key =>
        -- another worker holds the lock, so this one waits
        if key ∈ s.heldLocks then none
        else some { s.goto i w .locked with heldLocks := key :: s.heldLocks }
    else some (s.goto i w .ready)
  | _ => none

/-- `enforce_prerequisites`. -/
def prerequisites (s : RpcState) (i : Nat) (w : Worker) (verdict : Py Unit) : Option RpcState :=
  match w.pc with
  | .locked =>
    match verdict with
    | .ok () => some (s.goto i w .checked)
    | .error e => some (s.unwind i w e)
  | _ => none

/-- `mark_executing`, and the `executing` response after it. -/
def markExecuting (s : RpcState) (i : Nat) (w : Worker) (now : Int) (ok : Bool) :
    Option RpcState :=
  match w.pc with
  | .checked =>
    -- the record is written before anything is sent to the device
    if w.job.governed then
      let (guard, result) := s.guard.markExecuting w.job.payload now ok
      match result with
      | .ok () =>
        some ((({ s with guard } : RpcState).respond i w.job "processing" "executing" .null
          .null).goto i w .ready)
      -- a failed write goes to the `except` of the worker
      | .error e => some (({ s with guard } : RpcState).unwind i w e)
    else some (s.goto i w .ready)
  | _ => none

/-- `handler(params)` begins. -/
def call (s : RpcState) (i : Nat) (w : Worker) : Option RpcState :=
  match w.pc with
  | .ready => some ((s.emit (.invoked i w.job)).goto i w .running)
  | _ => none

/-- The handler returns or raises, and `execute` goes on to `mark_terminal`. -/
def handlerReturn (s : RpcState) (i : Nat) (w : Worker) (outcome readResult : Py Json) :
    Option RpcState :=
  match w.pc with
  | .running =>
    -- the handler has returned or raised, which the trace keeps
    let s := s.emit (.returned i w.job)
    match (do Worker.conclude w.job (← outcome) readResult : Py Conclusion) with
    | .ok c => some (s.goto i w (.returned c))
    | .error e => some (s.unwind i w e)
  | _ => none

/-- `mark_terminal` at the end of the `with` block. -/
def markTerminal (s : RpcState) (i : Nat) (w : Worker) (now : Int) (ok : Bool) :
    Option RpcState :=
  match w.pc with
  | .returned c =>
    -- the outcome is filed before it is answered
    if w.job.governed then
      let (guard, result) :=
        s.guard.markTerminal w.job.payload c.status c.result c.error c.stage now ok
      match result with
      | .ok () => some (({ s with guard } : RpcState).goto i w (.terminal c))
      | .error e => some (({ s with guard } : RpcState).unwind i w e)
    else some (s.goto i w (.terminal c))
  | _ => none

/-- The final response, then the lock is released and the thread ends. -/
def finish (s : RpcState) (i : Nat) (w : Worker) : Option RpcState :=
  match w.pc with
  | .terminal c =>
    let s := s.respond i w.job c.status c.stage c.result c.error
    some ((if w.job.governed then s.release w.job else s).retire i)
  | _ => none

/-- The `except` block: a failed command is recorded as terminal, without the lock, before it
    is answered; when the record fails too, the thread dies unanswered. -/
def abort (s : RpcState) (i : Nat) (w : Worker) (now : Int) (ok : Bool) : Option RpcState :=
  match w.pc with
  | .failing e =>
    -- the failure is filed first, and its answer goes out only if that worked
    if w.job.governed then
      let (guard, result) :=
        s.guard.markTerminal w.job.payload "error" .null (.str e.text) "failed" now ok
      match result with
      | .ok () =>
        some ((({ s with guard } : RpcState).respond i w.job "error" "failed" .null
          (.str e.text)).retire i)
      -- the second failure ends the thread without an answer
      | .error _ => some (({ s with guard } : RpcState).retire i)
    else some ((s.respond i w.job "error" "failed" .null (.str e.text)).retire i)
  | _ => none

/-- The process dies and starts again from its files. -/
def crash (s : RpcState) : Option RpcState :=
  match GovernedCommandGuard.init cfg.guard s.guard.policyFile s.guard.journal.file with
  | .ok guard => some { s with guard, heldLocks := [], workers := [] }
  | .error _ => none

/-- `reset_for_new_claim`; the event marks a reset that returned. -/
def reset (s : RpcState) (ok removed : Bool) : RpcState :=
  let (guard, result) := s.guard.resetForNewClaim ok removed
  match result with
  | .ok () => ({ s with guard } : RpcState).emit .claimReset
  | .error _ => { s with guard }

/-- `install_policy`. -/
def installPolicy (s : RpcState) (wire : Json) (fileOk ok : Bool) : RpcState :=
  ({ s with guard := (s.guard.installPolicy cfg.guard wire fileOk ok).1 } : RpcState).emit
    (.policy wire)

/-- One action of the system. -/
def step (s : RpcState) : Label → Option RpcState
  | .deliver d => some (s.deliver cfg d)
  | .acquire i => (s.workers.get? i).bind (s.acquire i)
  | .prerequisites i verdict => (s.workers.get? i).bind (s.prerequisites i · verdict)
  | .markExecuting i now ok => (s.workers.get? i).bind (s.markExecuting i · now ok)
  | .call i => (s.workers.get? i).bind (s.call i)
  | .handlerReturn i outcome readResult =>
    (s.workers.get? i).bind (s.handlerReturn i · outcome readResult)
  | .markTerminal i now ok => (s.workers.get? i).bind (s.markTerminal i · now ok)
  | .finish i => (s.workers.get? i).bind (s.finish i)
  | .abort i now ok => (s.workers.get? i).bind (s.abort i · now ok)
  | .crash => s.crash cfg
  | .reset ok removed => some (s.reset ok removed)
  | .installPolicy wire fileOk ok => some (s.installPolicy cfg wire fileOk ok)

/-- A process that has just started: no worker, no lock, no history. -/
def Booted (s : RpcState) : Prop :=
  ∃ policyFile journalFile guard,
    GovernedCommandGuard.init cfg.guard policyFile journalFile = .ok guard ∧
      s = { guard, heldLocks := [], workers := [], nextId := 0, trace := [] }

/-- A run of the system from a freshly started process. -/
def exec (s : RpcState) (labels : List Label) : Option RpcState :=
  Run.exec (step cfg) s labels

end RpcState

end Novena
