import NovenaGateway.ForStd.Except
import NovenaGateway.Native.CommandJournal

/-!
# Edge validation of governed commands

`GovernedCommandGuard` of `governed_commands.py`: the retained control policy, the journal,
and the checks a signed command passes before a worker is started for it. Ed25519, base64
and the ISO timestamp parser stay parameters; the checks, their order and the exception each
of them raises are the source's. A rejection is a `GovernedCommandRejected`; the coercions
and `.get` calls can also raise the interpreter's own exceptions.
-/

namespace Novena

/-- A parsed timestamp: microseconds in UTC, and whether the text carried an offset. -/
structure IsoTime where
  utc : Int
  aware : Bool

/-- The configuration and the external functions of one `GovernedCommandGuard`. -/
structure GuardConfig where
  serialNumber : String
  trustedClock : Bool
  maxClockOffset : F64
  /-- The ids in `_keys`: trusted, well formed and not revoked. -/
  keyIds : List String
  /-- Ed25519 under the key of an id accepts a base64 signature over a payload's canonical
      bytes. -/
  verifies : String → Json → Json → Bool
  /-- `datetime.fromisoformat` after `Z` was replaced, moved to UTC. -/
  fromisoformat : String → Py IsoTime
  /-- SHA-256 of the canonical bytes of a payload, in hexadecimal. -/
  checksum : Json → String

/-- What the clock says while a message is handled. -/
structure Clock where
  ready : Bool
  now : Int

/-- `GovernedCommandGuard`: the retained policy in memory (`null` when there is none), the
    policy file and the journal. -/
structure GovernedCommandGuard where
  policy : Json
  policyFile : Option Json
  journal : DurableCommandJournal

/-- `raise GovernedCommandRejected(msg)` unless `b`. -/
def require (b : Bool) (msg : String) : Py Unit :=
  if b then .ok () else .error (.governedCommandRejected msg)

@[simp] theorem require_eq_ok {b : Bool} {msg : String} {u : Unit} :
    require b msg = .ok u ↔ b = true := by
  cases b <;> simp [require]

/-- `isinstance(v, str) and v.strip()`. -/
def isNonBlank : Json → Bool
  | .str s => strip s.toList ≠ []
  | _ => false

/-- `float` division of a number of microseconds into seconds (`timedelta.total_seconds`). -/
def totalSeconds (micros : Int) : F64 :=
  (F64.ofRat? ((micros : ℚ) / 1000000)).getD .nan

/-- The operations `validate_diagnostic` accepts. -/
def signedDiagnosticOperations : List String :=
  ["scan_devices", "deployment_preflight", "deployment_discover", "deployment_validate"]

namespace GovernedCommandGuard

variable (cfg : GuardConfig)

/-- `_verify_signed`. -/
def verifySigned (wire : Json) : Py Unit := do
  let keyId ← wire.get "signing_key_id"
  match ← keyId.hashKey with
  | .str id =>
    require (id ∈ cfg.keyIds) "Signing key is not trusted"
    match wire.item "signature", wire.item "payload" with
    | .ok signature, .ok payload =>
      require (cfg.verifies id payload signature) "Signature verification failed"
    | _, _ => throw (.governedCommandRejected "Signature verification failed")
  | _ => throw (.governedCommandRejected "Signing key is not trusted")

/-- `_parse_time`. -/
def parseTime (value : Json) : Py IsoTime :=
  match value with
  | .str s => match cfg.fromisoformat s with
    | .ok t => .ok t
    | .error e => if e.isValueError ∨ e = .attributeError
        then .error (.governedCommandRejected "Command timestamp is invalid") else .error e
  | _ => .error (.governedCommandRejected "Command timestamp is invalid")

/-- `_load_policy` on what is at the policy path. Only the classes of its `except` clause
    are turned into "no policy". -/
def loadPolicy (file : Option Json) : Py Json :=
  match file with
  | none => .ok .null
  | some wire =>
    let checked : Py Json := do
      verifySigned cfg wire
      let payload ← wire.item "payload"
      let serial ← payload.get "gateway_serial"
      return if serial.eq (.str cfg.serialNumber) then payload else .null
    match checked with
    | .ok policy => .ok policy
    | .error e => if e.isValueError ∨ e = .keyError ∨ e = .osError ∨ e = .invalidSignature
        then .ok .null else .error e

/-- `__init__`: the journal and the policy are read from disk. -/
def init (policyFile : Option Json) (journalFile : JournalFile) : Py GovernedCommandGuard :=
  (loadPolicy cfg policyFile).map fun policy =>
    { policy, policyFile, journal := .init journalFile }

/-- `control_epoch`. -/
def controlEpoch (g : GovernedCommandGuard) : Py Json :=
  (g.policy.orElse (.obj [])).getD "control_epoch" (.int 0)

/-- The checks of `install_policy` before it writes anything: the payload and its epoch. -/
def checkPolicy (g : GovernedCommandGuard) (wire : Json) : Py (Json × Int) := do
  match wire with
  | .obj _ => pure ()
  | _ => throw (.governedCommandRejected "Policy bundle must be an object")
  verifySigned cfg wire
  let payload ← wire.item "payload"
  require ((← wire.get "checksum").eq (.str (cfg.checksum payload))) "Policy checksum mismatch"
  require ((← payload.get "schema_version").eq (.int 1)) "Unsupported policy schema"
  require ((← payload.get "gateway_serial").eq (.str cfg.serialNumber))
    "Policy targets a different Gateway"
  let epoch ← (← payload.getD "control_epoch" (.int 0)).toInt
  require (g.journal.maxEpoch ≤ epoch) "Restored or stale policy epoch"
  return (payload, epoch)

/-- `install_policy`: `fileOk` is the outcome of replacing the policy file, `ok` that of the
    journal's. -/
def installPolicy (g : GovernedCommandGuard) (wire : Json) (fileOk ok : Bool) :
    GovernedCommandGuard × Py Unit :=
  match checkPolicy cfg g wire with
  | .error e => (g, .error e)
  | .ok (payload, epoch) =>
    if fileOk then
      let (journal, result) := g.journal.recordEpoch epoch ok
      ({ policy := payload, policyFile := some wire, journal }, result)
    else (g, .error .osError)

/-- `reset_for_new_claim`: `ok` is the outcome of persisting the journal, `removed` that of
    removing the policy file. -/
def resetForNewClaim (g : GovernedCommandGuard) (ok removed : Bool) :
    GovernedCommandGuard × Py Unit :=
  let (journal, result) := g.journal.reset ok
  match result with
  | .error e => ({ g with policy := .null, journal }, .error e)
  | .ok () =>
    if removed then ({ policy := .null, policyFile := none, journal }, .ok ())
    else ({ g with policy := .null, journal }, .error .osError)

/-- The envelope without the fields the signature does not cover. -/
def signedBody (envelope : Dict String Json) : Json :=
  .obj (envelope.filter fun p => p.1 ≠ "signature" ∧ p.1 ≠ "signing_key_id")

/-- `envelope.get(key)` on an envelope that is known to be an object. -/
def field (envelope : Dict String Json) (key : String) : Json :=
  (envelope.get? key).getD .null

/-- The checks of `validate` on clock, signature, identity, target and time. -/
def validateEnvelope (g : GovernedCommandGuard) (clock : Clock) (envelope : Dict String Json) :
    Py Unit := do
  require (cfg.trustedClock && clock.ready) "Gateway clock is not synchronized"
  require g.policy.truthy "No valid retained control policy is loaded"
  verifySigned cfg (.obj [("payload", signedBody envelope),
    ("signature", field envelope "signature"),
    ("signing_key_id", field envelope "signing_key_id")])
  require ((field envelope "schema_version").eq (.int 1)) "Unsupported governed-command schema"
  require (isNonBlank (field envelope "request_id")) "Missing canonical request_id"
  require (isNonBlank (field envelope "command_id")) "Missing canonical command_id"
  require (isNonBlank (field envelope "idempotency_key")) "Missing canonical idempotency_key"
  let serial ← ((field envelope "target").orElse (.obj [])).get "gateway_serial"
  require (serial.eq (.str cfg.serialNumber)) "Command targets a different Gateway"
  let issuedAt ← parseTime cfg (field envelope "issued_at")
  let expiresAt ← parseTime cfg (field envelope "expires_at")
  require (clock.now < expiresAt.utc) "Command has expired"
  let age := totalSeconds |clock.now - issuedAt.utc|
  let window := cfg.maxClockOffset.max (totalSeconds (expiresAt.utc - issuedAt.utc))
  require (!window.lt age) "Command timestamp is outside its trusted window"
  let epoch ← (((envelope.get? "control_epoch").getD (.int 0))).toInt
  require ((Json.int epoch).eq (← g.controlEpoch)) "Command control epoch is stale"

/-- `validate_diagnostic`: a signed, gateway-scoped diagnostic without control policy; `skew` is
    `_diagnostic_clock_skew`. -/
def validateDiagnostic (skew : F64) (clock : Clock) (envelope : Dict String Json) :
    Py Json := do
  require (cfg.trustedClock && clock.ready) "Gateway clock is not synchronized"
  verifySigned cfg (.obj [("payload", signedBody envelope),
    ("signature", field envelope "signature"),
    ("signing_key_id", field envelope "signing_key_id")])
  require ((field envelope "schema_version").eq (.int 1)) "Unsupported diagnostic command schema"
  require (isNonBlank (field envelope "request_id")) "Missing canonical request_id"
  require (isNonBlank (field envelope "command_id")) "Missing canonical command_id"
  require (isNonBlank (field envelope "idempotency_key")) "Missing canonical idempotency_key"
  let serial ← ((field envelope "target").orElse (.obj [])).get "gateway_serial"
  require (serial.eq (.str cfg.serialNumber)) "Diagnostic command targets a different Gateway"
  let method ← (field envelope "method").hashKey
  require (method ∈ signedDiagnosticOperations.map Json.Key.str)
    "Unsupported signed diagnostic operation"
  let issuedAt ← parseTime cfg (field envelope "issued_at")
  let expiresAt ← parseTime cfg (field envelope "expires_at")
  require (clock.now < expiresAt.utc) "Diagnostic command has expired"
  require (!skew.lt (totalSeconds (issuedAt.utc - clock.now)))
    "Diagnostic command timestamp is outside its trusted window"
  return signedBody envelope

/-- One round of the `functionCode`/`address` loop of `validate`. -/
def checkMapping (params mapping : Json) (name : String) : Py Unit := do
  let actual ← (← params.getD name (.int (-1))).toInt
  let expected ← (← mapping.getD name (.int (-2))).toInt
  require (actual = expected) ("Connector " ++ name ++ " does not match retained policy")

/-- The control the policy retains for a command, with the checks of `validate` on identity,
    revisions, connector mapping, type and unit. -/
def validateControl (g : GovernedCommandGuard) (envelope : Dict String Json) : Py Json := do
  let params := (field envelope "params").orElse (.obj [])
  let deviceId ← ((field envelope "target").orElse (.obj [])).get "device_id"
  let commandKey ← params.get "command_key"
  require (deviceId.truthy && (← params.get "device_id").toStr = deviceId.toStr
      && commandKey.truthy) "Canonical device identity and command key are required"
  let controls ← g.policy.getD "controls" (.obj [])
  let control ← controls.get (deviceId.toStr ++ ":" ++ commandKey.toStr)
  require control.truthy "Device key is not enabled by retained policy"
  require ((field envelope "revisions").eq (← control.get "revisions"))
    "Command policy revisions are stale"
  require ((field envelope "policy_checksum").eq (← control.get "policy_checksum"))
    "Command policy checksum is stale"
  let mapping := (← control.get "mapping").orElse (.obj [])
  checkMapping params mapping "functionCode"
  checkMapping params mapping "address"
  let type ← mapping.get "type"
  require (!type.truthy || (← params.get "type").eq type)
    "Connector data type does not match retained policy"
  require ((← params.get "unit").eq (← control.get "unit"))
    "Engineering unit does not match retained policy"
  return control

/-- `limits.get(name) is not None and float(expected) < float(limits[name])`, and the mirrored
    test for the maximum: `below` says which side is refused. -/
def outsideLimit (limit expected : Json) (below : Bool) : Py Bool :=
  match limit with
  | .null => .ok false
  | limit => do
    let x ← expected.toFloat
    let bound ← limit.toFloat
    return if below then x.lt bound else bound.lt x

/-- The value checks of `validate` against the limits of a control. -/
def validateLimits (control expected : Json) : Py Unit := do
  let limits := (← control.get "limits").orElse (.obj [])
  let enum ← limits.get "enum"
  match enum with
  | .null => pure ()
  | enum => require (← expected.mem enum) "Value is not in retained allowed set"
  require (!(← outsideLimit (← limits.get "min") expected true)) "Value is below retained minimum"
  require (!(← outsideLimit (← limits.get "max") expected false)) "Value is above retained maximum"

/-- The end of `validate`: a terminal record is replayed, any other record is an uncertain
    outcome, and a new command needs a sequence above the device's maximum. -/
def validateFresh (g : GovernedCommandGuard) (envelope : Dict String Json) :
    Py (Option CommandRecord) := do
  let commandId := match field envelope "command_id" with
    | .str s => s
    | _ => ""
  match g.journal.get commandId with
  | some record =>
    if record.state = .terminal then return some record
    else throw (.governedCommandRejected
      "Prior execution outcome is uncertain; command will not repeat")
  | none =>
    let sequence ← ((envelope.get? "sequence_number").getD (.int 0)).toInt
    let deviceId ← ((field envelope "target").orElse (.obj [])).get "device_id"
    let highest ← g.journal.maxSequence deviceId
    require (highest < sequence) "Command sequence is stale or duplicated"
    return none

/-- `validate`: the retained control, and the terminal record to replay if there is one. -/
def validate (g : GovernedCommandGuard) (clock : Clock) (envelope : Dict String Json) :
    Py (Json × Option CommandRecord) := do
  validateEnvelope cfg g clock envelope
  let control ← validateControl g envelope
  let params := (field envelope "params").orElse (.obj [])
  validateLimits control (← params.get "expected_value")
  let replay ← validateFresh g envelope
  return (control, replay)

end GovernedCommandGuard

/-! ## The fields a worker reads from its envelope -/

/-- The fields `mark_executing` and `mark_terminal` read from an envelope. -/
structure CommandIdentity where
  commandId : String
  deviceId : Json
  sequenceNumber : Json

/-- `envelope["command_id"]`, `envelope["target"]["device_id"]` and
    `envelope["sequence_number"]`. -/
def commandIdentity (envelope : Dict String Json) : Py CommandIdentity := do
  let target ← (Json.obj envelope).item "target"
  let deviceId ← target.item "device_id"
  let sequenceNumber ← (Json.obj envelope).item "sequence_number"
  match ← (Json.obj envelope).item "command_id" with
  | .str commandId => return { commandId, deviceId, sequenceNumber }
  | _ => throw .typeError

namespace GovernedCommandGuard

/-- `device_lock`: the key of the lock in `_device_locks`. -/
def deviceLock (deviceId : Json) : Py Json.Key := deviceId.hashKey

/-- The record `mark_executing` writes. -/
def executingRecord (id : CommandIdentity) (now : Int) : CommandRecord :=
  { state := .executing, deviceId := id.deviceId, sequenceNumber := id.sequenceNumber,
    status := none, result := .null, error := .null, stage := none, timestamp := now }

/-- The record `mark_terminal` writes. -/
def terminalRecord (id : CommandIdentity) (status : String) (result error : Json)
    (stage : String) (now : Int) : CommandRecord :=
  { state := .terminal, deviceId := id.deviceId, sequenceNumber := id.sequenceNumber,
    status := some status, result, error, stage := some stage, timestamp := now }

/-- A journal write of the record a worker makes of its envelope. -/
def mark (g : GovernedCommandGuard) (envelope : Dict String Json)
    (record : CommandIdentity → CommandRecord) (now : Int) (ok : Bool) :
    GovernedCommandGuard × Py Unit :=
  match commandIdentity envelope with
  | .error e => (g, .error e)
  | .ok id =>
    let (journal, result) := g.journal.write id.commandId (record id) now ok
    ({ g with journal }, result)

/-- `mark_executing`. -/
def markExecuting (g : GovernedCommandGuard) (envelope : Dict String Json) (now : Int)
    (ok : Bool) : GovernedCommandGuard × Py Unit :=
  g.mark envelope (executingRecord · now) now ok

/-- `mark_terminal`. -/
def markTerminal (g : GovernedCommandGuard) (envelope : Dict String Json) (status : String)
    (result error : Json) (stage : String) (now : Int) (ok : Bool) :
    GovernedCommandGuard × Py Unit :=
  g.mark envelope (terminalRecord · status result error stage now) now ok

end GovernedCommandGuard

end Novena
