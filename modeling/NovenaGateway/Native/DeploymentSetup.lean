import NovenaGateway.Native.Connectors
import NovenaGateway.Native.GovernedCommands

/-!
# Signed configuration envelopes

`ConfigReplayJournal` and `ConfigEnvelopeGuard` of `deployment_setup.py`: the checks a remote
configuration passes before it is applied, and the journal that makes its delivery idempotent.
Ed25519, SHA-256 and the timestamp parser are the parameters they are for governed commands.
-/

namespace Novena

/-- `config_update_status` of an update that was applied. -/
inductive UpdateStatus where
  | success
  | rolledBack
  deriving DecidableEq

/-- The dictionary `_apply_config_with_rollback` returns, before its texts are redacted. -/
structure UpdateResult where
  status : UpdateStatus
  error : Option String
  connectorResults : List StartResult
  rollbackResults : List StartResult

/-- An entry of `requests`: the revision of a configuration and the result that was sent. -/
structure ReplayEntry where
  revision : Int
  result : UpdateResult

/-- `_state` of a `ConfigReplayJournal`. -/
structure ReplayState where
  maxRevision : Int
  requests : Dict String ReplayEntry

/-- The state of a new journal. -/
def ReplayState.empty : ReplayState := ⟨0, []⟩

/-- `ConfigReplayJournal`: the state in memory and the one in the file, if there is one. -/
structure ConfigReplayJournal where
  state : ReplayState
  file : Option ReplayState

namespace ConfigReplayJournal

/-- `__init__`: a missing file is an empty journal. -/
def init (file : Option ReplayState) : ConfigReplayJournal := ⟨file.getD .empty, file⟩

/-- `_persist`: `ok` is the outcome of replacing the file. -/
def persist (j : ConfigReplayJournal) (ok : Bool) : ConfigReplayJournal × Py Unit :=
  if ok then ({ j with file := some j.state }, .ok ()) else (j, .error .osError)

/-- `get`. -/
def get (j : ConfigReplayJournal) (idempotencyKey : String) : Option ReplayEntry :=
  j.state.requests.get? idempotencyKey

/-- The newest five hundred requests; `sorted` is stable also when it is reversed. -/
def pruned (requests : Dict String ReplayEntry) : Dict String ReplayEntry :=
  if 500 < requests.length then
    (requests.mergeSort fun a b => decide (b.2.revision ≤ a.2.revision)).take 500
  else requests

/-- `record`. -/
def record (j : ConfigReplayJournal) (idempotencyKey : String) (revision : Int)
    (result : UpdateResult) (ok : Bool) : ConfigReplayJournal × Py Unit :=
  let requests := pruned (j.state.requests.set idempotencyKey ⟨revision, result⟩)
  persist { j with state := ⟨max revision j.state.maxRevision, requests⟩ } ok

/-- `reset`. -/
def reset (j : ConfigReplayJournal) (ok : Bool) : ConfigReplayJournal × Py Unit :=
  persist { j with state := .empty } ok

/-- And so is its file, if it could be written. -/
@[simp] theorem reset_file (j : ConfigReplayJournal) :
    (j.reset true).1.file = some .empty := rfl

end ConfigReplayJournal

/-- `raise DeploymentSetupRejected(msg)` unless `b`. -/
def requireSetup (b : Bool) (msg : String) : Py Unit :=
  if b then .ok () else .error (.deploymentSetupRejected msg)

/-- What is required holds. -/
@[simp] theorem requireSetup_eq_ok {b : Bool} {msg : String} {u : Unit} :
    requireSetup b msg = .ok u ↔ b = true := by
  cases b <;> simp [requireSetup]

/-- The exceptions of a step that are turned into a rejection with a text of its own. -/
def rejectSetup {α : Type} (msg : String) : Py α → Py α
  | .ok value => .ok value
  | .error e => if e = .keyError ∨ e = .typeError ∨ e.isValueError
      then .error (.deploymentSetupRejected msg) else .error e

namespace ConfigEnvelopeGuard

open GovernedCommandGuard (field signedBody)

variable (cfg : GuardConfig)

/-- `ready`. -/
def ready (clock : Clock) : Bool := cfg.trustedClock && clock.ready && !cfg.keyIds.isEmpty

/-- The signature checks of `verify`. -/
def verifySignature (wire : Dict String Json) : Py Unit := do
  match ← (field wire "signing_key_id").hashKey with
  | .str id =>
    requireSetup (decide (id ∈ cfg.keyIds) && (field wire "signature").truthy)
      "Configuration signing key is not trusted"
    requireSetup (cfg.verifies id (signedBody wire) (field wire "signature"))
      "Configuration signature verification failed"
  | _ => throw (.deploymentSetupRejected "Configuration signing key is not trusted")

/-- The checks of `verify` on what was signed: the configuration and the idempotency key. -/
def verifyBody (clock : Clock) (wire : Dict String Json) : Py (Dict String Json × String) := do
  requireSetup ((field wire "schema_version").eq (.int 1)) "Unsupported guided setup schema version"
  let serial ← ((field wire "target").orElse (.obj [])).get "gateway_serial"
  requireSetup (serial.eq (.str cfg.serialNumber)) "Configuration targets a different Gateway"
  requireSetup ((field wire "request_id").truthy && (field wire "idempotency_key").truthy)
    "Configuration request identity is incomplete"
  let expiresAt ← rejectSetup "Configuration expiry is invalid"
    ((Json.obj wire).item "expires_at" >>= fun t => cfg.fromisoformat t.toStr)
  requireSetup (clock.now < expiresAt.utc) "Configuration request has expired"
  match field wire "config" with
  | .obj config =>
    requireSetup ((field wire "checksum").eq (.str (cfg.checksum (.obj config))))
      "Configuration checksum mismatch"
    return (config, (field wire "idempotency_key").toStr)
  | _ => throw (.deploymentSetupRejected "Configuration payload is missing")

/-- What `verify` makes of an envelope: a replay of a recorded result, or a configuration to apply
    with its idempotency key and revision. -/
inductive Verdict where
  | replay (entry : ReplayEntry)
  | apply (config : Dict String Json) (idempotencyKey : String) (revision : Int)

/-- `verify`. -/
def verify (journal : ConfigReplayJournal) (clock : Clock) (wire : Dict String Json) :
    Py Verdict := do
  requireSetup (ready cfg clock) "Signed guided setup is not configured on this Gateway"
  verifySignature cfg wire
  let (config, idempotencyKey) ← verifyBody cfg clock wire
  match journal.get idempotencyKey with
  | some entry => return .replay entry
  | none =>
    let revision ← rejectSetup "Configuration revision is invalid"
      ((Json.obj wire).item "revision" >>= Json.toInt)
    requireSetup (journal.state.maxRevision < revision) "Configuration revision is stale"
    return .apply config idempotencyKey revision

end ConfigEnvelopeGuard

end Novena
