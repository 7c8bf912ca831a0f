import NovenaGateway.Native.NovenaGateway

/-!
# Remote configuration updates

`RemoteConfigHandler` of `remote_config_handler.py`. Each action prepares a configuration and
validates it; `_apply_config_with_rollback` then writes it, restarts the connectors and goes back
when one of them does not start. The copies kept as backups are in `ConfigBackups`.
-/

namespace Novena

namespace RemoteConfigHandler

open NovenaGateway (validateConfig connectorEntries startConnectors)

/-! ## Preparing the configuration -/

variable (host : Host)

/-- The validation every action ends with. -/
def validated (context : String) (config : Json) : Py Json := do
  let errors ← validateConfig host config
  if errors.isEmpty then return config
  else throw (.valueError (context ++ ": " ++ ", ".intercalate errors))

/-- `_apply_full_update` up to the application. -/
def applyFullUpdate (newConfig : Json) : Py Json :=
  validated host "Invalid config schema" newConfig

/-- The search loop of `_apply_connector_update`: the first entry of that name is replaced. -/
def replaceNamed (name connector : Json) : List Json → Py (Option (List Json))
  | [] => .ok none
  | conn :: connectors => do
    if (← conn.get "name").eq name then return some (connector :: connectors)
    else return (← replaceNamed name connector connectors).map (conn :: ·)

/-- The list a `connector_update` sets `connectors` to. -/
def updatedConnectors (current : Json) (update : Dict String Json) : Py (List Json) :=
  match Dict.get? update "connectors" with
  | some (.arr connectors) => .ok connectors
  | some _ => .error (.valueError "Connector update 'connectors' field must be a list")
  | none => do
    let name := (Dict.get? update "name").getD .null
    if !name.truthy then throw (.valueError "Connector update missing 'name' field") else
    match ← replaceNamed name (.obj update) (← connectorEntries current) with
    | some connectors => return connectors
    | none => throw (.valueError ("Connector '" ++ name.toStr ++ "' not found in current config"))

/-- `_apply_connector_update` up to the application. -/
def applyConnectorUpdate (current : Json) (update : Dict String Json) : Py Json := do
  let connectors ← updatedConnectors current update
  validated host "Invalid config after updating connectors"
    (← current.setItem "connectors" (.arr connectors))

/-- An entry has that name; the loop ends at the first one. -/
def hasNamed (name : Json) : List Json → Py Bool
  | [] => .ok false
  | conn :: connectors => do
    if (← conn.get "name").eq name then return true else hasNamed name connectors

/-- `_apply_connector_add` up to the application. -/
def applyConnectorAdd (current : Json) (connector : Dict String Json) : Py Json := do
  let name := (Dict.get? connector "name").getD .null
  if !name.truthy then throw (.valueError "Connector add missing 'name' field") else
  if ← hasNamed name (← connectorEntries current) then
    throw (.valueError ("Connector '" ++ name.toStr ++ "' already exists"))
  else
  match ← current.getD "connectors" (.arr []) with
  | .arr connectors =>
    validated host "Invalid config after adding connector"
      (← current.setItem "connectors" (.arr (connectors ++ [.obj connector])))
  | _ => throw .attributeError

/-- The list without the entries of that name. -/
def withoutNamed (name : Json) : List Json → Py (List Json)
  | [] => .ok []
  | conn :: connectors => do
    if (← conn.get "name").eq name then withoutNamed name connectors
    else return conn :: (← withoutNamed name connectors)

/-- `_apply_connector_remove` up to the application. -/
def applyConnectorRemove (current : Json) (connector : Dict String Json) : Py Json := do
  let name := (Dict.get? connector "name").getD .null
  if !name.truthy then throw (.valueError "Connector remove missing 'name' field") else
  let connectors ← connectorEntries current
  let remaining ← withoutNamed name connectors
  if remaining.length = connectors.length then
    throw (.valueError ("Connector '" ++ name.toStr ++ "' not found"))
  else
  validated host "Invalid config after removing connector"
    (← current.setItem "connectors" (.arr remaining))

/-- The configuration an action is about to apply to the one in the file. -/
def updatedConfig (current action : Json) (config : Dict String Json) : Py Json :=
  if action.eq (.str "full_update") then applyFullUpdate host (.obj config)
  else if action.eq (.str "connector_update") then applyConnectorUpdate host current config
  else if action.eq (.str "connector_add") then applyConnectorAdd host current config
  else if action.eq (.str "connector_remove") then applyConnectorRemove host current config
  else throw (.valueError ("Unknown config action: " ++ action.toStr))

/-! ## Applying it -/

/-- `_write_config`, `_stop_connectors` and `_start_connectors` on a configuration. -/
def switchTo (g : NovenaGateway) (config : Json) (outcomes : Nat → StartOutcome) :
    NovenaGateway × Py (List StartResult) :=
  let started := startConnectors outcomes config
  ({ g with configFile := config, config := started.config, connectors := started.opened },
    started.results)

/-- The text that names the connectors that did not start. -/
def failureText (results : List StartResult) : String :=
  "; ".intercalate ((results.filter fun r => !r.success).map fun r =>
    let error := r.error.getD ""
    r.name.toStr ++ ": " ++ if error = "" then "error" else error)

/-- `_apply_config_with_rollback`, with the outcomes of the connectors of the new configuration and
    of those of the previous one. -/
def applyConfigWithRollback (g : NovenaGateway) (newConfig : Json)
    (outcomes rollbackOutcomes : Nat → StartOutcome) : NovenaGateway × Py UpdateResult :=
  match switchTo g newConfig outcomes with
  | (g', .error e) => (g', .error e)
  | (g', .ok results) =>
    if results.all StartResult.success then (g', .ok ⟨.success, none, results, []⟩) else
    match switchTo g' g.configFile rollbackOutcomes with
    | (g', .error e) => (g', .error e)
    | (g', .ok rollback) => (g', .ok ⟨.rolledBack, some (failureText results), results, rollback⟩)

/-! ## The message -/

/-- What an acknowledgement reports. The last two carry `status="failed"`. -/
inductive AckOutcome where
  | accepted
  | finished (result : UpdateResult)
  /-- `error_code="config_rejected"`. -/
  | rejected (error : String)
  /-- `error_code="config_apply_failed"`. -/
  | failed (error : Exn)

/-- `_send_ack`. -/
structure ConfigAck where
  requestId : Json
  outcome : AckOutcome
  revision : Json
  checksum : Json
  idempotencyKey : Json
  replayed : Bool

/-- The acknowledgement of a signed body. -/
def ackOf (wire : Dict String Json) (outcome : AckOutcome) (replayed : Bool) : ConfigAck :=
  let field := GovernedCommandGuard.field wire
  { requestId := field "request_id", outcome, revision := field "revision",
    checksum := field "checksum", idempotencyKey := field "idempotency_key", replayed }

/-- The acknowledgement of a message that was not accepted. -/
def rejection (requestId : Json) (error : String) : ConfigAck :=
  { requestId, outcome := .rejected error, revision := .null, checksum := .null,
    idempotencyKey := .null, replayed := false }

/-- `_on_config_update` after an envelope was verified: the configuration is prepared, applied and
    recorded, and any exception is acknowledged as a failure. -/
def handleConfig (g : NovenaGateway) (wire config : Dict String Json) (idempotencyKey : String)
    (revision : Int) (outcomes rollbackOutcomes : Nat → StartOutcome) :
    NovenaGateway × List ConfigAck :=
  if config.isEmpty then
    (g, [ackOf wire (.failed (.valueError "Config update payload is missing 'config' field")) false])
  else
  let accepted := ackOf wire .accepted false
  let action := (Dict.get? wire "action").getD (.str "full_update")
  match updatedConfig host g.configFile action config with
  | .error e => (g, [accepted, ackOf wire (.failed e) false])
  | .ok updated =>
    match applyConfigWithRollback g updated outcomes rollbackOutcomes with
    | (g', .error e) => (g', [accepted, ackOf wire (.failed e) false])
    | (g', .ok result) =>
      ({ g' with configJournal := (g'.configJournal.record idempotencyKey revision result true).1 },
        [accepted, ackOf wire (.finished result) false])

/-- `_on_config_update`: what it leaves and the acknowledgements it sends. An exception that
    leaves it is logged by the publisher. -/
def onConfigUpdate (cfg : GuardConfig) (g : NovenaGateway) (clock : Clock) (payload : Json)
    (outcomes rollbackOutcomes : Nat → StartOutcome) : NovenaGateway × List ConfigAck :=
  let unsigned := "This Gateway only accepts signed configuration envelopes."
  match releasePending g.config, payload with
  | .error _, _ | .ok true, _ => (g, [])
  | .ok false, .obj wire =>
    match GovernedCommandGuard.field wire "schema_version" with
    | .null => (g, [rejection ((Dict.get? wire "request_id").getD (.str "unknown")) unsigned])
    | _ =>
      match ConfigEnvelopeGuard.verify cfg g.configJournal clock wire with
      | .error (.deploymentSetupRejected msg) =>
        (g, [rejection ((Dict.get? wire "request_id").getD (.str "unknown")) msg])
      | .error _ => (g, [])
      | .ok (.replay entry) => (g, [ackOf wire (.finished entry.result) true])
      | .ok (.apply config idempotencyKey revision) =>
        handleConfig host g wire config idempotencyKey revision outcomes rollbackOutcomes
  | .ok false, _ => (g, [rejection (.str "unknown") unsigned])

/-- The configuration the message is about to write, if it gets that far. -/
def writtenConfig (cfg : GuardConfig) (g : NovenaGateway) (clock : Clock) (payload : Json) :
    Option Json :=
  match releasePending g.config, payload with
  | .ok false, .obj wire =>
    match ConfigEnvelopeGuard.verify cfg g.configJournal clock wire with
    | .ok (.apply config _ _) =>
      (updatedConfig host g.configFile ((Dict.get? wire "action").getD (.str "full_update"))
        config).toOption
    | _ => none
  | _, _ => none

end RemoteConfigHandler

end Novena
