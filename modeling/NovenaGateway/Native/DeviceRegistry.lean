import NovenaGateway.Native.Connectors

/-!
# The device registry

`_connectors` and `_devices` of `NovenaGateway` with the operations that change them: the
registrations of a running connector, the starts and stops of `novena_gateway.py`, the restarts of
`rpc_handler.py` and the application of a configuration of `remote_config_handler.py`. A connector
is an instance, so that a restarted one is not the one before it.
-/

namespace Novena

/-- A connector instance: the number of its construction, and `get_name()`. -/
structure Connector where
  id : Nat
  name : String
  deriving DecidableEq

/-- An entry of `_devices`. -/
structure RegisteredDevice where
  deviceType : String
  /-- The instance the entry refers to. -/
  connector : Nat
  deviceId : Json

/-- The connectors that run and the devices they registered. `created` counts the instances that
    were made. -/
structure Registry where
  /-- `_config`. -/
  config : Json
  connectors : List Connector
  devices : Dict String RegisteredDevice
  created : Nat

namespace Registry

open NovenaGateway (startConnector startConnectors)

/-! ## Devices -/

/-- `add_device`. -/
def addDevice (r : Registry) (deviceName : String) (info : RegisteredDevice) : Registry :=
  { r with devices := r.devices.set deviceName info }

/-- `del_device`. -/
def delDevice (r : Registry) (deviceName : String) : Registry :=
  { r with devices := r.devices.erase deviceName }

/-- `__manage_device_connectivity_to_platform` of a connector whose device answers. -/
def manageDevice (r : Registry) (connector : Connector) (deviceName deviceType : String)
    (deviceId : Json) : Registry :=
  if r.devices.contains deviceName then r
  else r.addDevice deviceName ⟨deviceType, connector.id, deviceId⟩

/-! ## Connectors -/

/-- `_connectors.append` of new instances with these names. -/
def append (r : Registry) : List Json → Registry
  | [] => r
  | name :: names =>
    append { r with connectors := r.connectors ++ [⟨r.created, name.toStr⟩]
                    created := r.created + 1 } names

/-- `_start_connectors`. -/
def start (r : Registry) (outcomes : Nat → StartOutcome) : Registry × Py (List StartResult) :=
  let started := startConnectors outcomes r.config
  (append { r with config := started.config } started.opened, started.results)

/-- `_stop_connectors`. -/
def stop (r : Registry) : Registry := { r with connectors := [], devices := [] }

/-- The loop of `_cmd_restart_connector` over the configuration: the first entry of that name is
    started. -/
def startNamed (name : Json) (outcome : StartOutcome) : List Json → List Json × Option StartResult
  | [] => ([], none)
  | entry :: entries =>
    match entry.get "name" with
    | .error _ => (entry :: entries, none)
    | .ok entryName =>
      if entryName.eq name then
        match startConnector outcome entry with
        | (entry, .ok result) => (entry :: entries, some result)
        | (entry, .error _) => (entry :: entries, none)
      else
        let (entries, result) := startNamed name outcome entries
        (entry :: entries, result)

/-- The second half of `_cmd_restart_connector`: a new instance, if there is an entry and it
    opens. -/
def reopen (r : Registry) (name : Json) (outcome : StartOutcome) : Registry :=
  match r.config with
  | .obj fields => match Dict.get? fields "connectors" with
    | some (.arr entries) =>
      let (entries, result) := startNamed name outcome entries
      let r := { r with config := .obj (Dict.set fields "connectors" (.arr entries)) }
      match result with
      | some result => if result.success then r.append [result.name] else r
      | none => r
    | _ => r
  | _ => r

/-- The connector `_cmd_restart_connector` is to restart. -/
def restartTarget (r : Registry) (params : Json) : Option Connector :=
  match params.get "name" with
  | .ok name => if name.truthy then r.connectors.find? fun c => name.eq (.str c.name) else none
  | .error _ => none

/-- `_cmd_restart_connector`: what it leaves, whether it answers or raises. -/
def restartConnector (r : Registry) (params : Json) (outcome : StartOutcome) : Registry :=
  match r.restartTarget params with
  | none => r
  | some target =>
    reopen { r with connectors := r.connectors.erase target } (params.field "name") outcome

/-- `_cmd_restart_all`. -/
def restartAll (r : Registry) (outcomes : Nat → StartOutcome) : Registry :=
  (r.stop.start outcomes).1

/-- The connectors of another configuration. -/
def switchTo (r : Registry) (config : Json) (outcomes : Nat → StartOutcome) :
    Registry × Py (List StartResult) :=
  start { r.stop with config } outcomes

/-- `_apply_config_with_rollback`, where the file holds `previous`. -/
def applyConfigWithRollback (r : Registry) (newConfig previous : Json)
    (outcomes rollbackOutcomes : Nat → StartOutcome) : Registry :=
  match r.switchTo newConfig outcomes with
  | (r, .error _) => r
  | (r, .ok results) =>
    if results.all StartResult.success then r else (r.switchTo previous rollbackOutcomes).1

/-- `_reset_field_state_for_new_claim`. -/
def resetFieldState (r : Registry) (config : Json) : Registry := { r.stop with config }

/-! ## Runs -/

/-- What can happen next. -/
inductive Label where
  | start (outcomes : Nat → StartOutcome)
  /-- A running connector finds its device connected, or loses it. -/
  | manage (connector : Connector) (deviceName deviceType : String) (deviceId : Json)
  | lose (connector : Connector) (deviceName : String)
  | stop
  | restartConnector (params : Json) (outcome : StartOutcome)
  | restartAll (outcomes : Nat → StartOutcome)
  | applyConfig (newConfig previous : Json) (outcomes rollbackOutcomes : Nat → StartOutcome)
  | resetClaim (config : Json)

/-- One operation. A connector that does not run makes no calls. -/
def step (r : Registry) : Label → Option Registry
  | .start outcomes => some (r.start outcomes).1
  | .manage connector deviceName deviceType deviceId =>
    if connector ∈ r.connectors then some (r.manageDevice connector deviceName deviceType deviceId)
    else none
  | .lose connector deviceName =>
    if connector ∈ r.connectors then some (r.delDevice deviceName) else none
  | .stop => some r.stop
  | .restartConnector params outcome => some (r.restartConnector params outcome)
  | .restartAll outcomes => some (r.restartAll outcomes)
  | .applyConfig newConfig previous outcomes rollbackOutcomes =>
    some (r.applyConfigWithRollback newConfig previous outcomes rollbackOutcomes)
  | .resetClaim config => some (r.resetFieldState config)

/-- A gateway before its first start. -/
def init (config : Json) : Registry := ⟨config, [], [], 0⟩

end Registry

end Novena
