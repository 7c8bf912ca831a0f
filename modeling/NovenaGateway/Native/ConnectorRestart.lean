import NovenaGateway.Native.DeviceRegistry

/-!
# Restarting one connector

`_cmd_restart_connector` of `rpc_handler.py` with its answer. What it leaves behind is
`Registry.restartConnector`; here is what it says of it, which is decided apart from whether an
instance was started.
-/

namespace Novena

/-- What importing, constructing and opening a connector of a known type comes to. A constructor
    that was reached leaves `config` of the entry's configuration. -/
inductive LoadOutcome where
  | opened (config : Dict String Json → Dict String Json)
  /-- `import_module` returns its list of errors, with its text. -/
  | notLoaded (errors : String)
  /-- Something raises, with the text of the exception. -/
  | raised (e : Exn) (text : String) (config : Dict String Json → Dict String Json)

/-- Whether there is a new instance, as `_start_connectors` would report it. -/
def LoadOutcome.startOutcome : LoadOutcome → StartOutcome
  | .opened config => ⟨none, config⟩
  | .notLoaded errors => .failed errors
  | .raised _ text config => ⟨some text, config⟩

namespace Registry

open NovenaGateway (connectorEntries)

/-- The loop that finds the connector's entry: the first one with that name. -/
def configNamed (name : Json) : List Json → Py (Option Json)
  | [] => .ok none
  | entry :: entries =>
    match entry.get "name" with
    | .error e => .error e
    | .ok entryName => if entryName.eq name then .ok (some entry) else configNamed name entries

/-- The entry of the configuration that `_cmd_restart_connector` starts again. -/
def connectorConfig (r : Registry) (name : Json) : Py (Option Json) :=
  match connectorEntries r.config with
  | .error e => .error e
  | .ok entries => configNamed name entries

/-- Starting the connector of an entry. It returns for a type that is not known and for a class
    that is not found, as it does for a connector that is open. -/
def restartEntry (load : LoadOutcome) (entry : Json) : Py Unit := do
  let ctype ← entry.item "type"
  let cname ← entry.getD "name" ctype
  let ccfg ← entry.getD "config" (.obj [])
  let _ ← ccfg.setItem "name" cname
  if (← ctype.hashKey) ∈ defaultConnectors.map Json.Key.str then
    match load with
    | .raised e _ _ => throw e
    | .opened _ | .notLoaded _ => return

/-- What `_cmd_restart_connector` answers, or the exception it ends with. -/
def restartAnswer (r : Registry) (params : Json) (load : LoadOutcome) : Py Json := do
  let name ← params.get "name"
  if !name.truthy then throw (.valueError "Missing 'name' parameter")
  match r.restartTarget params with
  | none => throw (.valueError ("Connector '" ++ name.toStr ++ "' not found"))
  | some _ =>
    match ← r.connectorConfig name with
    | some entry => restartEntry load entry
    | none => pure ()
    return .obj [("connector", name), ("restarted", .bool true)]

/-- `_cmd_restart_connector`. -/
def cmdRestartConnector (r : Registry) (params : Json) (load : LoadOutcome) :
    Registry × Py Json :=
  (r.restartConnector params load.startOutcome, r.restartAnswer params load)

end Registry

end Novena
