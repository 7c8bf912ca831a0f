import NovenaGateway.ForStd.Except
import NovenaGateway.Native.Config

/-!
# Starting the connectors

`_start_connectors` of `novena_gateway.py`. What importing, constructing and opening a connector
comes to is an argument, and so is what the connector writes into its own configuration, which is
not a copy; everything else, with the name that is filled in there and the exceptions no handler
catches, is the source's.
-/

namespace Novena

/-- The keys of `DEFAULT_CONNECTORS`. -/
def defaultConnectors : List String :=
  ["mqtt", "modbus", "opcua", "ble", "request", "can", "bacnet", "odbc", "rest", "snmp", "ftp",
   "socket", "xmpp", "ocpp", "knx"]

/-- What the `try` block around one connector comes to: the text that is reported, if one is, and
    what the constructor and the threads of the connector leave of the dictionary they are given. -/
structure StartOutcome where
  error : Option String
  config : Dict String Json → Dict String Json

/-- The connector is open, and its configuration is as it was. -/
def StartOutcome.opened : StartOutcome := ⟨none, id⟩

/-- The text is reported, and the configuration is as it was. -/
def StartOutcome.failed (error : String) : StartOutcome := ⟨some error, id⟩

/-- An entry of `_connector_start_results`; its `status` is `success` when there is no error. -/
structure StartResult where
  name : Json
  type : Json
  error : Option String

/-- `result["status"] == "success"`. -/
def StartResult.success (r : StartResult) : Bool := r.error.isNone

/-- `config.get("mqtt", {}).get("mode") == "release_pending"`. -/
def releasePending (config : Json) : Py Bool := do
  return (← (← config.getD "mqtt" (.obj [])).get "mode").eq (.str "release_pending")

namespace NovenaGateway

/-- The result of a connector of this type. A type that cannot be a dictionary key raises. -/
def startResult (outcome : StartOutcome) (name type : Json) : Py StartResult :=
  match type.hashKey with
  | .error e => .error e
  | .ok key =>
    if key ∈ defaultConnectors.map Json.Key.str then .ok ⟨name, type, outcome.error⟩
    else .ok ⟨name, type, some ("Unknown connector type: " ++ type.toStr)⟩

/-- `connector_config` after the round: with its name, and then, if the type is a known one, as the
    connector leaves it. -/
def startedConfig (outcome : StartOutcome) (name type : Json) (config : Dict String Json) :
    Dict String Json :=
  match type.hashKey with
  | .error _ => Dict.set config "name" name
  | .ok key =>
    if key ∈ defaultConnectors.map Json.Key.str then outcome.config (Dict.set config "name" name)
    else Dict.set config "name" name

/-- One round of the loop: the entry with what is written into its `config`, and the result. -/
def startConnector (outcome : StartOutcome) (connector : Json) : Json × Py StartResult :=
  match connector with
  | .obj fields =>
    match Dict.get? fields "type" with
    | none => (connector, .error .keyError)
    | some type =>
      let name := (Dict.get? fields "name").getD type
      match Dict.get? fields "config" with
      | none => (connector, startResult outcome name type)
      | some (.obj config) =>
        (.obj (Dict.set fields "config" (.obj (startedConfig outcome name type config))),
          startResult outcome name type)
      | some _ => (connector, .error .typeError)
  | _ => (connector, .error .typeError)

/-- The loop over the entries, whose `i`-th one has the outcome `outcomes i`: the entries as it
    leaves them, the results so far, and the exception that ended it, if one did. -/
def startEach (outcomes : Nat → StartOutcome) :
    List Json → List Json × List StartResult × Option Exn
  | [] => ([], [], none)
  | connector :: connectors =>
    match startConnector (outcomes 0) connector with
    | (connector, .error e) => (connector :: connectors, [], some e)
    | (connector, .ok result) =>
      let (connectors, results, error) := startEach (fun i => outcomes (i + 1)) connectors
      (connector :: connectors, result :: results, error)

/-- The entries a `for` loop over `config.get("connectors", [])` visits. -/
def connectorEntries (config : Json) : Py (List Json) := do
  match ← config.getD "connectors" (.arr []) with
  | .arr connectors => return connectors
  | .obj fields => return fields.map fun p => .str p.1
  | .str s => return s.toList.map fun c => .str (String.singleton c)
  | _ => throw .typeError

/-- What `_start_connectors` leaves: the configuration with what was written into the entries, the
    names of the connectors it opened, and its result. -/
structure Started where
  config : Json
  opened : List Json
  results : Py (List StartResult)

/-- `_start_connectors`. -/
def startConnectors (outcomes : Nat → StartOutcome) (config : Json) : Started :=
  match releasePending config, connectorEntries config with
  | .error e, _ => ⟨config, [], .error e⟩
  | .ok true, _ => ⟨config, [], .ok []⟩
  | .ok false, .error e => ⟨config, [], .error e⟩
  | .ok false, .ok entries =>
    let (entries, results, error) := startEach outcomes entries
    { config := match config with
        | .obj fields => match Dict.get? fields "connectors" with
          | some (.arr _) => .obj (Dict.set fields "connectors" (.arr entries))
          | _ => config
        | _ => config
      opened := (results.filter StartResult.success).map StartResult.name
      results := match error with
        | some e => .error e
        | none => .ok results }

end NovenaGateway

end Novena
