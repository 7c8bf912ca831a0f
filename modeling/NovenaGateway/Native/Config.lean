import Mathlib.Data.List.Dedup
import NovenaGateway.ForStd.Except
import NovenaGateway.Native.Json

/-!
# The gateway's configuration

`validate_config` of `novena_gateway.py`, which decides at start-up and before every remote
update whether a configuration may be used. It returns the list of what is wrong; on a value of
an unexpected shape it can also raise. Each part of the list is a function of its own, in the
order of the source.
-/

namespace Novena

/-- What the process sees of the host it runs on. -/
structure Host where
  /-- `os.path.isfile` of a path. -/
  isFile : String → Bool
  /-- `os.path.isfile` of an open file descriptor. -/
  isFileDescriptor : Int → Bool
  /-- The environment variable `NOVENA_DEPLOYMENT_MODE`, when it is set. -/
  deploymentMode : Option String
  /-- `os.path.realpath`. -/
  realpath : String → String

namespace Json

/-- `key in v`. -/
def has (v : Json) (key : String) : Py Bool := (Json.str key).mem v

/-- `v[key] = x`. -/
def setItem (v : Json) (key : String) (x : Json) : Py Json :=
  match v with
  | obj fields => .ok (obj (Dict.set fields key x))
  | _ => .error .typeError

/-- `int(v)` where a `TypeError` or a `ValueError` is caught. -/
def toInt? (v : Json) : Py (Option Int) :=
  match v.toInt with
  | .ok n => .ok (some n)
  | .error e => if e = .typeError ∨ e.isValueError then .ok none else .error e

/-- `get_path` of `_validate_runtime_state_paths`: `None` as soon as a part is missing. -/
def path : Json → List String → Json
  | v, [] => v
  | obj fields, part :: parts => match Dict.get? fields part with
    | some v => path v parts
    | none => null
  | _, _ :: _ => null

end Json

/-! ## Text and paths -/

/-- `s.lower()`. Only its comparison with texts of ASCII letters is used, and no other character
    has one of these letters as its lower case. -/
def lower (s : String) : String := String.ofList (s.toList.map Char.toLower)

/-- `str(v).startswith("REPLACE_WITH_")`, or nothing at all. -/
def isPlaceholder (v : Json) : Bool := !v.truthy || startsWith v.toStr "REPLACE_WITH_"

/-- The components of an absolute path, the last one first: `..` takes the one before it away. -/
def normComponents : List (List Char) → List (List Char) → List (List Char)
  | [], done => done
  | comp :: comps, done =>
    if comp = [] ∨ comp = ['.'] then normComponents comps done
    else if comp = ['.', '.'] then normComponents comps done.tail
    else normComponents comps (comp :: done)

/-- `os.path.abspath` of an absolute path. Two leading slashes are kept, three are one. -/
def abspath (s : String) : String :=
  let cs := s.toList
  let slashes := if ['/', '/'].isPrefixOf cs ∧ ¬['/', '/', '/'].isPrefixOf cs
    then ['/', '/'] else ['/']
  String.ofList (slashes ++
    List.intercalate ['/'] (normComponents (cs.splitOn '/') []).reverse)

/-- `DATA_DIR`. -/
def dataDir : String := "/var/lib/novena-gateway"

/-- `os.path.isfile`, which also takes a file descriptor. -/
def Host.isfile (host : Host) : Json → Py Bool
  | .str path => .ok (host.isFile path)
  | .int fd => if -2 ^ 31 ≤ fd ∧ fd < 2 ^ 31 then .ok (host.isFileDescriptor fd)
      else .error .overflowError
  | .bool b => .ok (host.isFileDescriptor (if b then 1 else 0))
  | _ => .error .typeError

namespace NovenaGateway

/-- `deployment_mode`. -/
def deploymentMode (host : Host) (config : Json) : Py String := do
  let configured ← (← (config.orElse (.obj [])).getD "deployment" (.obj [])).get "mode"
  match configured.orElse (.str (host.deploymentMode.getD "local")) with
  | .str mode => return lower mode
  | _ => throw .attributeError

/-- `deployment_mode in ("pilot", "production")`. -/
def isRestricted (mode : String) : Bool := mode = "pilot" ∨ mode = "production"

/-! ## The parts of `validate_config` -/

def gatewayErrors (config : Json) : Py (List String) := do
  if !(← config.has "gateway") then return ["gateway.serial_number"] else
  if !(← (← config.getD "gateway" (.obj [])).has "serial_number") then
    return ["gateway.serial_number"]
  else return []

/-- `mqtt.port`: a value that is there has to be an integer. -/
def portErrors (mqtt : Json) : Py (List String) := do
  if !(← mqtt.has "port") then return ["mqtt.port"] else
  match ← (← mqtt.get "port").toInt? with
  | some _ => return []
  | none => return ["mqtt.port (must be an integer)"]

/-- The transport a restricted deployment asks for. -/
def transportErrors (mode : String) (mqtt : Json) : Py (List String) := do
  if !isRestricted mode then return [] else
  let allowInsecure := (← mqtt.get "allow_insecure_private_mqtt").truthy
  let tls := if !(← mqtt.get "tls").truthy && !allowInsecure
    then ["mqtt.tls — required in pilot/production unless mqtt.allow_insecure_private_mqtt is true"]
    else []
  match ← (← mqtt.getD "port" (.int 1883)).toInt? with
  | some port =>
    return tls ++ if allowInsecure && port ≠ 1883 then
      ["mqtt.allow_insecure_private_mqtt — only valid for plaintext/private MQTT on port 1883"]
      else []
  | none => return tls

def mqttErrors (mode : String) (config : Json) : Py (List String) := do
  if !(← config.has "mqtt") then return ["mqtt (entire section)"] else
  let mqtt ← config.item "mqtt"
  let host := if ← mqtt.has "host" then [] else ["mqtt.host"]
  let port ← portErrors mqtt
  let transport ← transportErrors mode mqtt
  return host ++ port ++ transport

/-- What is wrong with one entry of `connectors`. -/
def connectorErrors (index : Nat) (connector : Json) : List String :=
  let name := "connectors[" ++ toString index ++ "]"
  match connector with
  | .obj fields =>
    (if Dict.contains fields "type" then [] else [name ++ ".type"]) ++
      match Dict.get? fields "config" with
      | none | some (.obj _) => []
      | some _ => [name ++ ".config (must be an object)"]
  | _ => [name ++ " (must be an object)"]

def connectorsErrors (config : Json) : Py (List String) := do
  if !(← config.has "connectors") then return ["connectors (must be a list)"] else
  match ← config.get "connectors" with
  | .arr connectors =>
    return (connectors.zipIdx.map fun (connector, index) => connectorErrors index connector).flatten
  | _ => return ["connectors (must be a list)"]

/-- The values a restricted deployment needs from the factory. -/
def placeholderErrors (mode : String) (config : Json) : Py (List String) := do
  if !isRestricted mode then return [] else
  let serial ← (← config.getD "gateway" (.obj [])).getD "serial_number" (.str "")
  let mqtt ← config.getD "mqtt" (.obj [])
  let host ← mqtt.getD "host" (.str "")
  let username ← mqtt.getD "username" (.str "")
  let password ← mqtt.getD "password" (.str "")
  return ([("gateway.serial_number", serial), ("mqtt.host", host), ("mqtt.username", username),
    ("mqtt.password", password)].filter fun (_, value) => isPlaceholder value).map
      fun (field, _) => field ++ " — factory burn value required in " ++ mode ++ " mode"

/-- A file of the TLS section: it has to be named and to exist. -/
def fileErrors (host : Host) (tls : Json) (key missing : String) : Py (List String) := do
  let file ← tls.get key
  if !file.truthy then return ["mqtt.tls." ++ key ++ missing] else
  if ← host.isfile file then return []
  else return ["mqtt.tls." ++ key ++ " — file not found: " ++ file.toStr]

def tlsErrors (host : Host) (config : Json) : Py (List String) := do
  let tls ← (← config.getD "mqtt" (.obj [])).get "tls"
  if !tls.truthy then return [] else
  let mode ← tls.getD "mode" (.str "one-way")
  let ca ← fileErrors host tls "ca_certs" " (required when tls is enabled)"
  if mode.eq (.str "mutual") then
    let cert ← fileErrors host tls "certfile" " (required for mutual TLS mode)"
    let key ← fileErrors host tls "keyfile" " (required for mutual TLS mode)"
    return ca ++ cert ++ key
  else return ca

/-- The settings that name a writable path. -/
def runtimeStatePaths : List (List String) :=
  [["storage", "sqlite", "data_file_path"], ["storage", "update_path"],
   ["storage", "ota_status_path"], ["features", "remote_config", "backup_dir"],
   ["features", "remote_config", "last_known_good_path"],
   ["features", "remote_config", "config_journal_path"],
   ["features", "rpc", "command_policy_path"], ["features", "rpc", "command_journal_path"]]

/-- What is wrong with one of these settings. -/
def runtimePathErrors (parts : List String) (value : Json) : List String :=
  let dottedPath := ".".intercalate parts
  if !value.truthy then [] else
  match value with
  | .str s =>
    if !startsWith s "/" then
      [dottedPath ++ " — must be an absolute path under " ++ dataDir]
    else
      let realPath := abspath s
      if realPath = "/opt/novena-gateway" ∨ startsWith realPath "/opt/novena-gateway/" then
        [dottedPath ++ " — writable runtime state must not be under /opt/novena-gateway"]
      else if realPath ≠ dataDir ∧ !startsWith realPath (dataDir ++ "/") then
        [dottedPath ++ " — must be under " ++ dataDir]
      else []
  | _ => [dottedPath ++ " — must be a filesystem path string"]

/-- `_validate_runtime_state_paths`. -/
def runtimeStatePathErrors (config : Json) : List String :=
  (runtimeStatePaths.map fun parts => runtimePathErrors parts (config.path parts)).flatten

/-- The interfaces the watchdog is to use. -/
def watchdogInterfaces (watchdog : Dict String Json) : List Json :=
  [("eth_interface", "eth0"), ("wifi_interface", "wlan0"), ("fourg_interface", "wwan0")].filterMap
    fun (key, default) =>
      let interface := (Dict.get? watchdog key).getD (.str default)
      if interface.truthy then some interface else none

/-- A host name or an address that can be pinged. -/
def isTarget : Json → Bool
  | .str s => s ≠ "" ∧ !startsWith s "-" ∧ s.length ≤ 253
  | _ => false

/-- `features.network_watchdog.interface_roles`. -/
def rolesErrors (interfaces : List Json) (roles : Json) : List String :=
  let valid := match roles with
    | .obj fields => fields.all fun (interface, role) =>
        interfaces.any (Json.same (.str interface)) &&
          (role.eq (.str "uplink") || role.eq (.str "field"))
    | _ => false
  if valid then [] else
    ["features.network_watchdog.interface_roles — map configured interfaces to uplink or field"]

/-- `features.network_watchdog.health_targets`. -/
def targetsErrors (targets : Json) : List String :=
  let valid := match targets with
    | .arr targets => !targets.isEmpty && targets.all isTarget
    | _ => false
  if valid then [] else
    ["features.network_watchdog.health_targets — use a nonempty list of hostnames or IPs"]

/-- An interval of the watchdog in seconds. -/
def secondsErrors (key : String) (value : Json) : List String :=
  let valid := match value with
    | .int n => decide (1 ≤ n ∧ n ≤ 300)
    | _ => false
  if valid then [] else ["features.network_watchdog." ++ key ++ " — use an integer from 1 to 300"]

def watchdogErrors (config : Json) : Py (List String) := do
  match ← (← config.getD "features" (.obj [])).getD "network_watchdog" (.obj []) with
  | .obj watchdog =>
    let get (key : String) (default : Json) : Json := (Dict.get? watchdog key).getD default
    let mode := get "mode" (.str "auto")
    let interfaces := watchdogInterfaces watchdog
    -- `set(interfaces)` hashes every one of them
    let keys ← interfaces.mapM Json.hashKey
    return (if ["auto", "active", "diagnostic"].any fun m => mode.eq (.str m) then [] else
        ["features.network_watchdog.mode — use auto, active, or diagnostic"]) ++
      (if interfaces.length ≠ keys.dedup.length then
        ["features.network_watchdog interfaces — must be distinct"] else []) ++
      rolesErrors interfaces (get "interface_roles" (.obj [])) ++
      targetsErrors (get "health_targets" (.arr [get "ping_target" (.str "8.8.8.8")])) ++
      secondsErrors "ping_interval_seconds" (get "ping_interval_seconds" (.int 15)) ++
      secondsErrors "ping_timeout_seconds" (get "ping_timeout_seconds" (.int 3))
  | _ => return ["features.network_watchdog — must be an object"]

/-- `validate_config`: what is wrong with a configuration. -/
def validateConfig (host : Host) (config : Json) : Py (List String) := do
  let mode ← deploymentMode host config
  let gateway ← gatewayErrors config
  let mqtt ← mqttErrors mode config
  let connectors ← connectorsErrors config
  let placeholders ← placeholderErrors mode config
  let tls ← tlsErrors host config
  let paths := runtimeStatePathErrors config
  let watchdog ← watchdogErrors config
  return gateway ++ mqtt ++ connectors ++ placeholders ++ tls ++ paths ++ watchdog

end NovenaGateway

end Novena
