import Mathlib.Data.List.ReduceOption
import NovenaGateway.ForStd.Except
import NovenaGateway.Native.Config

/-!
# Discovery scans

`DiscoveryService.scan` of `discovery_service.py`: which serial ports and TCP endpoints one scan
goes through, which of them it leaves out, and what it connects to. The gateway's configuration,
the discovery options of the configuration and the options of the request are JSON values as they
arrive. What the machine is (its serial ports, its network links, the `ipaddress` module) and what
happens while the scan runs (cancellation, time, answers on the wire) are arguments.

The other side is the Modbus connector, which reads the same configuration to find out what it
polls: `BackwardCompatibilityAdapter.convert` and the constructor of `Slave`.
-/

namespace Novena

/-! ## Python helpers -/

/-- What a `for` loop over `v` visits. -/
def Json.elements : Json → Py (List Json)
  | .arr xs => .ok xs
  | .obj fields => .ok (fields.map fun p => .str p.1)
  | .str s => .ok (s.toList.map fun c => .str (String.singleton c))
  | _ => .error .typeError

/-- The text before and after the last `c`, as `rpartition` and `rsplit(c, 1)` cut it; `none`
    when there is none. -/
def rpartition (c : Char) (s : String) : Option (String × String) :=
  match s.toList.reverse.span (· ≠ c) with
  | (_, []) => none
  | (after, _ :: before) => some (String.ofList before.reverse, String.ofList after.reverse)

/-- The code points that are digits without being decimal digits: superscripts, circled digits
    and the like, as first and last of each run. -/
def otherDigits : List (Nat × Nat) :=
  [(0xb2, 0xb3), (0xb9, 0xb9), (0x1369, 0x1371), (0x19da, 0x19da), (0x2070, 0x2070),
   (0x2074, 0x2079), (0x2080, 0x2089), (0x2460, 0x2468), (0x2474, 0x247c), (0x2488, 0x2490),
   (0x24ea, 0x24ea), (0x24f5, 0x24fd), (0x24ff, 0x24ff), (0x2776, 0x277e), (0x2780, 0x2788),
   (0x278a, 0x2792), (0x10a40, 0x10a43), (0x10e60, 0x10e68), (0x11052, 0x1105a),
   (0x1f100, 0x1f10a)]

/-- `s.isdigit()`. -/
def isDigits (s : String) : Bool :=
  s ≠ "" && s.toList.all fun c =>
    (digitValue? c).isSome || otherDigits.any fun r => r.1 ≤ c.toNat ∧ c.toNat ≤ r.2

/-! ## The machine -/

/-- What `ipaddress.ip_address` says of an address. -/
structure IpAddress where
  /-- The address as a number. -/
  number : Nat
  /-- `str(ip)`. -/
  text : String
  isUnspecified : Bool
  isLoopback : Bool
  isMulticast : Bool
  isReserved : Bool
  isPrivate : Bool
  isLinkLocal : Bool

/-- An entry of `addr_info` in the output of `ip -j -4 addr show up`. -/
structure AddrInfo where
  family : String
  localAddress : Option String
  prefixlen : Option Nat

/-- A row of the output of `ip -j -4 addr show up`. -/
structure Link where
  ifname : String
  /-- `/sys/class/net/{name}/device` exists. -/
  hasDevice : Bool
  addrInfo : List AddrInfo

/-- What a scan finds on the machine. -/
structure Surroundings where
  /-- `ipaddress.ip_address`; `none` is a `ValueError`. -/
  ipAddress : String → Option IpAddress
  /-- The paths the four `glob` patterns for serial ports match. -/
  globbed : List String
  /-- The rows `ip` prints; none when the command fails. -/
  links : List Link

/-- What a scan opens: a serial port, or a connection to a TCP endpoint. -/
inductive Connection where
  | serial (port : String)
  | tcp (host : String) (port : Int)
  deriving DecidableEq, Repr

/-- The attributes of `DiscoveryService` that decide what is scanned. -/
structure DiscoveryService where
  rtuSlaveRange : Json
  rtuBaudRates : Json
  tcpSubnetScan : Json
  tcpScanTimeoutMs : Json
  tcpHosts : Json
  tcpPorts : Json

/-- An entry of the report's `skipped_configured`. -/
structure Skipped where
  interface : String
  reason : String
  deriving DecidableEq, Repr

/-- What becomes of one scan, beyond the machine: everything that depends on when things happen
    and on what answers. -/
structure Chances where
  /-- `pymodbus` can be imported. -/
  pymodbus : Bool
  /-- `_cancelled` before the `i`-th serial port. -/
  cancelledBefore : Nat → Bool
  /-- `_cancelled` before the `i`-th baud rate of a serial port. -/
  cancelledRate : String → Nat → Bool
  /-- The devices that answer on a serial port at its `i`-th baud rate. -/
  rtuDevices : String → Nat → List Json
  /-- A worker of the pool took the target up before the pool was shut down. -/
  taken : String → Int → Bool
  /-- The endpoint accepted the connection before the scan stopped waiting. -/
  reachable : String → Int → Bool
  /-- How many targets were done when the scan stopped waiting for them. -/
  checked : Nat
  /-- `deadline` passed while targets were pending. -/
  timedOut : Bool
  /-- `_cancelled` before the `i`-th open target is probed. -/
  cancelledProbe : Nat → Bool
  /-- What `_probe_tcp_target` returns; `none` is an exception. -/
  probe : String → Int → Option Json
  /-- `_cancelled` when the scan is over. -/
  cancelledAtEnd : Bool

/-- The report of a scan, less its texts and times. -/
structure ScanReport where
  scanType : String
  status : String
  phase : String
  devices : List Json
  skipped : List Skipped
  /-- The `interface` and the `code`, if any, of every entry of `errors`. -/
  errors : List (String × Option String)
  completed : Nat
  total : Nat

/-- One call of `scan`: everything it connected to, and what it returned. -/
structure ScanRun where
  touched : List Connection
  result : Py ScanReport

namespace DiscoveryService

/-- The part of `__init__` that reads these attributes out of the `discovery` section. -/
def init (config : Json) : Py DiscoveryService := do
  let config := config.orElse (.obj [])
  return {
    rtuSlaveRange := ← config.getD "rtu_slave_range" (.arr [.int 1, .int 32])
    rtuBaudRates := ← config.getD "rtu_baud_rates" (.arr [.int 9600, .int 19200])
    tcpSubnetScan := ← config.getD "tcp_subnet_scan" (.bool false)
    tcpScanTimeoutMs := ← config.getD "tcp_scan_timeout_ms" (.int 1500)
    tcpHosts := ← config.getD "tcp_hosts" (.arr [])
    tcpPorts := ← config.getD "tcp_ports" (.arr [.int 502]) }

/-! ## What is configured already -/

/-- One round of the inner loop of `_configured_connections`. -/
def slaveConnection (slave : Json) : Py (Option Connection) := do
  let type := lower ((← slave.get "type").orElse (.str "")).toStr
  let host ← slave.get "host"
  if type = "tcp" ∧ host.truthy then
    return some (.tcp host.toStr (← (← slave.getD "port" (.int 502)).toInt))
  else
    let port ← slave.get "port"
    return if port.truthy then some (.serial port.toStr) else none

/-- `((connector.get("config") or {}).get("master") or {}).get("slaves") or []`. -/
def connectorSlaves (connector : Json) : Py (List Json) := do
  let master ← ((← connector.get "config").orElse (.obj [])).get "master"
  ((← (master.orElse (.obj [])).get "slaves").orElse (.arr [])).elements

/-- `_configured_connections`, both of its sets in one list. -/
def configuredConnections (config : Json) : Py (List Connection) := do
  let connectors ← ((← (config.orElse (.obj [])).get "connectors").orElse (.arr [])).elements
  let found ← connectors.mapM fun connector => do
    (← connectorSlaves connector).mapM slaveConnection
  return found.flatten.reduceOption

/-! ## The targets of a scan -/

/-- `_enumerate_serial_ports`. -/
def enumerateSerialPorts (site : Surroundings) : List String :=
  (site.globbed.filter fun p => !decide ("ttyS0".toList <:+: p.toList)).mergeSort

/-- `_approved_serial_ports`. -/
def approvedSerialPorts (site : Surroundings) (requested : Json) : Py (List String) :=
  let available := enumerateSerialPorts site
  match requested with
  | .null => .ok available
  | .arr ports => (ports.take 8).mapM fun port =>
      if port.toStr ∈ available then .ok port.toStr
      else .error (.valueError ("Serial interface is not available: " ++ port.toStr))
  | _ => .error (.valueError "serial_ports must be a list")

/-- The host and the port an item of `tcp_hosts` in a request stands for. -/
def targetFields (item : Json) : Py (Json × Json) :=
  match item with
  | .obj _ => do
    return ((← item.get "host").orElse (← item.get "ip"), ← item.getD "port" (.int 502))
  | _ => match rpartition ':' item.toStr with
    | none => .ok (.str item.toStr, .int 502)
    | some (host, port) => .ok (.str host, .str port)

/-- One round of the loop of `_approved_tcp_targets`. -/
def approvedTarget (site : Surroundings) (item : Json) : Py (String × Int) := do
  let (host, rawPort) ← targetFields item
  let invalid : Exn := .valueError ("Invalid approved Modbus TCP target: " ++ item.toStr)
  -- `ipaddress.ip_address` of the text
  match site.ipAddress host.toStr with
  | none => throw invalid
  | some parsed =>
    -- `int(port)`
    match ← rawPort.toInt? with
    | none => throw invalid
    | some port =>
      if parsed.isUnspecified || parsed.isLoopback || parsed.isMulticast || parsed.isReserved then
        throw (.valueError ("Unsafe Modbus TCP target: " ++ host.toStr))
      else if 1 ≤ port ∧ port ≤ 65535 then return (parsed.text, port)
      else throw (.valueError ("Invalid Modbus TCP port: " ++ toString port))

/-- `_approved_tcp_targets`. -/
def approvedTcpTargets (site : Surroundings) (requested : Json) : Py (List (String × Int)) :=
  match requested with
  | .null => .ok []
  | .arr items =>
    if 64 < items.length then
      .error (.valueError "A guided scan is limited to 64 approved targets")
    else items.mapM (approvedTarget site)
  | _ => .error (.valueError "tcp_hosts must be a list")

/-- `excluded_prefixes`. -/
def excludedPrefixes : List String :=
  ["lo", "docker", "veth", "br-", "virbr", "tun", "tap", "wlan", "wl", "wwan"]

/-- A link that `_enumerate_private_network_interfaces` looks at. -/
def isFieldLink (link : Link) : Bool :=
  link.ifname ≠ "" && !excludedPrefixes.any (startsWith link.ifname) &&
    (startsWith link.ifname "eth" || startsWith link.ifname "en" || link.hasDevice)

/-- `_enumerate_private_network_interfaces`: the address and the prefix length of each. -/
def privateNetworkInterfaces (site : Surroundings) : List (IpAddress × Nat) :=
  (site.links.filter isFieldLink).flatMap fun link => link.addrInfo.filterMap fun info =>
    if info.family = "inet" then
      match info.localAddress.bind site.ipAddress with
      | some ip =>
        if ip.isPrivate && !ip.isLoopback && !ip.isLinkLocal
        then some (ip, info.prefixlen.getD 24) else none
      | none => none
    else none

/-- `str` of an IPv4 address. -/
def ipv4Text (n : Nat) : String :=
  String.intercalate "." ([n / 2 ^ 24, n / 2 ^ 16 % 256, n / 2 ^ 8 % 256, n % 256].map toString)

/-- `ip_network(f"{ip}/{prefixlen}", strict=False).hosts()`, on numbers. -/
def networkHosts (n prefixlen : Nat) : List Nat :=
  let size := 2 ^ (32 - prefixlen)
  let base := n / size * size
  if prefixlen = 32 then [base]
  else if prefixlen = 31 then [base, base + 1]
  else (List.range (size - 2)).map (base + 1 + ·)

/-- `host` with every port of `_tcp_ports`. -/
def withPorts (service : DiscoveryService) (host : String) : Py (List (String × Int)) := do
  (← service.tcpPorts.elements).mapM fun port => do return (host, ← port.toInt)

/-- One round of the loop of `_targets_for_network_interfaces`. -/
def interfaceTargets (service : DiscoveryService) (interface : IpAddress × Nat) :
    Py (List (String × Int)) := do
  let prefixlen := max 24 interface.2
  if 32 < prefixlen then
    throw (.valueError "does not appear to be an IPv4 or IPv6 network")
  else
    let hosts := (networkHosts interface.1.number prefixlen).filter (· ≠ interface.1.number)
    return (← hosts.mapM fun host => withPorts service (ipv4Text host)).flatten

/-- `_targets_for_network_interfaces`. -/
def targetsForNetworkInterfaces (service : DiscoveryService)
    (interfaces : List (IpAddress × Nat)) : Py (List (String × Int)) := do
  return (← interfaces.mapM (interfaceTargets service)).flatten

/-- One round of the loop of `_configured_tcp_targets`. -/
def tcpHostTargets (service : DiscoveryService) (host : Json) : Py (List (Json × Int)) := do
  if !host.truthy then return [] else
  match host with
  | .obj _ =>
    let ip := (← host.get "host").orElse (← host.get "ip")
    let port ← (← host.getD "port" (.int 502)).toInt
    return if ip.truthy then [(ip, port)] else []
  | _ => match rpartition ':' host.toStr with
    | some (ip, port) =>
      return [(.str ip, ← if isDigits port then (Json.str port).toInt else .ok 502)]
    | none => return (← withPorts service host.toStr).map fun t => (.str t.1, t.2)

/-- `_configured_tcp_targets`. -/
def configuredTcpTargets (service : DiscoveryService) : Py (List (Json × Int)) := do
  return (← (← service.tcpHosts.elements).mapM (tcpHostTargets service)).flatten

/-! ## The scan -/

/-- `slave_min, slave_max = self._rtu_slave_range`. -/
def unpackRange (range : Json) : Py (Json × Json) := do
  match ← range.elements with
  | [low, high] => return (low, high)
  | _ => throw (.valueError "not enough or too many values to unpack")

/-- The loop over the baud rates: each one that is reached opens the port. -/
def scanRates (chances : Chances) (port : String) : Nat → List Json → List Connection × List Json
  | _, [] => ([], [])
  | i, _ :: rates =>
    if chances.cancelledRate port i then ([], []) else
    let (touched, devices) := scanRates chances port (i + 1) rates
    (.serial port :: touched, chances.rtuDevices port i ++ devices)

/-- `_scan_rtu_interface`: what it opened, and its result. -/
def scanRtuInterface (service : DiscoveryService) (chances : Chances) (port : String) :
    List Connection × Py (List Json) :=
  if !chances.pymodbus then ([], .ok []) else
  match unpackRange service.rtuSlaveRange, service.rtuBaudRates.elements with
  | .error e, _ => ([], .error e)
  | .ok _, .error e => ([], .error e)
  | .ok _, .ok rates =>
    let (touched, devices) := scanRates chances port 0 rates
    (touched, .ok devices)

/-- What a scan has accumulated. -/
structure Sweep where
  touched : List Connection
  devices : List Json
  skipped : List Skipped
  errors : List (String × Option String)
  completed : Nat

/-- One round of the loop over the serial ports. -/
def scanPort (service : DiscoveryService) (chances : Chances) (configured : List Connection)
    (port : String) (s : Sweep) : Sweep :=
  -- a port that a connector uses is not opened
  if .serial port ∈ configured then
    { s with skipped := s.skipped ++ [⟨port, "configured_or_busy"⟩]
             completed := s.completed + 1 }
  else
    match scanRtuInterface service chances port with
    -- what was opened is known either way
    | (touched, .ok devices) =>
      { s with touched := s.touched ++ touched
               devices := s.devices ++ devices
               completed := s.completed + 1 }
    -- an exception is one error, and the scan goes on
    | (touched, .error _) =>
      { s with touched := s.touched ++ touched
               errors := s.errors ++ [(port, none)]
               completed := s.completed + 1 }

/-- The loop over the serial ports. -/
def scanSerial (service : DiscoveryService) (chances : Chances) (configured : List Connection) :
    Nat → List String → Sweep → Sweep
  | _, [], s => s
  | i, port :: ports, s =>
    if chances.cancelledBefore i then s
    else scanSerial service chances configured (i + 1) ports
      (scanPort service chances configured port s)

/-- `self._tcp_scan_timeout_ms / 1000.0`, of which only the exception matters here. -/
def timeoutSeconds (service : DiscoveryService) : Py Unit :=
  match service.tcpScanTimeoutMs with
  | .bool _ => .ok ()
  | .int n => (Json.int n).toFloat.map fun _ => ()
  | .float _ => .ok ()
  | _ => .error .typeError

/-- The targets of `_scan_tcp_network`, each once. A host that is no text stays as the dictionary
    key it is: no connection can be made to it. -/
def networkTargets (service : DiscoveryService) (approved : List (String × Int)) :
    Py (List (Json.Key × Int)) := do
  timeoutSeconds service
  let targets ← if approved ≠ [] then .ok (approved.map fun t => (.str t.1, t.2))
    else configuredTcpTargets service
  let keys ← targets.mapM fun t => do return (← t.1.hashKey, t.2)
  return keys.eraseDups

/-- `_tcp_endpoint_reachable`: the connection it makes, if the worker gets to it. -/
def endpoint (chances : Chances) : Json.Key × Int → Option (String × Int)
  | (.str host, port) => if chances.taken host port then some (host, port) else none
  | _ => none

/-- The loop over the open targets: what it probed and what it found. -/
def probeTargets (chances : Chances) : Nat → List (String × Int) → List Connection × List Json
  | _, [] => ([], [])
  | i, (host, port) :: targets =>
    if chances.cancelledProbe i then ([], []) else
    let (touched, devices) := probeTargets chances (i + 1) targets
    (.tcp host port :: touched, (chances.probe host port).toList ++ devices)

/-- `_scan_tcp_network`: what it connected to, its result, and how many targets it checked. -/
def scanTcpNetwork (service : DiscoveryService) (chances : Chances)
    (approved : List (String × Int)) : List Connection × Py (List Json) × Nat :=
  if !chances.pymodbus then ([], .ok [], 0) else
  match networkTargets service approved with
  | .error e => ([], .error e, 0)
  | .ok targets =>
    let taken := targets.filterMap (endpoint chances)
    let (probed, devices) := probeTargets chances 0
      (taken.filter fun t => chances.reachable t.1 t.2)
    (taken.map (fun t => .tcp t.1 t.2) ++ probed, .ok devices, chances.checked)

/-- What `scan` works out before it opens anything. -/
structure Plan where
  /-- `configured_tcp` and `configured_serial`. -/
  configured : List Connection
  serialPorts : List String
  /-- `approved_targets`, with those of the attached interfaces. -/
  targets : List (String × Int)

/-- `approved_targets` before the filter: what the request names and, when it asks for them, the
    networks the machine is attached to. -/
def requestedTargets (service : DiscoveryService) (site : Surroundings)
    (options : Dict String Json) : Py (List (String × Int)) := do
  let approved ← approvedTcpTargets site ((Dict.get? options "tcp_hosts").getD .null)
  let attached ←
    if ((Dict.get? options "scope").getD .null).eq (.str "attached_interfaces") then
      targetsForNetworkInterfaces service (privateNetworkInterfaces site)
    else .ok []
  return (approved ++ attached).eraseDups

/-- The first part of `scan`. -/
def plan (service : DiscoveryService) (site : Surroundings) (config : Json)
    (options : Dict String Json) : Py Plan := do
  let configured ← configuredConnections config
  let serialPorts ← approvedSerialPorts site ((Dict.get? options "serial_ports").getD .null)
  let targets ← requestedTargets service site options
  return ⟨configured, serialPorts, targets⟩

/-- The targets that are configured already: `skipped_targets`. -/
def Plan.skippedTargets (p : Plan) : List (String × Int) :=
  p.targets.filter fun t => .tcp t.1 t.2 ∈ p.configured

/-- What is left of `approved_targets`. -/
def Plan.openTargets (p : Plan) : List (String × Int) :=
  p.targets.filter fun t => .tcp t.1 t.2 ∉ p.configured

/-- `approved_targets or (scan_type != "guided" and self._tcp_subnet_scan)`. -/
def scansNetwork (service : DiscoveryService) (scanType : String) (p : Plan) : Bool :=
  p.openTargets ≠ [] || (scanType ≠ "guided" && service.tcpSubnetScan.truthy)

/-- The entry a configured target gets in `skipped`. -/
def skippedTarget (t : String × Int) : Skipped :=
  ⟨t.1 ++ ":" ++ toString t.2, "already_configured"⟩

/-- The TCP part of `scan`, after the serial ports. -/
def scanNetwork (service : DiscoveryService) (chances : Chances) (scanType : String) (p : Plan)
    (s : Sweep) : Sweep :=
  -- what a connector uses is skipped and counts as done
  let s := { s with skipped := s.skipped ++ p.skippedTargets.map skippedTarget
                    completed := s.completed + p.skippedTargets.length }
  -- this kind of scan leaves the network out
  if !scansNetwork service scanType p then s else
  match scanTcpNetwork service chances p.openTargets with
  -- an exception gives up the whole network scan
  | (touched, .error _, _) =>
    { s with touched := s.touched ++ touched, errors := s.errors ++ [("tcp", none)] }
  | (touched, .ok devices, checked) =>
    { s with touched := s.touched ++ touched
             devices := s.devices ++ devices
             completed := s.completed + checked
             errors := s.errors ++
               -- the time ran out, so that not every host was asked
               if chances.pymodbus && chances.timedOut
               then [("tcp", some "tcp_scan_timed_out")] else [] }

/-- `terminal_status` and `terminal_phase`. -/
def terminal (chances : Chances) (s : Sweep) : String × String :=
  if chances.cancelledAtEnd then ("cancelled", "cancelled")
  else if s.errors.any (fun e => e.2 = some "tcp_scan_timed_out") && s.devices.isEmpty then
    ("error", "timed_out")
  else ("complete", "complete")

/-- Both loops of `scan`. -/
def sweep (service : DiscoveryService) (chances : Chances) (scanType : String) (p : Plan) :
    Sweep :=
  scanNetwork service chances scanType p
    (scanSerial service chances p.configured 0 p.serialPorts ⟨[], [], [], [], 0⟩)

/-- `scan`, once it holds the lock. -/
def scan (service : DiscoveryService) (site : Surroundings) (chances : Chances) (config : Json)
    (scanType : String) (options : Dict String Json) : ScanRun :=
  -- nothing is touched before the targets have been checked
  match plan service site config options with
  | .error e => ⟨[], .error e⟩
  | .ok p =>
    let s := sweep service chances scanType p
    let total := p.serialPorts.length + p.targets.length
    ⟨s.touched, .ok {
      scanType
      status := (terminal chances s).1
      phase := (terminal chances s).2
      devices := s.devices
      skipped := s.skipped
      errors := s.errors
      -- progress never passes its total
      completed := min s.completed total
      total }⟩

end DiscoveryService

/-! ## What the Modbus connector polls -/

namespace BackwardCompatibilityAdapter

/-- The keys a device of the older form takes over from its `server`. -/
def keys : List String :=
  ["host", "port", "type", "method", "timeout", "byteOrder", "wordOrder", "retries", "baudrate"]

/-- A device of the older form as a slave. -/
def deviceSlave (server device : Json) : Py Json := do
  let slave ← keys.foldlM (fun slave key => do
    if (← device.get key).truthy then return slave
    else slave.setItem key (← server.get key)) device
  slave.setItem "pollPeriod" (← slave.item "timeseriesPollPeriod")

/-- The slaves of a connector's configuration, as `convert` hands them on. A configuration with
    a `server` has the older form. -/
def slaves (config : Json) : Py (List Json) := do
  let server ← config.get "server"
  if !server.truthy then (← (← config.item "master").item "slaves").elements
  else (← (← server.getD "devices" (.arr [])).elements).mapM (deviceSlave server)

end BackwardCompatibilityAdapter

/-- What the connector opens for a slave. `Slave` would take a slave without a `type` as TCP, but
    `__check_slaves_type_connection` reads `slave["type"]` first, so that such a slave keeps its
    connector from starting. -/
def Slave.connection (slave : Json) : Option Connection :=
  match slave.field "type", slave.field "host", slave.field "port" with
  | .str type, host, port =>
    if lower type = "tcp" ∧ host.truthy then port.toInt.toOption.map (.tcp host.toStr)
    else if lower type = "serial" ∧ port.truthy then some (.serial port.toStr)
    else none
  | _, _, _ => none

/-- The Modbus connectors of a configuration. -/
def modbusConnectors (config : Json) : List Json :=
  match config.field "connectors" with
  | .arr connectors => connectors.filter fun c => (c.field "type").eq (.str "modbus")
  | _ => []

/-- What the Modbus slaves of one connector are configured to use. -/
def connectorConnections (connector : Json) : List Connection :=
  match BackwardCompatibilityAdapter.slaves (connector.field "config") with
  | .ok slaves => slaves.filterMap Slave.connection
  | .error _ => []

/-- Every connection a Modbus slave of the gateway is configured to use. -/
def polled (config : Json) : List Connection :=
  (modbusConnectors config).flatMap connectorConnections

end Novena
