import NovenaGateway.ForStd.Run
import NovenaGateway.Native.CommandResults
import NovenaGateway.Native.Redaction
import NovenaGateway.Native.UplinkReads

/-!
# Health of the field devices

The health records of `novena_gateway.py`, and who writes them: `__poll_device` and
`__read_slave_data` of `modbus_connector.py` for every poll, `_record_command_health` of
`rpc_handler.py` for every command. A call that records something is one step.

An exception comes with its text. What is recorded about a device is also kept as history.
-/

namespace Novena

/-- `poll_status`. -/
inductive PollStatus where
  | unknown
  | healthy
  | degraded
  | offline
  | misconfigured
  deriving DecidableEq, Repr

/-- What `classify_device_error` returns. -/
inductive DeviceErrorType where
  | timeout
  | connectionRefused
  | invalidFunctionCode
  | illegalAddress
  | decodeTypeMismatch
  | emptyResponse
  | deviceError
  deriving DecidableEq, Repr

namespace DeviceErrorType

/-- `part in text`. -/
def occurs (part : String) (text : List Char) : Bool := decide (part.toList <:+: text)

/-- `classify_device_error` of an error with this text. -/
def classifyDeviceError (error : String) : DeviceErrorType :=
  let text := Redaction.lower error.toList
  if occurs "timeout" text then .timeout
  else if occurs "connection refused" text || occurs "connect" text && occurs "failed" text then
    .connectionRefused
  else if occurs "function" text && (occurs "invalid" text || occurs "unknown" text) then
    .invalidFunctionCode
  else if occurs "illegal address" text || occurs "address" text && occurs "illegal" text then
    .illegalAddress
  else if occurs "decode" text || occurs "type" text && occurs "mismatch" text then
    .decodeTypeMismatch
  else if occurs "empty" text || text = "none".toList || text = "\x7b\x7d".toList then
    .emptyResponse
  else .deviceError

/-- The types that make a device misconfigured. -/
def misconfigures (errorType : DeviceErrorType) : Bool :=
  errorType ∈ [.invalidFunctionCode, .illegalAddress, .decodeTypeMismatch]

end DeviceErrorType

/-- An entry of `_device_health`. -/
structure DeviceHealth where
  pollStatus : PollStatus
  lastSuccessfulPollTs : Option Int
  lastFailedPollTs : Option Int
  consecutiveFailures : Nat
  lastError : Option String
  lastErrorType : Option DeviceErrorType
  lastResponseMs : Option Int
  deriving DecidableEq

/-- What is recorded about a device. -/
inductive HealthRecord where
  | success (ts : Int) (responseMs : Option Int)
  | failure (ts : Int) (error : String) (errorType : DeviceErrorType) (responseMs : Option Int)
  deriving DecidableEq

/-- `record_device_failure`, where the error type may be left out. -/
def HealthRecord.ofFailure (ts : Int) (error : String) (errorType : Option DeviceErrorType)
    (responseMs : Option Int) : HealthRecord :=
  .failure ts error (errorType.getD (.classifyDeviceError error)) responseMs

namespace DeviceHealth

/-- A new entry of `_ensure_device_health`. -/
def unknown : DeviceHealth where
  pollStatus := .unknown
  lastSuccessfulPollTs := none
  lastFailedPollTs := none
  consecutiveFailures := 0
  lastError := none
  lastErrorType := none
  lastResponseMs := none

/-- What `record_device_success` and `record_device_failure` make of an entry. -/
def record (h : DeviceHealth) : HealthRecord → DeviceHealth
  | .success ts responseMs =>
    { h with
      pollStatus := .healthy
      lastSuccessfulPollTs := some ts
      consecutiveFailures := 0
      lastError := none
      lastErrorType := none
      lastResponseMs := responseMs }
  | .failure ts error errorType responseMs =>
    let consecutiveFailures := h.consecutiveFailures + 1
    { h with
      lastFailedPollTs := some ts
      consecutiveFailures
      lastError := some error
      lastErrorType := some errorType
      lastResponseMs := responseMs
      pollStatus :=
        if errorType.misconfigures then .misconfigured
        else if consecutiveFailures ≥ 3 then .offline
        else .degraded }

end DeviceHealth

/-! ## Polls -/

namespace Modbus

variable {R V : Type}

/-- An exception that ends a poll. -/
inductive PollError where
  | connectionException
  | timeout
  /-- `ModbusIOException` or any other, with its text. -/
  | other (text : String)

/-- What `record_device_failure` is given for it. -/
def PollError.text : PollError → String
  | .connectionException => "connection exception"
  | .timeout => "timeout"
  | .other text => text

/-- What a poll meets: the connection, the answers, the texts of the `ValueError`s of the datapoints
    and the exception that leaves the readings if one does; the clock at its records and the time it
    takes. -/
structure PollWorld (R : Type) where
  connect : Except PollError Bool
  read : ConfigSection → Nat → Int → Address → Int → Answer R
  valueError : ConfigSection → Nat → String
  raised : PollError
  clock : Nat → Int
  responseMs : Int

/-- The first answer to the requests of a datapoint that is no response. -/
def firstFailure (read : Address → Int → Answer R) : List (Address × Int) → Option (Answer R)
  | [] => none
  | (startAddress, objectsCount) :: ranges =>
    match read startAddress objectsCount with
    | .response _ => firstFailure read ranges
    | .timeout => some .timeout
    | .valueError => some .valueError
    | .raised => some .raised

/-- `str(address)`. -/
def Address.toStr : Address → String
  | .number n => toString n
  | .text s => s

/-- The error of a datapoint that times out. -/
def timeoutError (config : Point R V) : String :=
  "Timeout reading function code " ++ toString config.functionCode ++ " address " ++
    config.address.toStr

/-- The failures a section of `__read_slave_data` records, up to an exception that leaves it. -/
def sectionFailures (fuel : Nat) (read : Nat → Int → Address → Int → Answer R)
    (valueError : Nat → String) : Nat → List (Point R V) → List (String × DeviceErrorType)
  | _, [] => []
  | place, config :: configs =>
    let failed := (valueError place, DeviceErrorType.classifyDeviceError (valueError place))
    match getAddressRanges fuel config with
    | none => []
    | some (.error error) =>
      if error.isValueError then
        failed :: sectionFailures fuel read valueError (place + 1) configs
      else []
    | some (.ok ranges) =>
      match firstFailure (read place config.functionCode) ranges with
      | some .timeout =>
        (timeoutError config, .timeout) :: sectionFailures fuel read valueError (place + 1) configs
      | some .valueError => failed :: sectionFailures fuel read valueError (place + 1) configs
      | some .raised => []
      | some (.response _) | none => sectionFailures fuel read valueError (place + 1) configs

/-- The failures `__read_slave_data` records. The second section is read when nothing leaves the
    first. -/
def readFailures (fuel : Nat) (world : PollWorld R) (config : UplinkConfig R V) :
    List (String × DeviceErrorType) :=
  let attributes :=
    sectionFailures fuel (world.read .attributes) (world.valueError .attributes) 0 config.attributes
  match readSection fuel (world.read .attributes) 0 config.attributes [] with
  | .running | .raised => attributes
  | .returned _ =>
    attributes ++
      sectionFailures fuel (world.read .telemetry) (world.valueError .telemetry) 0 config.telemetry

/-- Records of failures of datapoints; they come without a time. -/
def PollWorld.failures (world : PollWorld R) (failures : List (String × DeviceErrorType)) :
    List HealthRecord :=
  failures.zipIdx.map fun failure =>
    .ofFailure (world.clock failure.2) failure.1.1 (some failure.1.2) none

/-- What `__poll_device` records last. -/
inductive PollVerdict where
  | success
  | failure (error : String)

def PollWorld.verdict (world : PollWorld R) (n : Nat) : PollVerdict → HealthRecord
  | .success => .success (world.clock n) (some world.responseMs)
  | .failure error => .ofFailure (world.clock n) error none (some world.responseMs)

/-- `__poll_device`: what it records about the device, in order. There is no result when the
    requests of a datapoint do not come to an end. -/
def pollDevice (fuel : Nat) (world : PollWorld R) (config : UplinkConfig R V) :
    Option (List HealthRecord) :=
  if config.attributes = [] ∧ config.telemetry = [] then some []
  else
    match world.connect with
    | .error error => some [world.verdict 0 (.failure error.text)]
    | .ok false => some [world.verdict 0 (.failure "failed to connect to device")]
    | .ok true =>
      let failures := readFailures fuel world config
      let ends := fun verdict =>
        some (world.failures failures ++ [world.verdict failures.length verdict])
      match readSlaveData fuel world.read config with
      | .running => none
      | .raised => ends (.failure world.raised.text)
      | .returned data => ends (if data.isEmpty then .failure "empty response" else .success)

end Modbus

/-! ## Commands -/

/-- `_record_command_health` of the result of a command, with `str(result["error"])`. -/
def RpcHandler.recordCommandHealth (ts : Int) (response : Json) : HealthRecord :=
  match findResponseError response with
  | none => .success ts none
  | some error => .ofFailure ts ((error.orElse (.str "command failed")).toStr) none none

/-! ## Runs -/

/-- `_device_health`, and the records since it was last cleared. -/
structure HealthTable where
  deviceHealth : Dict String DeviceHealth
  recorded : List (String × HealthRecord)
  deriving DecidableEq

namespace HealthTable

def init : HealthTable := ⟨[], []⟩

/-- `_ensure_device_health`. -/
def ensure (s : HealthTable) (deviceName : String) : HealthTable :=
  match s.deviceHealth.get? deviceName with
  | some _ => s
  | none => { s with deviceHealth := s.deviceHealth.set deviceName .unknown }

/-- The entry of a device; one that has none would get a new one. -/
def health (s : HealthTable) (deviceName : String) : DeviceHealth :=
  (s.deviceHealth.get? deviceName).getD .unknown

/-- `record_device_success` or `record_device_failure`. -/
def record (s : HealthTable) (deviceName : String) (r : HealthRecord) : HealthTable where
  deviceHealth := s.deviceHealth.set deviceName ((s.health deviceName).record r)
  recorded := s.recorded ++ [(deviceName, r)]

/-- What can happen next. -/
inductive Label (R V : Type) where
  /-- `add_device`. -/
  | addDevice (deviceName : String)
  /-- `get_device_health`; without a name it changes nothing. -/
  | getDeviceHealth (deviceName : Option String)
  /-- A poll of a slave with this configuration. -/
  | poll (deviceName : String) (fuel : Nat) (world : Modbus.PollWorld R)
      (config : Modbus.UplinkConfig R V)
  /-- A command for a device, with the answer of its connector. -/
  | command (deviceName : String) (ts : Int) (response : Json)
  /-- `_reset_field_state_for_new_claim`. -/
  | reset

variable {R V : Type}

def step (s : HealthTable) : Label R V → Option HealthTable
  | .addDevice deviceName => some (s.ensure deviceName)
  | .getDeviceHealth none => some s
  | .getDeviceHealth (some deviceName) =>
    if deviceName = "" then some s else some (s.ensure deviceName)
  | .poll deviceName fuel world config =>
    (Modbus.pollDevice fuel world config).map fun records =>
      records.foldl (fun s r => s.record deviceName r) s
  | .command deviceName ts response =>
    some (s.record deviceName (RpcHandler.recordCommandHealth ts response))
  | .reset => some init

end HealthTable

end Novena
