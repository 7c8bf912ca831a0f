import NovenaGateway.ForStd.Dict
import NovenaGateway.ForStd.Pieces
import NovenaGateway.Native.RpcRequest

/-!
# Polls of a Modbus slave and their conversion

From the datapoints of a slave to its values: `Utils` of `utils.py` cuts a wide range of addresses
into requests, `__read_slave_data` of `modbus_connector.py` makes them and keeps the responses under
the tags of the datapoints, and `convert` of `bytes_modbus_uplink_converter.py` looks them up there
and decodes them. The tag of a wide datapoint is changed by its first conversion, and that may come
between two requests: `Reading` is a poll that waits for a response, `readSlaveData` one that is not
disturbed.

`decode_data`, with the configuration of the datapoint and the orders of the converter, is a field
of the datapoint; `BytesModbusUplinkConverter.decodeData` is one. What `TBUtility.get_values` makes
of a tag is an argument. The report strategy is left out. The calls of `ConvertedData` are in
`PayloadFormatter` in full; here is what they leave of the payloads of one `convert`.
-/

namespace Novena.Modbus

variable {R V : Type}

/-- `address` of a datapoint. -/
inductive Address where
  | number (n : Int)
  | text (s : String)
  deriving DecidableEq

/-- The configuration of a datapoint. -/
structure Point (R V : Type) where
  tag : String
  address : Address
  functionCode : Int
  objectsCount : Option Int
  maxRegistersPerRequest : Option Int
  /-- `decode_data` with this configuration. -/
  decodeData : List R → Py (Option V)

/-! ## Requests -/

namespace Utils

/-- `is_wide_range_request`. -/
def isWideRangeRequest : Address → Bool
  | .number _ => false
  | .text s => s.toList.contains '-'

/-- `__parse_wide_range_address`. -/
def parseWideRangeAddress (address : String) : Py (Int × Int) :=
  match RpcRequest.splitChar '-' address.toList with
  | first :: second :: _ => do
    let startAddress ← (Json.str (String.ofList first)).toInt
    let endAddress ← (Json.str (String.ofList second)).toInt
    return (startAddress, endAddress)
  -- an `IndexError`; a wide range has a second part
  | _ => .error (.valueError "list index out of range")

/-- The loop of `parse_wide_range_request`; `none` is a loop that is not over after `fuel` turns. -/
def chunkLoop (maxRegistersPerRequest : Int) : Nat → Int → Int → Option (List (Int × Int))
  | 0, _, remainingRegisters => if remainingRegisters > 0 then none else some []
  | fuel + 1, currentStartAddress, remainingRegisters =>
    if remainingRegisters > 0 then
      let registersChunk := min maxRegistersPerRequest remainingRegisters
      (chunkLoop maxRegistersPerRequest fuel (currentStartAddress + registersChunk)
        (remainingRegisters - registersChunk)).map fun rest =>
          (currentStartAddress, registersChunk) :: rest
    else some []

/-- `parse_wide_range_request`. -/
def parseWideRangeRequest (fuel : Nat) (address : String)
    (objectsCount maxRegistersPerRequest : Int) : Option (Py (List (Int × Int))) :=
  match parseWideRangeAddress address with
  | .error _ => some (.error (.valueError "Invalid address range"))
  | .ok (startAddress, endAddress) =>
    let registersToRead := endAddress - startAddress + objectsCount
    if registersToRead ≤ 0 then
      some (.error (.valueError
        "Invalid address range: End address must be greater than start address"))
    else if registersToRead > maxRegistersPerRequest then
      (chunkLoop maxRegistersPerRequest fuel startAddress registersToRead).map .ok
    else some (.ok [(startAddress, registersToRead)])

/-- `get_start_address`. -/
def getStartAddress : Address → Py Int
  | .number n => .ok n
  | .text s =>
    if isWideRangeRequest (.text s) then (parseWideRangeAddress s).map Prod.fst
    else .error (.valueError "Invalid address pattern")

end Utils

/-- `__get_address_ranges`. -/
def getAddressRanges (fuel : Nat) (config : Point R V) : Option (Py (List (Address × Int))) :=
  match config.objectsCount with
  | none => some (.error .keyError)
  | some objectsCount =>
    match config.address with
    | .number n => some (.ok [(.number n, objectsCount)])
    | .text s =>
      if Utils.isWideRangeRequest (.text s) then
        (Utils.parseWideRangeRequest fuel s objectsCount
          (config.maxRegistersPerRequest.getD 16)).map fun ranges =>
            ranges.map (List.map fun range => (.number range.1, range.2))
      else some (.ok [(.text s, objectsCount)])

/-! ## Reading -/

/-- What the client gives for a request: nothing, an exception object, or a response with its
    registers or bits. -/
inductive Response (R : Type) where
  | missing
  | exception
  | registers (values : List R)

/-- `is_encoded_data_valid`. -/
def Response.valid : Response R → Bool
  | .registers _ => true
  | .missing | .exception => false

/-- How the `await` of a request ends. -/
inductive Answer (R : Type) where
  | response (response : Response R)
  | timeout
  | valueError
  /-- Any other exception. -/
  | raised

/-- The responses to the requests of a datapoint, and whether an exception leaves
    `__read_slave_data`. The responses before an exception are kept. -/
def readRanges (read : Address → Int → Answer R) : List (Address × Int) → List (Response R) × Bool
  | [] => ([], false)
  | (startAddress, objectsCount) :: ranges =>
    match read startAddress objectsCount with
    | .response response =>
      let (responses, raised) := readRanges read ranges
      (response :: responses, raised)
    | .timeout | .valueError => ([], false)
    | .raised => ([], true)

/-- How `__read_slave_data` ends. -/
inductive ReadEnd (α : Type) where
  /-- Not over after the turns it was given. -/
  | running
  | raised
  | returned (a : α)

/-- The responses of the datapoints of a section, by tag. -/
abbrev SectionData (R : Type) := Dict String (List (Response R))

/-- The responses of a datapoint are appended to those under its tag. -/
def store (data : SectionData R) (tag : String) (responses : List (Response R)) : SectionData R :=
  if responses.isEmpty then data
  else data.set tag ((data.get? tag).getD [] ++ responses)

/-- One section of `__read_slave_data`. The answers are those to the requests of the datapoint at
    this place in the section. -/
def readSection (fuel : Nat) (read : Nat → Int → Address → Int → Answer R) :
    Nat → List (Point R V) → SectionData R → ReadEnd (SectionData R)
  | _, [], data => .returned data
  | place, config :: configs, data =>
    match getAddressRanges fuel config with
    | none => .running
    | some (.error error) =>
      if error.isValueError then readSection fuel read (place + 1) configs data else .raised
    | some (.ok ranges) =>
      let (responses, raised) := readRanges (read place config.functionCode) ranges
      if raised then .raised
      else readSection fuel read (place + 1) configs (store data config.tag responses)

/-- The two sections of a slave's datapoints. -/
structure UplinkConfig (R V : Type) where
  attributes : List (Point R V)
  telemetry : List (Point R V)

/-- What a poll has read. -/
structure SlaveData (R : Type) where
  attributes : SectionData R
  telemetry : SectionData R

/-- A section of `__read_slave_data`. -/
inductive ConfigSection where
  | attributes
  | telemetry

/-- `__read_slave_data`. -/
def readSlaveData (fuel : Nat) (read : ConfigSection → Nat → Int → Address → Int → Answer R)
    (config : UplinkConfig R V) : ReadEnd (SlaveData R) :=
  match readSection fuel (read .attributes) 0 config.attributes [] with
  | .running => .running
  | .raised => .raised
  | .returned attributes =>
    match readSection fuel (read .telemetry) 0 config.telemetry [] with
    | .running => .running
    | .raised => .raised
    | .returned telemetry => .returned { attributes, telemetry }

/-- `__read_slave_data` in its loops, with what it has read so far. The answers to come are those of
    `read`. -/
structure Reading (R : Type) where
  fuel : Nat
  read : ConfigSection → Nat → Int → Address → Int → Answer R
  part : ConfigSection
  /-- The place of the datapoint in its section. -/
  place : Nat
  /-- Its requests that are still to be made, once they are known. -/
  ranges : Option (List (Address × Int))
  data : SlaveData R

def UplinkConfig.points (config : UplinkConfig R V) : ConfigSection → List (Point R V)
  | .attributes => config.attributes
  | .telemetry => config.telemetry

/-- The responses go under a tag of their section. -/
def SlaveData.store (data : SlaveData R) (part : ConfigSection) (tag : String)
    (responses : List (Response R)) : SlaveData R :=
  match part with
  | .attributes => { data with attributes := Modbus.store data.attributes tag responses }
  | .telemetry => { data with telemetry := Modbus.store data.telemetry tag responses }

namespace Reading

/-- The call. -/
def start (fuel : Nat) (read : ConfigSection → Nat → Int → Address → Int → Answer R) : Reading R :=
  { fuel, read, part := .attributes, place := 0, ranges := none,
    data := { attributes := [], telemetry := [] } }

/-- The loop goes on with the datapoint behind. -/
def skip (r : Reading R) : Reading R := { r with place := r.place + 1, ranges := none }

/-- The next thing `__read_slave_data` does: it enters a section or a datapoint, or a response
    arrives, which is stored under the tag the datapoint has by now. -/
def next (config : UplinkConfig R V) (r : Reading R) : ReadEnd (Reading R ⊕ SlaveData R) :=
  match (config.points r.part)[r.place]?, r.ranges with
  | none, _ =>
    match r.part with
    | .attributes => .returned (.inl { r with part := .telemetry, place := 0, ranges := none })
    | .telemetry => .returned (.inr r.data)
  | some point, none =>
    match getAddressRanges r.fuel point with
    | none => .running
    | some (.error error) => if error.isValueError then .returned (.inl r.skip) else .raised
    | some (.ok ranges) => .returned (.inl { r with ranges := some ranges })
  | some _, some [] => .returned (.inl r.skip)
  | some point, some ((startAddress, objectsCount) :: ranges) =>
    match r.read r.part r.place point.functionCode startAddress objectsCount with
    | .response response =>
      .returned (.inl { r with
        ranges := some ranges, data := r.data.store r.part point.tag [response] })
    | .timeout | .valueError => .returned (.inl r.skip)
    | .raised => .raised

end Reading

/-- `__is_read_data_empty`. -/
def SlaveData.isEmpty (data : SlaveData R) : Bool :=
  data.attributes.length == 0 && data.telemetry.length == 0

/-! ## Conversion -/

/-- `get_registers_from_encoded_data`. -/
def getRegistersFromEncodedData (functionCode : Int) : Response R → Py (List R)
  | .registers values =>
    if functionCode ∈ [1, 2, 3, 4] then .ok values
    else .error (.valueError ("Unsupported function code: " ++ toString functionCode))
  | .missing | .exception => .error .attributeError

/-- `__validate_key_name_expression`. -/
def validateKeyNameExpression (keyName : String) : String :=
  if "address".toList <:+: keyName.toList then keyName else keyName ++ "_$\x7baddress\x7d"

/-- The loop of `__process_wide_range_response_encoded_data`: the values with their keys, and the
    configuration with the new tag. `expand` makes the key of a tag and an address. -/
def wideRangeLoop (expand : String → Int → String) (objectsCount : Int) :
    List (List R) → Int → Point R V → Py (List (String × V)) × Point R V
  | [], _, config => (.ok [], config)
  | chunk :: chunks, currentAddress, config =>
    match config.decodeData chunk with
    | .error error => (.error error, config)
    -- the address stays
    | .ok none => wideRangeLoop expand objectsCount chunks currentAddress config
    | .ok (some decodedData) =>
      let config := { config with tag := validateKeyNameExpression config.tag }
      let (result, config') :=
        wideRangeLoop expand objectsCount chunks (currentAddress + objectsCount) config
      (result.map ((expand config.tag currentAddress, decodedData) :: ·), config')

/-- `__process_wide_range_response_encoded_data`. -/
def processWideRangeResponseEncodedData (expand : String → Int → String) (config : Point R V)
    (encodedData : List R) : Py (List (String × V)) × Point R V :=
  match Utils.getStartAddress config.address with
  | .error _ => (.ok [], config)
  | .ok startAddress =>
    let objectsCount := config.objectsCount.getD 1
    if objectsCount = 0 then (.error (.valueError "range() arg 3 must not be zero"), config)
    else wideRangeLoop expand objectsCount (Pieces.slices objectsCount.toNat encodedData)
      startAddress config

/-- `__process_wide_range_response`. -/
def processWideRangeResponse (expand : String → Int → String) (config : Point R V)
    (encodedData : Option (List (Response R))) : Py (List (String × V)) × Point R V :=
  match encodedData with
  | none => (.error .typeError, config)
  | some responses =>
    match (responses.filter Response.valid).mapM
        (getRegistersFromEncodedData config.functionCode) with
    | .error error => (.error error, config)
    | .ok registers => processWideRangeResponseEncodedData expand config registers.flatten

/-- `__process_single_address_response`. -/
def processSingleAddressResponse (config : Point R V)
    (encodedData : Option (List (Response R))) : Py (List (String × V)) :=
  match encodedData with
  | none | some [] => .error .typeError
  | some (response :: _) => do
    if response.valid then
      let registers ← getRegistersFromEncodedData config.functionCode response
      match ← config.decodeData registers with
      | none => return []
      | some decodedData => return [(config.tag, decodedData)]
    else throw (.valueError "Encoded data is invalid")

/-- What `convert` catches for a datapoint. -/
def caught (error : Exn) : Bool := error.isValueError || error = .typeError

/-- The values of a datapoint: none when an exception was caught. -/
def convertPoint (expand : String → Int → String) (config : Point R V)
    (encodedData : Option (List (Response R))) : Py (List (String × V)) × Point R V :=
  let (result, config') :=
    if Utils.isWideRangeRequest config.address then
      processWideRangeResponse expand config encodedData
    else (processSingleAddressResponse config encodedData, config)
  match result with
  | .ok values => (.ok values, config')
  | .error error => (if caught error then .ok [] else .error error, config')

/-- One section of the data of a poll in `convert`. -/
def convertSection (expand : String → Int → String) (data : SectionData R) :
    List (Point R V) → Py (List (String × V)) × List (Point R V)
  | [] => (.ok [], [])
  | config :: configs =>
    match convertPoint expand config (data.get? config.tag) with
    | (.error error, config') => (.error error, config' :: configs)
    | (.ok values, config') =>
      let (rest, configs') := convertSection expand data configs
      (rest.map (values ++ ·), config' :: configs')

/-- The payloads `convert` adds to its result, in order; each has one key. -/
structure Payloads (V : Type) where
  attributes : List (String × V)
  telemetry : List (String × V)

/-- The payloads of the data of one poll. -/
def convertPoll (expand : String → Int → String) (data : SlaveData R) (config : UplinkConfig R V) :
    Py (Payloads V) × UplinkConfig R V :=
  match convertSection expand data.attributes config.attributes with
  | (.error error, points) => (.error error, { config with attributes := points })
  | (.ok attributes, points) =>
    let (telemetry, points') := convertSection expand data.telemetry config.telemetry
    (telemetry.map fun telemetry => { attributes, telemetry },
      { attributes := points, telemetry := points' })

/-- The payloads of the data of several polls, one after the other. -/
def convertPolls (expand : String → Int → String) :
    List (SlaveData R) → UplinkConfig R V → Py (Payloads V) × UplinkConfig R V
  | [], config => (.ok { attributes := [], telemetry := [] }, config)
  | data :: polls, config =>
    match convertPoll expand data config with
    | (.error error, config') => (.error error, config')
    | (.ok first, config') =>
      let (rest, config'') := convertPolls expand polls config'
      (rest.map fun rest =>
        { attributes := first.attributes ++ rest.attributes
          telemetry := first.telemetry ++ rest.telemetry }, config'')

/-- A `ConvertedData` that `convert` returns. The telemetry is one entry, or none when it is empty:
    all payloads of a call have the same timestamp. -/
structure ConvertedData (V : Type) where
  attributes : Dict String V
  telemetry : Dict String V

/-- `add_to_attributes` or `add_to_telemetry` of one payload after the other, which update the
    values there are. -/
def collect (payloads : List (String × V)) : Dict String V :=
  payloads.foldl (fun values payload => values.set payload.1 payload.2) []

def Payloads.converted (payloads : Payloads V) : ConvertedData V where
  attributes := collect payloads.attributes
  telemetry := collect payloads.telemetry

/-- `convert`. -/
def convert (expand : String → Int → String) (polls : List (SlaveData R))
    (config : UplinkConfig R V) : Py (ConvertedData V) × UplinkConfig R V :=
  let (payloads, config') := convertPolls expand polls config
  (payloads.map Payloads.converted, config')

end Novena.Modbus
