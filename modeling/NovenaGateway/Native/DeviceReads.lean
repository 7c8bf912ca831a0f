import NovenaGateway.Native.Config
import NovenaGateway.Native.DeviceCommands
import NovenaGateway.Native.Redaction

/-!
# Reading from a field device

`_cmd_read_device` of `rpc_handler.py` up to the call of the connector. It needs no signature. For
a device of the Modbus connector the parameters are written into one text of `key=value;` fields,
with the requested type first.
-/

namespace Novena

namespace RpcHandler

/-- `MODBUS_READ_TYPE_ALIASES`. -/
def modbusReadTypeAliases : Dict String String :=
  [("float32", "32float"), ("float64", "64float"), ("int16", "16int"), ("uint16", "16uint"),
   ("int32", "32int"), ("uint32", "32uint"), ("int64", "64int"), ("uint64", "64uint"),
   ("bool", "bits")]

/-- `int(params["functionCode"])`, one of the four read codes. -/
def readFunctionCode (params : Dict String Json) : Py Int := do
  match (Dict.get? params "functionCode").getD .null with
  | .null => throw (.valueError "Missing 'functionCode' parameter")
  | raw =>
    let functionCode ← raw.toInt
    if functionCode ∈ [1, 2, 3, 4] then return functionCode
    else throw (.valueError ("Invalid read functionCode: " ++ toString functionCode ++
      ". Must be 1, 2, 3, or 4"))

/-- `params["objectsCount"]`, 1 where it is left out. -/
def readObjectsCount (params : Dict String Json) : Py Int :=
  match Dict.get? params "objectsCount" with
  | some _ => validateIntParam params "objectsCount" 1 (some 125)
  | none => .ok 1

/-- `_find_connector_for_device` for a name of any kind: the names in the registry are texts. -/
def findConnectorNamed (devices : Devices) (deviceName : Json) : Py (String × Nat) :=
  match deviceName with
  | .str name => (findConnectorForDevice devices name).map fun found => (name, found.1)
  | _ => match deviceName.hashKey with
    | .error e => .error e
    | .ok _ => .error (.valueError ("Device '" ++ deviceName.toStr ++
        "' not found in gateway registry"))

/-- What `_cmd_read_device` has read from its parameters when it builds the content. -/
structure ReadRequest where
  connector : Nat
  deviceName : String
  functionCode : Int
  address : Int
  objectsCount : Int
  timeout : F64
  type : Option Json

/-- The checks of `_cmd_read_device`, in its order. -/
def readRead (devices : Devices) (params : Dict String Json) : Py ReadRequest := do
  let deviceName := (Dict.get? params "device_name").getD .null
  if !deviceName.truthy then throw (.valueError "Missing 'device_name' parameter") else
  let functionCode ← readFunctionCode params
  let address ← validateIntParam params "address" 0 none
  let objectsCount ← readObjectsCount params
  let timeout ← validateTimeout params
  let (deviceName, connector) ← findConnectorNamed devices deviceName
  return { connector, deviceName, functionCode, address, objectsCount, timeout,
           type := Dict.get? params "type" }

namespace ReadRequest

/-- `rpc_params`. -/
def rpcParams (r : ReadRequest) : Dict String Json :=
  [("functionCode", .int r.functionCode), ("address", .int r.address),
   ("objectsCount", .int r.objectsCount), ("timeout", .float r.timeout)] ++
    (r.type.map fun type => ("type", type)).toList

/-- The content for a connector that takes a dictionary of parameters. -/
def content (r : ReadRequest) : Json := buildConnectorRpcContent r.deviceName "get" r.rpcParams

/-- `requested_type`. -/
def requestedType (r : ReadRequest) : String :=
  ((r.type.getD .null).orElse
    (.str (if r.functionCode ∈ [1, 2] then "bits" else "16uint"))).toStr

/-- `data_type`. -/
def dataType (r : ReadRequest) : String :=
  (modbusReadTypeAliases.get? (String.ofList (Redaction.lower r.requestedType.toList))).getD
    r.requestedType

/-- `minimum_count`. -/
def minimumCount (r : ReadRequest) : Int :=
  if startsWith r.dataType "64" then 4 else if startsWith r.dataType "32" then 2 else 1

/-- The text the reserved `get` of the Modbus connector takes. -/
def modbusParams (r : ReadRequest) : String :=
  "type=" ++ r.dataType ++ ";functionCode=" ++ toString r.functionCode ++ ";objectsCount=" ++
    toString r.objectsCount ++ ";address=" ++ toString r.address ++ ";"

/-- The content with that text in the place of the dictionary. -/
def modbusContent (r : ReadRequest) : Py Json := do
  let data ← r.content.item "data"
  r.content.setItem "data" (← data.setItem "params" (.str r.modbusParams))

end ReadRequest

/-- `str(connector.get_type()).lower() == "modbus"`. -/
def isModbus (connectorType : Json) : Bool :=
  Redaction.lower connectorType.toStr.toList = "modbus".toList

/-- `_cmd_read_device` up to the call of the connector: the connector and the content, where
    `getType` is the connectors' `get_type()`. -/
def cmdReadDevice (devices : Devices) (getType : Nat → Json) (params : Dict String Json) :
    Py (Nat × Json) := do
  let r ← readRead devices params
  if isModbus (getType r.connector) then
    if r.objectsCount < r.minimumCount then
      throw (.valueError ("Modbus type " ++ r.requestedType ++ " requires at least " ++
        toString r.minimumCount ++ " objects"))
    else return (r.connector, ← r.modbusContent)
  else return (r.connector, r.content)

end RpcHandler

end Novena
