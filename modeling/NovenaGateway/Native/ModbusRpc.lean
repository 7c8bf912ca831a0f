import NovenaGateway.Native.CommandResults
import NovenaGateway.Native.RpcRequest

/-!
# Reserved requests of the Modbus connector

What `server_side_rpc_handler` of `modbus_connector.py` answers to a parsed reserved request: the
task it makes for the device, `__process_rpc_request` and `__read_rpc_data` in it, and the wait for
its end. What the connection, the device and the decoder do is an argument, with the texts of the
exceptions they raise; `__write_rpc_data` is one as a whole.
-/

namespace Novena.Modbus

variable {R : Type}

/-- How `await device.read(…)` ends. -/
inductive ReadAnswer (R : Type) where
  /-- `None`. -/
  | nothing
  /-- A `ModbusPDU` with its registers or bits. -/
  | pdu (registers : List R)
  /-- A `ModbusPDU` that is not valid, with its `str()`. -/
  | invalid (text : String)
  | raised (text : String)

/-- What a request meets. -/
structure RpcWorld (R : Type) where
  connect : Except String Bool
  read : Int → Json → Json → ReadAnswer R
  /-- `decode_data` with the parameters of the request. -/
  decode : Dict String Json → List R → Except String Json
  /-- `__write_rpc_data`. -/
  write : Dict String Json → Except String Json

/-- `{'error': …}`. -/
def errorResponse (text : String) : Json := .obj [("error", .str text)]

/-- `config[key]`: the text of its `KeyError` is the key in quotes. -/
def configItem (config : Dict String Json) (key : String) : Except String Json :=
  match config.get? key with
  | some v => .ok v
  | none => .error ("'" ++ key ++ "'")

/-- `device.read(config['functionCode'], config['address'], config['objectsCount'])`. -/
def readDevice (world : RpcWorld R) (functionCode : Int) (config : Dict String Json) :
    ReadAnswer R :=
  match configItem config "address", configItem config "objectsCount" with
  | .error text, _ => .raised text
  | .ok _, .error text => .raised text
  | .ok address, .ok objectsCount => world.read functionCode address objectsCount

/-- `__read_rpc_data`; an exception of the decoder leaves it. -/
def readRpcData (world : RpcWorld R) (functionCode : Int) (config : Dict String Json) :
    Except String Json :=
  match world.connect with
  | .error text => .ok (errorResponse text)
  | .ok false => .ok (.obj [])
  | .ok true =>
    match readDevice world functionCode config with
    | .raised text | .invalid text => .ok (errorResponse text)
    | .nothing => .ok .null
    | .pdu registers => world.decode config registers

/-- `result['value'] = …`, or the error of an exception. -/
def valueResponse : Except String Json → Json
  | .ok response => .obj [("value", response)]
  | .error text => errorResponse text

/-- `__process_rpc_request` without `with_response`. -/
def processRpcRequest (world : RpcWorld R) (config : Dict String Json) : Json :=
  match configItem config "functionCode" with
  | .error text => errorResponse text
  | .ok (.int functionCode) =>
    if functionCode ∈ [5, 6, 15, 16] then valueResponse (world.write config)
    else if functionCode ∈ [1, 2, 3, 4] then valueResponse (readRpcData world functionCode config)
    else errorResponse "Unsupported function code in RPC request."
  -- the parser makes integers of function codes
  | .ok _ => errorResponse "Unsupported function code in RPC request."

/-- How `__wait_task_with_timeout` ends. -/
inductive TaskWait where
  | completed
  /-- The task is cancelled. -/
  | timedOut
  /-- The connector is stopped, and the task has no result yet. -/
  | stopped

/-- `__process_reserved_rpc_request`; `found` says that the connector has a slave of the name. -/
def processReservedRpcRequest (world : RpcWorld R) (found : Bool) (wait : TaskWait)
    (deviceName : String) (config : Dict String Json) : Json :=
  if found then
    match wait with
    | .completed => processRpcRequest world config
    | .timedOut => errorResponse ("Timeout rpc has been reached for " ++ deviceName)
    | .stopped => .null
  else .null

end Novena.Modbus
