import NovenaGateway.Native.DeviceReads

/-!
# Results of device commands

What the gateway makes of the answer of a connector: the result a read or a write returns. Whether
the device took the command is read off the answer alone.
-/

namespace Novena

namespace RpcHandler

/-- `_extract_response_value`. -/
def extractResponseValue (response : Json) : Json :=
  match response with
  | .obj fields =>
    match Dict.get? fields "value", Dict.get? fields "result" with
    | some value, _ => value
    | none, some value => value
    | none, none => response
  | _ => response

/-- `if value is not None: result[name] = value`. -/
def given (name : String) : Json → Dict String Json
  | .null => []
  | value => [(name, value)]

/-- `raw_response is not None`. -/
def connectorExecuted : Json → Bool
  | .null => false
  | _ => true

/-- `_build_command_result`; an argument that is left out is `null`. -/
def buildCommandResult (operation deviceName : String) (functionCode address : Int)
    (rawResponse value readValue objectsCount : Json) : Json :=
  let error := findResponseError rawResponse
  .obj ([("operation", .str operation), ("device_name", .str deviceName),
    ("functionCode", .int functionCode), ("address", .int address),
    ("gateway_received", .bool true), ("connector_executed", .bool (connectorExecuted rawResponse)),
    ("device_accepted", .bool error.isNone), ("raw_response", rawResponse),
    ("error", error.getD .null)] ++
    given "value" value ++ given "read_value" readValue ++ given "objectsCount" objectsCount)

/-- What `_cmd_read_device` returns for the answer of the connector. -/
def ReadRequest.result (r : ReadRequest) (response : Json) : Json :=
  buildCommandResult "read" r.deviceName r.functionCode r.address response .null
    (extractResponseValue response) (.int r.objectsCount)

end RpcHandler

end Novena
