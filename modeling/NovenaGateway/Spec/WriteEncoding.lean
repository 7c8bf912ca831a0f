import NovenaGateway.Native.DeviceCommands
import NovenaGateway.Native.RpcRequest

/-!
# The write command and the Modbus request parser

`_cmd_write_device` hands the connector a content whose parameters are a dictionary, and the
Modbus connector's parser for the reserved method `set` matches them against a regular
expression, which takes a string only. So no accepted write is ever parsed:
`RpcHandler.set_raises`.

Key results:
- `RpcHandler.write_never_recovered`
-/

namespace Novena

namespace RpcRequest

/-- The request carries exactly the function code, address, count, type and value of a write. -/
def Recovers (w : RpcHandler.WriteRequest) (request : RpcRequest) : Prop :=
  ∃ fields, request.params = .obj fields ∧
    Dict.get? fields "functionCode" = some (.int w.functionCode) ∧
    Dict.get? fields "address" = some (.int w.address) ∧
    (∀ n ∈ w.objectsCount, Dict.get? fields "objectsCount" = some (.int n)) ∧
    (∀ type ∈ w.type, Dict.get? fields "type" = some type) ∧ request.value = w.value

/-- A `set` for a device whose parameters are no text raises a `TypeError`. -/
theorem init_set_obj (device : String) (id timeout : Json) (params : Dict String Json) :
    init (.obj [("device", .str device),
      ("data", .obj [("id", id), ("method", .str "set"), ("params", .obj params)]),
      ("timeout", timeout)]) = .error .typeError := by
  rfl

end RpcRequest

namespace RpcHandler

/-- The connector's parser raises on every accepted write. -/
theorem set_raises (w : WriteRequest) : RpcRequest.init w.content = .error .typeError :=
  RpcRequest.init_set_obj w.deviceName _ _ w.rpcParams

/-- No write that the gateway accepts is recovered by the connector's parser. -/
theorem write_never_recovered {devices : Devices} {params : Dict String Json} {w : WriteRequest}
    (h : readWrite devices params = .ok w) :
    cmdWriteDevice devices params = .ok (w.connector, w.content) ∧
      ¬∃ request, RpcRequest.init w.content = .ok request ∧ request.Recovers w := by
  refine ⟨by simp only [cmdWriteDevice, h, Except.map], ?_⟩
  rintro ⟨request, hinit, _⟩
  rw [set_raises w] at hinit
  cases hinit

/-- One drive, owned by the Modbus connector. -/
def pumpDevices : Devices := [("VFD 1", { deviceId := .int 7, connector := some 0 })]

/-- A write of the drive's speed register. -/
def speedParams : Dict String Json :=
  [("device_id", .int 7), ("device_name", .str "VFD 1"), ("functionCode", .int 6),
   ("address", .int 100), ("type", .str "16uint"), ("objectsCount", .int 1), ("value", .int 1200)]

theorem write_never_recovered_speed : ∃ w, cmdWriteDevice pumpDevices speedParams =
      .ok (w.connector, w.content) ∧
    ¬∃ request, RpcRequest.init w.content = .ok request ∧ request.Recovers w := by
  have hok : (readWrite pumpDevices speedParams).toOption.isSome = true := by decide +kernel
  cases h : readWrite pumpDevices speedParams with
  | error e => simp [h, Except.toOption] at hok
  | ok w => exact ⟨w, write_never_recovered h⟩

/-- The write is accepted, and the parser raises a `TypeError` on its content. -/
theorem speed_raises :
    (readWrite pumpDevices speedParams).toOption.map (fun w =>
      match RpcRequest.init w.content with
      | .error e => some e
      | .ok _ => none) = some (some .typeError) := by
  decide +kernel

end RpcHandler

end Novena
