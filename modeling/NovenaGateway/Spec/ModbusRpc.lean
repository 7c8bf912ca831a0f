import NovenaGateway.Native.ModbusRpc
import NovenaGateway.Spec.CommandResults
import NovenaGateway.Spec.DeviceReads

/-!
# When a read is reported as accepted

`device_accepted` of the result of a read is read off the answer of the connector. A device that
cannot be reached leaves an empty answer and an exception without a text an empty error. Neither is
an error for the gateway, so that the field is also `True` for reads that no device has answered.

Key results:
- `Modbus.read_accepted_iff`
-/

namespace Novena.Modbus

open RpcHandler

variable {R : Type}

/-! ## Answers without an error -/

/-- The gateway finds no error in the answer. -/
def Silent (response : Json) : Prop := findResponseError response = none

/-- Null is not silent. -/
theorem not_silent_null : ¬ Silent .null := by
  intro h
  cases h

/-- But an empty object is. -/
theorem silent_empty : Silent (.obj []) := rfl

/-- A dictionary is silent when it reports nothing itself and neither does a value of it. -/
theorem silent_obj (fields : List (String × Json)) :
    Silent (.obj fields) ↔ ¬ Reports fields ∧ findFieldError fields = none := by
  unfold Silent
  rw [← Option.not_isSome_iff_eq_none, findResponseError_obj, not_or,
    Option.not_isSome_iff_eq_none]

/-- Of one member the value decides. -/
theorem findFieldError_single (key : String) (v : Json) :
    findFieldError [(key, v)] = none ↔ Silent v := by
  rw [findFieldError_cons, findFieldError, Option.or_none]
  exact Iff.rfl

/-- An error without a text is passed over. -/
theorem silent_errorResponse (text : String) : Silent (errorResponse text) ↔ text = "" := by
  have hsuccess : Dict.get? [("error", Json.str text)] "success" = none := by
    rw [Dict.get?_cons, if_neg (by decide), Dict.get?_nil]
  have hreports : Reports [("error", Json.str text)] ↔ text ≠ "" := by
    simp [Reports, CarriesError, hsuccess, Dict.get?_cons, Json.truthy]
  have htext : Silent (.str text) := rfl
  rw [errorResponse, silent_obj, findFieldError_single, hreports]
  constructor
  · intro h
    exact not_not.mp h.1
  · intro h
    exact ⟨not_not.mpr h, htext⟩

/-- So it is with a value in an answer. -/
theorem silent_value (v : Json) : Silent (.obj [("value", v)]) ↔ Silent v := by
  have hreports : ¬ Reports [("value", v)] := by
    simp [Reports, CarriesError, Dict.get?_cons, Json.truthy]
  rw [silent_obj, findFieldError_single]
  exact and_iff_right hreports

/-- An exception counts by its text. -/
def Quiet : Except String Json → Prop
  | .ok response => Silent response
  | .error text => text = ""

/-- An answer is silent when the response is quiet. -/
theorem silent_valueResponse (response : Except String Json) :
    Silent (valueResponse response) ↔ Quiet response := by
  cases response with
  | ok response => exact silent_value response
  | error text => exact silent_errorResponse text

/-! ## Reads -/

/-- What leaves a read that was made without an error. -/
def RpcWorld.ReadQuiet (world : RpcWorld R) (fields : Dict String Json) : ReadAnswer R → Prop
  | .nothing => False
  | .raised text | .invalid text => text = ""
  | .pdu registers => Quiet (world.decode fields registers)

/-- What leaves the read of this function code, address and count without an error: the device is
    not connected, or its answer is without one. -/
def RpcWorld.Quiet (world : RpcWorld R) (fields : Dict String Json)
    (functionCode address objectsCount : Int) : Prop :=
  match world.connect with
  | .error text => text = ""
  | .ok false => True
  | .ok true => world.ReadQuiet fields (world.read functionCode (.int address) (.int objectsCount))

/-- A read that succeeds is quiet. -/
theorem quiet_readRpcData {world : RpcWorld R} {fields : Dict String Json}
    {functionCode address objectsCount : Int}
    (haddress : Dict.get? fields "address" = some (.int address))
    (hcount : Dict.get? fields "objectsCount" = some (.int objectsCount)) :
    Modbus.Quiet (readRpcData world functionCode fields) ↔
      world.Quiet fields functionCode address objectsCount := by
  have hread : readDevice world functionCode fields =
      world.read functionCode (.int address) (.int objectsCount) := by
    simp only [readDevice, configItem, haddress, hcount]
  unfold readRpcData RpcWorld.Quiet
  cases world.connect with
  | error text => exact silent_errorResponse text
  | ok connected =>
    cases connected with
    | false => exact iff_of_true silent_empty trivial
    | true =>
      simp only [hread]
      cases world.read functionCode (.int address) (.int objectsCount) with
      | nothing => exact iff_of_false not_silent_null not_false
      | pdu registers => exact Iff.rfl
      | invalid text => exact silent_errorResponse text
      | raised text => exact silent_errorResponse text

/-- And so is the answer to its request. -/
theorem silent_processRpcRequest {world : RpcWorld R} {fields : Dict String Json}
    {functionCode address objectsCount : Int} (hmem : functionCode ∈ [1, 2, 3, 4])
    (hcode : Dict.get? fields "functionCode" = some (.int functionCode))
    (haddress : Dict.get? fields "address" = some (.int address))
    (hcount : Dict.get? fields "objectsCount" = some (.int objectsCount)) :
    Silent (processRpcRequest world fields) ↔
      world.Quiet fields functionCode address objectsCount := by
  have hwrite : functionCode ∉ [5, 6, 15, 16] := by
    simp only [List.mem_cons, List.not_mem_nil, or_false] at hmem ⊢
    omega
  have hitem : configItem fields "functionCode" = .ok (.int functionCode) := by
    simp only [configItem, hcode]
  simp only [processRpcRequest, hitem, if_neg hwrite, if_pos hmem, silent_valueResponse,
    quiet_readRpcData haddress hcount]

/-- The texts of a timeout are not empty. -/
theorem not_silent_timeout (deviceName : String) :
    ¬ Silent (errorResponse ("Timeout rpc has been reached for " ++ deviceName)) := by
  intro h
  have hlength := congrArg String.length ((silent_errorResponse _).mp h)
  rw [String.length_append] at hlength
  have hfirst : "Timeout rpc has been reached for ".length = 33 := by decide
  rw [hfirst, String.length_empty] at hlength
  omega

/-- No error is found when the device is known, the task ends in time and leaves none. -/
theorem silent_processReservedRpcRequest {world : RpcWorld R} {fields : Dict String Json}
    {functionCode address objectsCount : Int} (hmem : functionCode ∈ [1, 2, 3, 4])
    (hcode : Dict.get? fields "functionCode" = some (.int functionCode))
    (haddress : Dict.get? fields "address" = some (.int address))
    (hcount : Dict.get? fields "objectsCount" = some (.int objectsCount)) (found : Bool)
    (wait : TaskWait) (deviceName : String) :
    Silent (processReservedRpcRequest world found wait deviceName fields) ↔
      found = true ∧ wait = .completed ∧ world.Quiet fields functionCode address objectsCount := by
  cases found with
  | false => simp [processReservedRpcRequest, not_silent_null]
  | true =>
    cases wait with
    | completed =>
      simp only [processReservedRpcRequest, if_true, true_and]
      exact silent_processRpcRequest hmem hcode haddress hcount
    | timedOut => simp [processReservedRpcRequest, not_silent_timeout]
    | stopped => simp [processReservedRpcRequest, not_silent_null]

/-- What the connector's parser makes of a read the gateway has checked. -/
theorem parsed_read {devices : Devices} {params : Dict String Json} {r : ReadRequest}
    {content : Json} {request : RpcRequest} (hread : readRead devices params = .ok r)
    (hcontent : r.modbusContent = .ok content) (hparsed : RpcRequest.init content = .ok request) :
    r.functionCode ∈ [1, 2, 3, 4] ∧ ∃ fields, request.params = .obj fields ∧
      Dict.get? fields "functionCode" = some (.int r.functionCode) ∧
      Dict.get? fields "objectsCount" = some (.int r.objectsCount) ∧
      Dict.get? fields "address" = some (.int r.address) := by
  obtain ⟨hcode, haddress, hcount, _⟩ := readRead_ok hread
  have hmem := (readFunctionCode_ok hcode).2
  -- the numbers are written without a sign
  have hcodePos : 0 ≤ r.functionCode := by
    simp only [List.mem_cons, List.not_mem_nil, or_false] at hmem
    omega
  have hcountPos := readObjectsCount_ok hcount
  obtain ⟨_, _, _, haddressPos⟩ := validateIntParam_ok haddress
  obtain ⟨code, hcode⟩ := Int.eq_ofNat_of_zero_le hcodePos
  obtain ⟨count, hcount⟩ := Int.eq_ofNat_of_zero_le (show 0 ≤ r.objectsCount by omega)
  obtain ⟨address, haddress⟩ := Int.eq_ofNat_of_zero_le haddressPos
  rw [modbusContent_eq] at hcontent
  obtain rfl := Except.ok.inj hcontent
  obtain ⟨_, _, _, fields, hfields, hform⟩ := RpcRequest.init_get hparsed
  rw [modbusParams_toList hcode hcount haddress] at hform
  have hlast := RpcRequest.formReservedRpcParams_last hform
  rw [hcode, hcount, haddress]
  exact ⟨hcode ▸ hmem, fields, hfields, hlast⟩

/-- A read the gateway has checked and the connector has parsed is reported as accepted exactly when
    the connector knows the device, the task has ended in time, and the device was not connected or
    its answer was without an error. -/
theorem read_accepted_iff {devices : Devices} {params : Dict String Json} {r : ReadRequest}
    {content : Json} {request : RpcRequest} (hread : readRead devices params = .ok r)
    (hcontent : r.modbusContent = .ok content) (hparsed : RpcRequest.init content = .ok request) :
    ∃ fields, request.params = .obj fields ∧
      ∀ (world : RpcWorld R) (found : Bool) (wait : TaskWait),
        (r.result (processReservedRpcRequest world found wait r.deviceName fields)).get
            "device_accepted" = .ok (.bool true) ↔
          found = true ∧ wait = .completed ∧
            world.Quiet fields r.functionCode r.address r.objectsCount := by
  obtain ⟨hmem, fields, hfields, hcode, hcount, haddress⟩ := parsed_read hread hcontent hparsed
  refine ⟨fields, hfields, fun world found wait => ?_⟩
  rw [ReadRequest.result, buildCommandResult_accepted,
    ← silent_processReservedRpcRequest hmem hcode haddress hcount found wait r.deviceName]
  simp [Silent]

/-- A read of two registers of the meter. -/
def energyParams : Dict String Json :=
  [("device_name", .str "Meter 1"), ("functionCode", .int 3), ("address", .int 3060),
   ("objectsCount", .int 2), ("type", .str "float32")]

/-- The connector parses it, whatever the device then answers. -/
theorem read_accepted_iff_energy : ∃ r content request,
    readRead meterDevices energyParams = .ok r ∧ r.modbusContent = .ok content ∧
      RpcRequest.init content = .ok request ∧ ∃ fields, request.params = .obj fields ∧
        ∀ (world : RpcWorld UInt16) (found : Bool) (wait : TaskWait),
          (r.result (processReservedRpcRequest world found wait r.deviceName fields)).get
              "device_accepted" = .ok (.bool true) ↔
            found = true ∧ wait = .completed ∧
              world.Quiet fields r.functionCode r.address r.objectsCount := by
  have hparses : (do
      let r ← readRead meterDevices energyParams
      let content ← r.modbusContent
      RpcRequest.init content : Py RpcRequest).toOption.isSome = true := by decide +kernel
  cases hrequest : (do
      let r ← readRead meterDevices energyParams
      let content ← r.modbusContent
      RpcRequest.init content : Py RpcRequest) with
  | error e =>
    rw [hrequest] at hparses
    cases hparses
  | ok request =>
    simp only [Except.bind_eq_ok] at hrequest
    obtain ⟨r, hread, content, hcontent, hinit⟩ := hrequest
    exact ⟨r, content, request, hread, hcontent, hinit, read_accepted_iff hread hcontent hinit⟩

end Novena.Modbus
