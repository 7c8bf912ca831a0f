import NovenaGateway.ForStd.Except
import NovenaGateway.Native.Json

/-!
# Writing to a field device

`_cmd_write_device` of `rpc_handler.py` with what it calls: the device registry, the checks on
the parameters, and the content handed to the connector's `server_side_rpc_handler`.
-/

namespace Novena

/-- An entry of the gateway's device registry. A connector is known by its number. -/
structure DeviceInfo where
  deviceId : Json
  connector : Option Nat

/-- `self._gateway.get_devices()`. -/
abbrev Devices := Dict String DeviceInfo

namespace RpcHandler

/-- `_find_connector_for_device`. -/
def findConnectorForDevice (devices : Devices) (deviceName : String) : Py (Nat × DeviceInfo) :=
  match devices.get? deviceName with
  | none => .error (.valueError ("Device '" ++ deviceName ++ "' not found in gateway registry"))
  | some info => match info.connector with
    | none => .error (.valueError ("Device '" ++ deviceName ++ "' has no connector reference"))
    | some connector => .ok (connector, info)

/-- `str(info.get("device_id") or "") == str(device_id)`. -/
def DeviceInfo.denotes (info : DeviceInfo) (deviceId : Json) : Bool :=
  (info.deviceId.orElse (.str "")).toStr = deviceId.toStr

/-- `_resolve_canonical_device`. -/
def resolveCanonicalDevice (devices : Devices) (deviceId : Json) :
    Py (String × Nat × DeviceInfo) :=
  match devices.filter fun (_, info) => DeviceInfo.denotes info deviceId with
  | [(deviceName, info)] => match info.connector with
    | none => .error (.valueError ("Device '" ++ deviceId.toStr ++ "' has no connector reference"))
    | some connector => .ok (deviceName, connector, info)
  | _ => .error (.valueError ("Canonical device_id '" ++ deviceId.toStr ++
      "' is not uniquely mapped in the gateway registry"))

/-- The default of a timeout, in seconds. -/
def defaultTimeout : Json := .float ((F64.ofRat? 5).getD .nan)

/-- `_build_connector_rpc_content`. -/
def buildConnectorRpcContent (deviceName method : String) (params : Dict String Json) : Json :=
  .obj [("device", .str deviceName),
    ("data", .obj [("id", (Dict.get? params "rpc_id").getD (.int 1)), ("method", .str method),
      ("params", .obj params)]),
    ("timeout", (Dict.get? params "timeout").getD defaultTimeout)]

/-- The errors of a coercion that are turned into a message of their own. -/
def badParameter {α : Type} (msg : String) : Py α → Py α
  | .ok value => .ok value
  | .error e => if e = .typeError ∨ e.isValueError then .error (.valueError msg) else .error e

/-- `_validate_int_param`. -/
def validateIntParam (params : Dict String Json) (name : String) (minimum : Int)
    (maximum : Option Int) : Py Int := do
  match Dict.get? params name with
  | none => throw (.valueError ("Missing '" ++ name ++ "' parameter"))
  | some raw =>
    let value ← badParameter ("Invalid '" ++ name ++ "' parameter: must be an integer") raw.toInt
    if value < minimum then
      throw (.valueError ("Invalid '" ++ name ++ "' parameter: must be >= " ++ toString minimum))
    else if maximum.any (· < value) then
      throw (.valueError ("Invalid '" ++ name ++ "' parameter: must be <= " ++
        toString (maximum.getD 0)))
    else return value

/-- `_validate_timeout`. A NaN is neither below nor above the bounds. -/
def validateTimeout (params : Dict String Json) : Py F64 := do
  let timeout ← badParameter "Invalid 'timeout' parameter: must be a number"
    ((Dict.get? params "timeout").getD defaultTimeout).toFloat
  let low := (F64.ofRat? (1 / 10)).getD .nan
  let high := (F64.ofRat? 60).getD .nan
  if timeout.lt low ∨ high.lt timeout then
    throw (.valueError "Invalid 'timeout' parameter: must be between 0.1 and 60 seconds")
  else return timeout

/-- `int(params["functionCode"])`, one of the four write codes. -/
def writeFunctionCode (params : Dict String Json) : Py Int := do
  match (Dict.get? params "functionCode").getD .null with
  | .null => throw (.valueError "Missing 'functionCode' parameter")
  | raw =>
    let functionCode ← raw.toInt
    if functionCode ∈ [5, 6, 15, 16] then return functionCode
    else throw (.valueError ("Invalid write functionCode: " ++ toString functionCode ++
      ". Must be 5, 6, 15, or 16"))

/-- `params["value"]`, which has to be there. -/
def writeValue (params : Dict String Json) : Py Json :=
  match Dict.get? params "value" with
  | none => .error (.valueError "Missing 'value' parameter")
  | some .null => .error (.valueError "Invalid 'value' parameter: value cannot be null")
  | some value => .ok value

/-- `params["objectsCount"]`, which may be left out. -/
def writeObjectsCount (params : Dict String Json) : Py (Option Int) :=
  match Dict.get? params "objectsCount" with
  | some _ => (validateIntParam params "objectsCount" 1 (some 125)).map some
  | none => .ok none

/-- What `_cmd_write_device` has read from its parameters when it builds the content. -/
structure WriteRequest where
  connector : Nat
  deviceName : String
  functionCode : Int
  address : Int
  value : Json
  timeout : F64
  type : Option Json
  objectsCount : Option Int

/-- `rpc_params`. -/
def WriteRequest.rpcParams (w : WriteRequest) : Dict String Json :=
  [("functionCode", .int w.functionCode), ("address", .int w.address), ("value", w.value),
   ("timeout", .float w.timeout)] ++
    (w.type.map fun type => ("type", type)).toList ++
    (w.objectsCount.map fun n => ("objectsCount", Json.int n)).toList

/-- The content for the connector. -/
def WriteRequest.content (w : WriteRequest) : Json :=
  buildConnectorRpcContent w.deviceName "set" w.rpcParams

/-- The checks of `_cmd_write_device`, in its order. -/
def readWrite (devices : Devices) (params : Dict String Json) : Py WriteRequest := do
  let deviceId := (Dict.get? params "device_id").getD .null
  if !deviceId.truthy then throw (.valueError "Missing 'device_id' parameter") else
  let (deviceName, connector, _) ← resolveCanonicalDevice devices deviceId
  let requestedName := (Dict.get? params "device_name").getD .null
  if requestedName.truthy ∧ !requestedName.eq (.str deviceName) then
    throw (.valueError "device_name does not match canonical device_id")
  else
  let functionCode ← writeFunctionCode params
  let address ← validateIntParam params "address" 0 none
  let timeout ← validateTimeout params
  let value ← writeValue params
  let objectsCount ← writeObjectsCount params
  return { connector, deviceName, functionCode, address, value, timeout,
           type := Dict.get? params "type", objectsCount }

/-- `_cmd_write_device` up to the call of the connector: the connector and the content. -/
def cmdWriteDevice (devices : Devices) (params : Dict String Json) : Py (Nat × Json) :=
  (readWrite devices params).map fun w => (w.connector, w.content)

/-! ## The answer of the connector -/

mutual
/-- `_find_response_error`. -/
def findResponseError : Json → Option Json
  | .null => some (.str "empty response from connector")
  | .obj fields =>
    match Dict.get? fields "success" with
    | some (.bool false) =>
      some (((Dict.get? fields "message").getD .null).orElse
        (.str "connector reported unsuccessful execution"))
    | _ =>
      let error := (Dict.get? fields "error").getD .null
      if error.truthy then some (.str error.toStr) else findFieldError fields
  | .arr items => findItemError items
  | _ => none
/-- The first error among the fields of a response. -/
def findFieldError : List (String × Json) → Option Json
  | [] => none
  | (_, v) :: fields =>
    match findResponseError v with
    | some e => some e
    | none => findFieldError fields
/-- The first error among the items of a response. -/
def findItemError : List Json → Option Json
  | [] => none
  | v :: items =>
    match findResponseError v with
    | some e => some e
    | none => findItemError items
end

/-- `_build_command_result` of a write. -/
def WriteRequest.result (w : WriteRequest) (response : Json) : Json :=
  let error := findResponseError response
  let executed := match response with
    | .null => false
    | _ => true
  .obj ([("operation", .str "write"), ("device_name", .str w.deviceName),
    ("functionCode", .int w.functionCode), ("address", .int w.address),
    ("gateway_received", .bool true), ("connector_executed", .bool executed),
    ("device_accepted", .bool error.isNone), ("raw_response", response),
    ("error", error.getD .null), ("value", w.value)] ++
    (w.objectsCount.map fun n => ("objectsCount", Json.int n)).toList)

/-! ## What an accepted write has established -/

/-- The checks of an accepted write, one fact for each of them. -/
theorem readWrite_ok {devices : Devices} {params : Dict String Json} {w : WriteRequest}
    (h : readWrite devices params = .ok w) :
    (∃ info, resolveCanonicalDevice devices ((Dict.get? params "device_id").getD .null) =
      .ok (w.deviceName, w.connector, info)) ∧
    writeFunctionCode params = .ok w.functionCode ∧
    validateIntParam params "address" 0 none = .ok w.address ∧
    writeValue params = .ok w.value ∧ w.type = Dict.get? params "type" := by
  simp only [readWrite] at h
  split at h
  · simp at h
  · simp only [Except.bind_eq_ok] at h
    obtain ⟨⟨name, connector, info⟩, hresolve, h⟩ := h
    split at h
    · simp at h
    · simp only [Except.bind_eq_ok, Except.pure_eq_ok] at h
      obtain ⟨fc, hfc, address, haddress, timeout, _, value, hvalue, count, _, rfl⟩ := h
      exact ⟨⟨info, hresolve⟩, hfc, haddress, hvalue, rfl⟩

/-- A resolved device is the only one of the registry with its id. -/
theorem resolveCanonicalDevice_ok {devices : Devices} {deviceId : Json} {name : String}
    {connector : Nat} {info : DeviceInfo}
    (h : resolveCanonicalDevice devices deviceId = .ok (name, connector, info)) :
    (devices.filter fun (_, info) => DeviceInfo.denotes info deviceId) = [(name, info)] ∧
      info.connector = some connector := by
  simp only [resolveCanonicalDevice] at h
  split at h
  · next hone =>
    split at h
    · cases h
    · next hconnector =>
      simp only [Except.ok.injEq, Prod.mk.injEq] at h
      obtain ⟨rfl, rfl, rfl⟩ := h
      exact ⟨hone, hconnector⟩
  · cases h

/-- An accepted integer parameter is what `int()` makes of it. -/
theorem validateIntParam_ok {params : Dict String Json} {name : String} {minimum : Int}
    {maximum : Option Int} {n : Int} (h : validateIntParam params name minimum maximum = .ok n) :
    ∃ raw, Dict.get? params name = some raw ∧ raw.toInt = .ok n ∧ minimum ≤ n := by
  simp only [validateIntParam] at h
  split at h
  · simp at h
  · next raw hraw =>
    simp only [Except.bind_eq_ok] at h
    obtain ⟨m, hm, h⟩ := h
    split at h
    · simp at h
    · split at h
      · simp at h
      · next hmin _ =>
        simp only [Except.pure_eq_ok] at h
        subst h
        refine ⟨raw, hraw, ?_, by omega⟩
        simp only [badParameter] at hm
        split at hm
        · next hint => rw [hint]; exact hm
        · split at hm <;> cases hm

/-- An accepted function code is what `int()` makes of it. -/
theorem writeFunctionCode_ok {params : Dict String Json} {n : Int}
    (h : writeFunctionCode params = .ok n) :
    ((Dict.get? params "functionCode").getD .null).toInt = .ok n ∧ n ∈ [5, 6, 15, 16] := by
  simp only [writeFunctionCode] at h
  split at h
  · simp at h
  · simp only [Except.bind_eq_ok] at h
    obtain ⟨m, hm, h⟩ := h
    split at h
    · next hmem =>
      simp only [Except.pure_eq_ok] at h
      subst h
      exact ⟨hm, hmem⟩
    · simp at h

end RpcHandler

end Novena
