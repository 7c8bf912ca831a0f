import NovenaGateway.ForStd.Except
import NovenaGateway.Native.Json

/-!
# The Modbus connector's request parser

`RPCRequest` of the Modbus connector. A content is for the connector itself (`modbus_…`), a
reserved `get` or `set` whose parameters are a text of `key=value;` fields, or a named method of
a device. The two regular expressions of the reserved requests are matched by a function that
reads the fields one after another; no alternative of theirs is a prefix of another one, so
the first that matches is the only one.
-/

namespace Novena

/-- `RPCType`. -/
inductive RpcType where
  | connector
  | device
  | reserved
  deriving DecidableEq, Repr

/-- `RPCRequest`. -/
structure RpcRequest where
  rpcType : RpcType
  method : Json
  params : Json
  value : Json
  timeout : Json
  id : Json
  deviceName : Json

namespace RpcRequest

/-! ## The patterns -/

/-- A fixed text at the front: what follows it. -/
def literal (text : String) (cs : List Char) : Option (List Char) :=
  if text.toList.isPrefixOf cs then some (cs.drop text.length) else none

/-- One of several fixed texts at the front. -/
def oneOf (texts : List String) (cs : List Char) : Option (List Char) :=
  texts.findSome? fun text => literal text cs

/-- `\d+` and a semicolon. -/
def number (cs : List Char) : Option (List Char) :=
  match cs.takeWhile fun c => (digitValue? c).isSome with
  | [] => none
  | ds => literal ";" (cs.drop ds.length)

/-- `AVAILABLE_DATA_TYPES_REGEX`. -/
def availableDataTypes : List String :=
  ["string", "bytes", "bits", "16int", "16uint", "16float", "32int", "32uint", "32float", "64int",
   "64uint", "64float"]

/-- `GET_RPC_EXPECTED_SCHEMA` and `SET_RPC_EXPECTED_SCHEMA`. -/
def expectedSchema (isGet : Bool) : String :=
  if isGet then
    "get type=<type>;functionCode=<functionCode>;objectsCount=<objectsCount>;address=<address>;"
  else
    "set type=<type>;functionCode=<functionCode>;objectsCount=<objectsCount>;address=<address>;value=<value>;"

/-- The fields both patterns share, with the function codes of one of them. -/
def readFields (functionCodes : List String) (cs : List Char) : Option (List Char) := do
  let cs ← literal "type=" cs
  let cs ← oneOf availableDataTypes cs
  let cs ← literal ";functionCode=" cs
  let cs ← oneOf functionCodes cs
  let cs ← literal ";objectsCount=" cs
  let cs ← number cs
  let cs ← literal "address=" cs
  number cs

/-- `GET_PATTERN_REGEX` matches at the front. -/
def matchesGet (cs : List Char) : Bool := (readFields ["1", "2", "3", "4"] cs).isSome

/-- `value=.+;$`: a line that ends in a semicolon, before at most one line feed. -/
def matchesValue (cs : List Char) : Bool :=
  match literal "value=" cs with
  | none => false
  | some cs =>
    let line := if cs.getLast? = some '\n' then cs.dropLast else cs
    1 < line.length && line.getLast? = some ';' && '\n' ∉ line

/-- `SET_PATTERN_REGEX` matches. -/
def matchesSet (cs : List Char) : Bool :=
  match readFields ["5", "6", "15", "16"] cs with
  | none => false
  | some cs => matchesValue cs

/-! ## The fields of a reserved request -/

/-- `s.split(c)` for a single character. -/
def splitChar (c : Char) : List Char → List (List Char)
  | [] => [[]]
  | d :: cs =>
    match splitChar c cs with
    | [] => [[d]]
    | part :: parts => if d = c then [] :: part :: parts else (d :: part) :: parts

/-- `s.split(sep)` for a text, `fuel` bounding the number of characters. -/
def splitText (sep : List Char) : Nat → List Char → List (List Char)
  | 0, cs => [cs]
  | _, [] => [[]]
  | fuel + 1, d :: cs =>
    if sep.isPrefixOf (d :: cs) then [] :: splitText sep fuel ((d :: cs).drop sep.length)
    else
      match splitText sep fuel cs with
      | [] => [[d]]
      | part :: parts => (d :: part) :: parts

/-- One `key=value` field of `__form_reserved_rpc_params`; a part of another shape is skipped. -/
def reservedField (params : Dict String Json) (part : List Char) : Py (Dict String Json) :=
  match splitChar '=' part with
  | [key, value] =>
    if key = [] ∨ value = [] then .ok params
    else
      let key := String.ofList key
      let value := String.ofList value
      if key ∈ ["functionCode", "objectsCount", "address"] then
        match intOfStr value with
        | some n => .ok (params.set key (.int n))
        | none => .error (.valueError "invalid literal for int()")
      else .ok (params.set key (.str value))
  | _ => .ok params

/-- `__form_reserved_rpc_params`. -/
def formReservedRpcParams (cs : List Char) : Py (Dict String Json) :=
  (splitChar ';' cs).foldlM reservedField []

/-- `_fill_reserved_rpc_request`: the parameters and the value. -/
def fillReserved (method input : Json) : Py (Json × Json) := do
  match input with
  | .str text =>
    let cs := text.toList
    let isGet := method.eq (.str "get")
    if !(if isGet then matchesGet cs else matchesSet cs) then
      throw (.valueError ("The requested RPC either does not match with the schema " ++
        expectedSchema isGet ++ " or incorrect value/values provided"))
    else if method.eq (.str "set") then
      match splitText "value=".toList cs.length cs with
      | [fields, value] =>
        return (.obj (← formReservedRpcParams fields), .str (String.ofList value.dropLast))
      | _ => throw (.valueError "wrong number of values to unpack")
    else return (.obj (← formReservedRpcParams cs), .null)
  -- `pattern.match` takes a string only
  | _ => throw .typeError

/-! ## The request -/

/-- `_convert_old_format_rpc_content` where it is needed. -/
def upgrade (content : Json) : Py Json := do
  match ← content.get "data" with
  | .null =>
    let params ← content.item "params"
    let method ← content.item "method"
    return .obj [("data", .obj [("params", params), ("method", method)])]
  | _ => return content

/-- `content["data"]["method"]` as a text; another value has neither `split` nor `lower`. -/
def methodText (content : Json) : Py String := do
  match ← (← content.item "data").item "method" with
  | .str method => return method
  | _ => throw .attributeError

/-- `_is_connector_rpc` on a method. -/
def isConnectorRpc (method : String) : Bool :=
  match splitChar '_' method.toList with
  | [kind, _] => kind = "modbus".toList
  | _ => false

/-- `_is_device_rpc`. -/
def isDeviceRpc (content : Json) : Py Bool := do
  match ← content.get "device" with
  | .null => return false
  | _ => return true

/-- `_get_rpc_type`. -/
def rpcTypeOf (content : Json) : Py RpcType := do
  let method ← methodText content
  let hasDevice ← isDeviceRpc content
  let word := method.toList.map Char.toLower
  if isConnectorRpc method then return .connector
  else if word = "get".toList ∨ word = "set".toList ∧ hasDevice = true then return .reserved
  else if hasDevice then return .device
  else throw (.valueError ("Unknown RPC type for content: " ++ content.pyRepr))

/-- `__init__`. -/
def init (content : Json) : Py RpcRequest := do
  let content ← upgrade content
  let rpcType ← rpcTypeOf content
  let timeout ← content.getD "timeout" (.float ((F64.ofRat? 5).getD .nan))
  let id ← (← content.item "data").get "id"
  let deviceName ← content.get "device"
  let method ← (← content.item "data").item "method"
  let input ← (← content.item "data").item "params"
  match rpcType with
  | .connector =>
    let name := match method with
      | .str text => String.ofList (((splitChar '_' text.toList).drop 1).headD [])
      | _ => ""
    let value ← input.get "value"
    return { rpcType, method := .str name, params := input, value, timeout, id, deviceName }
  | .device => return { rpcType, method, params := .null, value := input, timeout, id, deviceName }
  | .reserved =>
    let (params, value) ← fillReserved method input
    return { rpcType, method, params, value, timeout, id, deviceName }

end RpcRequest

end Novena
