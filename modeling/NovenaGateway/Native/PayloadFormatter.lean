import NovenaGateway.ForStd.UniqueDict
import NovenaGateway.Native.Json

/-!
# Converted data and its payloads

`ConvertedData` collects what a converter made of the readings of one device; `PayloadFormatter`
turns it into the payloads that are published. `ρ` is the type of `ReportStrategyConfig`, which is
only compared here, and `dumps` is the serializer that measures a new entry: all that counts is
whether it raises. Each entry has a dictionary of its own, as the converters make them.
-/

namespace Novena.Payload

/-- A key of a dictionary of datapoints: a string or a `DatapointKey`. -/
inductive Key (ρ : Type) where
  | text (s : String)
  | datapoint (key : String) (reportStrategy : Option ρ)
  deriving DecidableEq

/-- `key.key if isinstance(key, DatapointKey) else str(key)`. -/
def Key.str {ρ : Type} : Key ρ → String
  | .text s => s
  | .datapoint key _ => key

/-- A dictionary of datapoints. -/
abbrev Values (ρ : Type) := UniqueDict (Key ρ) Json

structure TelemetryEntry (ρ : Type) where
  ts : Json
  values : Values ρ

/-- What a `ConvertedData` collects, and the device it is for. -/
structure ConvertedData (ρ : Type) where
  deviceName : Json
  deviceId : Json
  telemetry : List (TelemetryEntry ρ)
  /-- `attributes.values`. -/
  attributes : Values ρ
  /-- `_telemetry_datapoints_count`. -/
  datapointsCount : Int
  tsIndex : Dict Json.Key Nat

/-- A telemetry entry as `add_to_telemetry` takes it. -/
inductive EntryArg (ρ : Type) where
  /-- A dictionary, from which an entry is made at the time `now`, in milliseconds. -/
  | dict (values : Values ρ) (now : Int)
  | entry (entry : TelemetryEntry ρ)

/-- A call on a `ConvertedData`. -/
inductive Call (ρ : Type) where
  | addToTelemetry (entry : EntryArg ρ)
  | addListToTelemetry (entries : List (EntryArg ρ))
  /-- With a dictionary, or with an `Attributes` object. -/
  | addToAttributes (values : Values ρ)
  | addKeyToAttributes (key : Key ρ) (value : Json)
  /-- With a list; `none` is an item that is no dictionary. -/
  | addListToAttributes (items : List (Option (Values ρ)))

/-- Call `f` for one item after the other, until it raises. -/
def untilRaised {σ α : Type} (f : σ → α → Py σ) : σ → List α → σ × Option Exn
  | s, [] => (s, none)
  | s, a :: as =>
    match f s a with
    | .error e => (s, some e)
    | .ok s' => untilRaised f s' as

/-- `value is None`. -/
def isNone : Json → Bool
  | .null => true
  | _ => false

variable {ρ : Type} [DecidableEq ρ]

namespace TelemetryEntry

/-- `to_dict` of an entry without metadata. -/
def toDict (entry : TelemetryEntry ρ) : Json :=
  .obj [("ts", entry.ts), ("values", .obj (entry.values.rename Key.str).entries)]

/-- `TelemetryEntry(values, ts)`. -/
def new (dumps : Json → Py Unit) (values : Values ρ) (ts : Json) (now : Int) :
    Py (TelemetryEntry ρ) := do
  let wrappedTs := (values.get? (.text "ts")).getD .null
  let wrapped := (values.get? (.text "values")).getD .null
  let entry ←
    if wrappedTs.truthy && wrapped.truthy then
      match wrapped with
      | .obj fields =>
        pure { ts := wrappedTs
               values := UniqueDict.empty.setAll (fields.map fun p => (.text p.1, p.2)) }
      -- `to_dict` asks for its items
      | _ => throw .attributeError
    else pure { ts := if isNone ts then .int now else ts, values }
  dumps entry.toDict
  return entry

end TelemetryEntry

/-- The entry that is added. The time of a dictionary is taken out of it first. -/
def EntryArg.toEntry (dumps : Json → Py Unit) : EntryArg ρ → Py (TelemetryEntry ρ)
  | .dict values now =>
    TelemetryEntry.new dumps (values.erase (.text "ts")) ((values.get? (.text "ts")).getD .null) now
  | .entry made => .ok made

namespace ConvertedData

/-- `ConvertedData(device_name, device_id=device_id)`. -/
def init (deviceName deviceId : Json) : ConvertedData ρ :=
  { deviceName, deviceId, telemetry := [], attributes := .empty, datapointsCount := 0
    tsIndex := [] }

/-- `_add_single_telemetry_entry`, once the entry is made. -/
def addEntry (d : ConvertedData ρ) (entry : TelemetryEntry ρ) : Py (ConvertedData ρ) := do
  let key ← entry.ts.hashKey
  match d.tsIndex.get? key with
  | some index =>
    match d.telemetry[index]? with
    | some existing =>
      let values := existing.values.update entry.values
      return { d with
        telemetry := d.telemetry.set index { existing with values }
        datapointsCount := d.datapointsCount - existing.values.size + values.size }
    -- `IndexError`: the index only holds positions of `telemetry`
    | none => throw .keyError
  | none =>
    return { d with
      telemetry := d.telemetry ++ [entry]
      datapointsCount := d.datapointsCount + entry.values.size
      tsIndex := d.tsIndex.set key d.telemetry.length }

/-- `_add_single_telemetry_entry`. -/
def addSingleTelemetryEntry (dumps : Json → Py Unit) (d : ConvertedData ρ) (arg : EntryArg ρ) :
    Py (ConvertedData ρ) := do
  d.addEntry (← arg.toEntry dumps)

/-- `attributes.update(values)`. -/
def updateAttributes (d : ConvertedData ρ) (values : Values ρ) : ConvertedData ρ :=
  { d with attributes := d.attributes.update values }

/-- One turn of the loop of `add_to_attributes` over a list. -/
def addAttributesItem (d : ConvertedData ρ) : Option (Values ρ) → Py (ConvertedData ρ)
  | some values => .ok (d.updateAttributes values)
  | none => .error (.valueError "Batch attribute processing requires a list of dictionaries.")

/-- What a call leaves, and the exception it ends with. -/
def call (dumps : Json → Py Unit) (d : ConvertedData ρ) : Call ρ → ConvertedData ρ × Option Exn
  | .addToTelemetry entry => untilRaised (addSingleTelemetryEntry dumps) d [entry]
  | .addListToTelemetry entries => untilRaised (addSingleTelemetryEntry dumps) d entries
  | .addToAttributes values => (d.updateAttributes values, none)
  | .addKeyToAttributes key value =>
    if isNone value then (d, some (.valueError "Invalid arguments for add_attribute"))
    else (d.updateAttributes (UniqueDict.empty.set key value), none)
  | .addListToAttributes items => untilRaised addAttributesItem d items

/-- What a sequence of calls leaves; the caller goes on after an exception. -/
def run (dumps : Json → Py Unit) (d : ConvertedData ρ) (calls : List (Call ρ)) : ConvertedData ρ :=
  calls.foldl (fun d c => (d.call dumps c).1) d

end ConvertedData

namespace PayloadFormatter

/-- `values` of a payload: the datapoints under the texts of their keys, then the device's name. -/
def payloadValues (d : ConvertedData ρ) (values : Values ρ) : Json :=
  .obj ((values.rename Key.str).set "device_name" d.deviceName).entries

/-- `if device_id: payload["device_id"] = device_id`. -/
def withDeviceId (d : ConvertedData ρ) (payload : Dict String Json) : Dict String Json :=
  if d.deviceId.truthy then payload.set "device_id" d.deviceId else payload

def telemetryPayload (serialNumber : Json) (d : ConvertedData ρ) (entry : TelemetryEntry ρ) :
    Dict String Json :=
  withDeviceId d
    [("serial_number", serialNumber), ("ts", entry.ts), ("device_name", d.deviceName),
     ("values", payloadValues d entry.values)]

def attributesPayload (serialNumber : Json) (d : ConvertedData ρ) : Dict String Json :=
  withDeviceId d
    [("serial_number", serialNumber), ("device_name", d.deviceName),
     ("values", payloadValues d d.attributes)]

/-- `format`. -/
def format (serialNumber : Json) (d : ConvertedData ρ) : List (Dict String Json) :=
  d.telemetry.map (telemetryPayload serialNumber d) ++
    if (d.attributes.rename Key.str).isEmpty then [] else [attributesPayload serialNumber d]

end PayloadFormatter

end Novena.Payload
