import NovenaGateway.Native.Connectors
import NovenaGateway.Native.Discovery

/-!
# What the Modbus connector writes into its configuration

`BackwardCompatibilityAdapter.convert`, which the constructor of the Modbus connector runs on the
dictionary it is given: it rebuilds the section `slave` in place. Every exception it ends with is
reported by `_start_connectors` in the same way, so that what raises is told from what returns and
not from something else that raises.
-/

namespace Novena

namespace BackwardCompatibilityAdapter

/-- The sections under one key of `values`, where a list stands for its first element. Anything
    else has no `items`. -/
def sections : Json → Option (Dict String Json)
  | .obj fields => some fields
  | .arr (.obj fields :: _) => some fields
  | _ => none

/-- One section of a key in the new `values`, which has the key from its first section on. -/
def addSection (key : String) (values : Dict String Json) (entry : String × Json) :
    Dict String Json :=
  match Dict.get? values key with
  | some (.obj fields) => Dict.set values key (.obj (Dict.set fields entry.1 entry.2))
  | _ => Dict.set values key (.obj [entry])

/-- The loop over the entries of the old `values`: the new ones, and whether it came to its end. -/
def convertValues (values : Dict String Json) : Dict String Json → Dict String Json × Bool
  | [] => (values, true)
  | (key, value) :: rest =>
    match sections value with
    | none => (values, false)
    | some fields => convertValues (fields.foldl (addSection key) values) rest

/-- `_convert_slave_configuration`: the section it leaves, and whether it returned. -/
def convertSlaveConfiguration (slave : Json) : Json × Bool :=
  if !slave.truthy then (.obj [], true) else
  match slave with
  | .obj fields =>
    let converted (values : Dict String Json × Bool) : Json × Bool :=
      (.obj (Dict.set (Dict.erase fields "values") "values" (.obj values.1)), values.2)
    match (Dict.get? fields "values").getD (.obj []) with
    | .obj values => converted (convertValues [] values)
    | .arr [] => converted ([], true)
    | .str s => converted ([], s = "")
    | _ => converted ([], false)
  -- a list and a text have no `pop` with two arguments
  | _ => (slave, false)

/-- `slave[TYPE_PARAMETER]` of `__check_slaves_type_connection` returns. -/
def hasType (slave : Json) : Bool := (slave.item "type").toOption.isSome

/-- `convert`: the configuration as it is left, and whether it returned. With a `server` the section
    stays, and a file has to be written, which succeeds if `saved` says so: its name begins with the
    `repr` of the configuration's directory, so with a quote, and for an absolute directory there is
    no such place. -/
def convert (saved : Bool) (config : Dict String Json) : Dict String Json × Bool :=
  match slaves (.obj config) with
  | .error _ => (config, false)
  | .ok slaves =>
    if slaves.all hasType then
      if ((Dict.get? config "server").getD .null).truthy then (config, saved) else
        let (slave, returned) :=
          convertSlaveConfiguration ((Dict.get? config "slave").getD .null)
        (Dict.set config "slave" slave, returned)
    else (config, false)

end BackwardCompatibilityAdapter

/-- Constructing and opening an `AsyncModbusConnector` with this configuration, where `text` is the
    text of the exception of `convert`, and `error` what the rest comes to. -/
def modbusOutcome (saved : Bool) (text : String) (error : Option String)
    (config : Dict String Json) : StartOutcome where
  error := if (BackwardCompatibilityAdapter.convert saved config).2 then error else some text
  config := fun config => (BackwardCompatibilityAdapter.convert saved config).1

end Novena
