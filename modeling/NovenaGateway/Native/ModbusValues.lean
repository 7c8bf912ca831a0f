import NovenaGateway.ForStd.BigEndian
import NovenaGateway.Native.Config

/-!
# Values of Modbus registers

The two decoders of a register value: `_decode_validation_value` of `discovery_service.py`, which
the commissioning reads use, and `decode_data` of `bytes_modbus_uplink_converter.py`, which the
deployed connector uses, for function codes 3 and 4. All arithmetic is exact. The conversion of
`pymodbus` is an argument. Datapoints of texts, bytes and bits and the `variants` of an
enumeration are left out.
-/

namespace Novena

/-- `pymodbus.constants.Endian`. -/
inductive Endian where
  | big
  | little
  deriving DecidableEq

/-! ## Numbers -/

/-- A number without rounding, with the values of a float that are none. -/
inductive Exact where
  | rat (q : ℚ)
  | inf (neg : Bool)
  | nan
  deriving DecidableEq

namespace Exact

def mul : Exact → ℚ → Exact
  | rat x, q => rat (x * q)
  | inf neg, q => if q = 0 then nan else inf (neg ^^ decide (q < 0))
  | nan, _ => nan

def add : Exact → ℚ → Exact
  | rat x, q => rat (x + q)
  | x, _ => x

/-- `round(x, digits)`. -/
def round (digits : Nat) : Exact → Exact
  | rat q =>
    let r : ℚ := (roundHalfEven (|q| * 10 ^ digits) : ℚ) / 10 ^ digits
    rat (if q < 0 then -r else r)
  | x => x

end Exact

/-- What `struct.unpack` returns. -/
inductive Scalar where
  | int (n : Int)
  | float (x : Exact)
  deriving DecidableEq

/-- The value of a scalar. -/
def Scalar.exact : Scalar → Exact
  | .int n => .rat n
  | .float x => x

/-- The big-endian formats of `struct`; the number of bytes is that of the argument. -/
inductive Format where
  | uint
  | int
  | float (expBits fracBits : Nat)

/-- The number with this binary floating-point representation. -/
def ieee (expBits fracBits n : Nat) : Exact :=
  let neg := n / 2 ^ (expBits + fracBits) % 2 = 1
  let e := n / 2 ^ fracBits % 2 ^ expBits
  let f := n % 2 ^ fracBits
  let bias : Int := 2 ^ (expBits - 1) - 1
  if e = 2 ^ expBits - 1 then if f = 0 then .inf neg else .nan
  else
    -- without the leading bit for the smallest exponent
    let magnitude : ℚ :=
      if e = 0 then (f : ℚ) * pow2 (1 - bias - fracBits)
      else ((2 ^ fracBits + f : Nat) : ℚ) * pow2 (e - bias - fracBits)
    .rat (if neg then -magnitude else magnitude)

/-- `struct.unpack` of one value. -/
def unpack : Format → List UInt8 → Scalar
  | .uint, bytes => .int (BigEndian.toNat bytes)
  | .int, bytes => .int (BigEndian.toInt bytes)
  | .float expBits fracBits, bytes => .float (ieee expBits fracBits (BigEndian.toNat bytes))

/-! ## Validation -/

/-- The fields of a datapoint that `_decode_validation_value` reads. -/
structure Datapoint where
  dataType : Option String
  scale : Option ℚ
  offset : Option ℚ

/-- The byte and word order of a connection. -/
structure ModbusConnection where
  byteOrder : Option String
  wordOrder : Option String

/-- `s.upper()`, where it is compared with a text of the letters of `BIG` and `LITTLE`: the only
    other character with one of them as its upper case is the dotless i. -/
def upper (s : String) : String :=
  String.ofList (s.toList.map fun c => if c.toNat = 0x131 then 'I' else c.toUpper)

namespace DiscoveryService

/-- The registers and the format of a data type. -/
def formats : Dict String (Nat × Format) :=
  [("uint16", 1, .uint), ("int16", 1, .int), ("uint32", 2, .uint), ("int32", 2, .int),
   ("float32", 2, .float 8 23), ("uint64", 4, .uint), ("int64", 4, .int),
   ("float64", 4, .float 11 52)]

/-- `str(order).upper() == "LITTLE"`; a connection without one is `BIG`. -/
def isLittle (order : Option String) : Bool := upper (order.getD "BIG") = "LITTLE"

/-- A value a validation shows. -/
inductive Reading where
  | bool (b : Bool)
  | num (x : Exact)
  deriving DecidableEq

/-- The words of a value in the order in which their bytes are read. -/
def orderedWords (connection : ModbusConnection) (required : Nat) (values : List UInt16) :
    List UInt16 :=
  let words := values.take required
  if isLittle connection.wordOrder && 1 < required then words.reverse else words

/-- The bytes of one word. -/
def wordBytes (connection : ModbusConnection) (word : UInt16) : List UInt8 :=
  if isLittle connection.byteOrder then (BigEndian.ofWord word).reverse
  else BigEndian.ofWord word

/-- `_decode_validation_value`. -/
def decodeValidationValue (values : List UInt16) (datapoint : Datapoint)
    (connection : ModbusConnection) (bits : Bool) : Py Reading :=
  match values with
  | [] => .error (.valueError "The equipment returned no value")
  | value :: _ =>
    if bits then .ok (.bool (value ≠ 0))
    else
      let named := datapoint.dataType.getD ""
      let dataType := lower (if named = "" then "uint16" else named)
      match formats.get? dataType with
      | none => .error (.valueError ("Unsupported validation data type: " ++ dataType))
      | some (required, format) =>
        if values.length < required then
          .error (.valueError (dataType ++ " needs " ++ toString required ++ " Modbus registers"))
        else
          let raw := (orderedWords connection required values).flatMap (wordBytes connection)
          let decoded := ((unpack format raw).exact.mul (datapoint.scale.getD 1)).add
            (datapoint.offset.getD 0)
          match decoded with
          | .rat q => .ok (.num (.rat q))
          | _ => .error (.valueError
              "Decoded value is not finite; check data type and byte order")

end DiscoveryService

/-! ## The uplink converter -/

/-- `ModbusClientMixin.DATATYPE`. -/
inductive RegisterType where
  | int16
  | uint16
  | int32
  | uint32
  | float32
  | int64
  | uint64
  | float64
  deriving DecidableEq

/-- The number of registers of a type. -/
def RegisterType.registers : RegisterType → Nat
  | .int16 | .uint16 => 1
  | .int32 | .uint32 | .float32 => 2
  | .int64 | .uint64 | .float64 => 4

/-- Its format. -/
def RegisterType.format : RegisterType → Format
  | .int16 | .int32 | .int64 => .int
  | .uint16 | .uint32 | .uint64 => .uint
  | .float32 => .float 8 23
  | .float64 => .float 11 52

/-- The configuration of a datapoint with a number. -/
structure RegisterConfig where
  type : String
  objectsCount : Option Nat
  registersCount : Option Nat
  registerCount : Option Nat
  divider : Option ℚ
  multiplier : Option ℚ
  offset : Option ℚ
  round : Option Nat
  /-- Its value is neither a text nor bits. -/
  numeric : lower type ∉ ["string", "bytes", "bit", "bits"]

namespace BytesModbusUplinkConverter

/-- The byte or word order of a `BytesUplinkConverterConfig`; one without it is `LITTLE`. -/
def orderOf (order : Option String) : Endian :=
  if upper (order.getD "LITTLE") = "BIG" then .big else .little

/-- `_objects_count`. -/
def objectsCount (config : RegisterConfig) : Nat :=
  config.objectsCount.getD (config.registersCount.getD (config.registerCount.getD 1))

/-- `_ordered_registers`. -/
def orderedRegisters (registers : List UInt16) (byteOrder wordOrder : Endian) : List UInt16 :=
  let words := match byteOrder with
    | .big => registers
    | .little => registers.map BigEndian.swap
  match wordOrder with
  | .big => words
  | .little => words.reverse

/-- `resolved_type`. -/
def resolvedType (config : RegisterConfig) : String :=
  let lowerType := lower config.type
  let bits := toString (objectsCount config * 16)
  if lowerType ∈ ["int", "long", "integer"] then bits ++ "int"
  else if lowerType ∈ ["double", "float"] then bits ++ "float"
  else if lowerType = "uint" then bits ++ "uint"
  else lowerType

/-- `decoder_types`. -/
def decoderTypes : Dict String RegisterType :=
  [("16int", .int16), ("16uint", .uint16), ("32int", .int32), ("32uint", .uint32),
   ("32float", .float32), ("64int", .int64), ("64uint", .uint64), ("64float", .float64)]

variable (convert : List UInt16 → RegisterType → Py Scalar)

/-- `decode_from_registers` before `_format_decoded`; an unknown type has no value. `convert` is
    `convert_from_registers`. -/
def decodeFromRegisters (registers : List UInt16) (config : RegisterConfig)
    (byteOrder wordOrder : Endian) : Py (Option Scalar) := do
  let lowerType := lower config.type
  if lowerType = "8int" ∨ lowerType = "8uint" then
    match BigEndian.ofWords registers with
    -- `struct.error`
    | [] => throw (.runtimeError "unpack requires a buffer of 1 bytes")
    | byte :: _ => return some (unpack (if lowerType = "8int" then .int else .uint) [byte])
  else
    let ordered := orderedRegisters registers byteOrder wordOrder
    if resolvedType config = "16float" then
      match ordered with
      | [] => throw (.runtimeError "unpack requires a buffer of 2 bytes")
      | register :: _ => return some (unpack (.float 5 10) (BigEndian.ofWord register))
    else
      match decoderTypes.get? (resolvedType config) with
      | none => return none
      | some dataType => return some (← convert (ordered.take dataType.registers) dataType)

/-- `_format_decoded` of a number. -/
def formatDecoded (config : RegisterConfig) : Scalar → Exact
  | .int n => .rat n
  | .float x => x.round (config.round.getD 6)

/-- Arithmetic on a decoded value; on `None` it raises. -/
def arithmetic (decoded : Option Exact) (f : Exact → Exact) : Py (Option Exact) :=
  match decoded with
  | some x => .ok (some (f x))
  | none => .error .typeError

/-- `decode_data`. A divider or multiplier of zero is like none. -/
def decodeData (registers : List UInt16) (config : RegisterConfig)
    (byteOrder wordOrder : Endian) : Py (Option Exact) := do
  let decoded ← decodeFromRegisters convert registers config byteOrder wordOrder
  let decoded := decoded.map (formatDecoded config)
  let divider := config.divider.getD 0
  let multiplier := config.multiplier.getD 0
  let decoded ← if divider ≠ 0 then arithmetic decoded fun x => x.mul (1 / divider)
    else if multiplier ≠ 0 then arithmetic decoded fun x => x.mul multiplier
    else pure decoded
  match config.offset with
  | some offset => arithmetic decoded fun x => x.add offset
  | none => return decoded

end BytesModbusUplinkConverter

end Novena
