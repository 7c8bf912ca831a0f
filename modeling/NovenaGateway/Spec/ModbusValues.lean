import NovenaGateway.Native.ModbusValues

/-!
# Commissioning reads and deployed polling

Both decoders make a number of as many words as the type has, with the bytes of each word and the
words in the configured order. The validation takes these words from the front of what was read
and then turns them round; the converter turns all of them round and then takes from the front.
For words in little-endian order the numbers are therefore those of the first and of the last
words.

Key results:
- `decodeValidationValue_eq`
- `decodeData_eq`
- `decode_agrees_iff`
-/

namespace Novena

/-! ## Integer types -/

/-- The integer types that both decoders know. -/
inductive IntType where
  | uint16
  | int16
  | uint32
  | int32
  | uint64
  | int64
  deriving DecidableEq

namespace IntType

/-- The name of a type in a mapping. -/
def validationType : IntType → String
  | uint16 => "uint16"
  | int16 => "int16"
  | uint32 => "uint32"
  | int32 => "int32"
  | uint64 => "uint64"
  | int64 => "int64"

/-- Its name in the configuration of a connector. -/
def converterType : IntType → String
  | uint16 => "16uint"
  | int16 => "16int"
  | uint32 => "32uint"
  | int32 => "32int"
  | uint64 => "64uint"
  | int64 => "64int"

def registerType : IntType → RegisterType
  | uint16 => .uint16
  | int16 => .int16
  | uint32 => .uint32
  | int32 => .int32
  | uint64 => .uint64
  | int64 => .int64

def registers (t : IntType) : Nat := t.registerType.registers

/-- The number of the words of a value. -/
def ofWords (t : IntType) (words : List UInt16) : Int :=
  match t.registerType.format with
  | .int => BigEndian.toInt (BigEndian.ofWords words)
  | _ => BigEndian.toNat (BigEndian.ofWords words)

/-- A type has a register. -/
theorem registers_pos (t : IntType) : 0 < t.registers := by
  cases t <;> decide

/-- Unpacking reads the words as one number. -/
theorem unpack_ofWords (t : IntType) (words : List UInt16) :
    unpack t.registerType.format (BigEndian.ofWords words) = .int (t.ofWords words) := by
  cases t <;> rfl

/-- Equally many words with the same number are the same words. -/
theorem ofWords_inj (t : IntType) {vs ws : List UInt16} (hlength : vs.length = ws.length)
    (h : t.ofWords vs = t.ofWords ws) : vs = ws := by
  have hbytes : (BigEndian.ofWords vs).length = (BigEndian.ofWords ws).length := by
    simp only [BigEndian.length_ofWords, hlength]
  refine BigEndian.ofWords_injective ?_
  cases t with
  | uint16 | uint32 | uint64 => exact BigEndian.toNat_inj hbytes (Int.ofNat_inj.mp h)
  | int16 | int32 | int64 => exact BigEndian.toInt_inj hbytes h

/-- A datapoint of this type. -/
def datapoint (t : IntType) (scale offset : ℚ) : Datapoint :=
  ⟨some t.validationType, some scale, some offset⟩

/-- The same datapoint in the configuration of the connector, for `n` registers. -/
def config (t : IntType) (n : Nat) (scale offset : ℚ) : RegisterConfig where
  type := t.converterType
  objectsCount := some n
  registersCount := none
  registerCount := none
  divider := none
  multiplier := some scale
  offset := some offset
  round := none
  numeric := by cases t <;> decide

/-- The configuration divides by nothing. -/
@[simp] theorem config_divider (t : IntType) (n : Nat) (scale offset : ℚ) :
    (t.config n scale offset).divider = none := rfl

/-- It has the scale as its multiplier. -/
@[simp] theorem config_multiplier (t : IntType) (n : Nat) (scale offset : ℚ) :
    (t.config n scale offset).multiplier = some scale := rfl

/-- And the offset. -/
@[simp] theorem config_offset (t : IntType) (n : Nat) (scale offset : ℚ) :
    (t.config n scale offset).offset = some offset := rfl

end IntType

/-- The configured order. -/
def Endian.text : Endian → String
  | .big => "BIG"
  | .little => "LITTLE"

/-- A connection with these orders. -/
def ModbusConnection.ofOrders (byteOrder wordOrder : Endian) : ModbusConnection :=
  ⟨some byteOrder.text, some wordOrder.text⟩

/-- Exchange the bytes of a word where the byte order says so. -/
def Endian.word : Endian → UInt16 → UInt16
  | .big => id
  | .little => BigEndian.swap

/-- No order loses a byte. -/
theorem Endian.word_injective (order : Endian) : Function.Injective order.word := by
  cases order with
  | big => exact Function.injective_id
  | little => exact BigEndian.swap_injective

/-! ## The validation -/

namespace DiscoveryService

/-- The text of an order says which it is. -/
theorem isLittle_text (order : Endian) : isLittle (some order.text) = decide (order = .little) := by
  cases order <;> decide

/-- The bytes of a word, in the order of the configuration. -/
theorem wordBytes_eq (byteOrder wordOrder : Endian) (w : UInt16) :
    wordBytes (.ofOrders byteOrder wordOrder) w = BigEndian.ofWord (byteOrder.word w) := by
  simp only [wordBytes, ModbusConnection.ofOrders, isLittle_text]
  cases byteOrder with
  | big => rfl
  | little => exact (BigEndian.ofWord_swap w).symm

/-- The words a validation reads the number of, before their bytes are ordered. -/
def validatedWords (wordOrder : Endian) (n : Nat) (values : List UInt16) : List UInt16 :=
  match wordOrder with
  | .big => values.take n
  | .little => (values.take n).reverse

/-- One word is the same in both orders. -/
theorem orderedWords_eq (byteOrder wordOrder : Endian) {n : Nat} (hn : 0 < n)
    (values : List UInt16) :
    orderedWords (.ofOrders byteOrder wordOrder) n values = validatedWords wordOrder n values := by
  simp only [orderedWords, ModbusConnection.ofOrders, isLittle_text]
  cases wordOrder with
  | big => rfl
  | little =>
    by_cases hone : 1 < n
    · simp [hone, validatedWords]
    · obtain rfl : n = 1 := by omega
      cases values <;> rfl

end DiscoveryService

open DiscoveryService (decodeValidationValue validatedWords)
open BytesModbusUplinkConverter (decodeData orderedRegisters)

/-- Both tables know the type. -/
theorem IntType.formats_get (t : IntType) :
    DiscoveryService.formats.get? (lower t.validationType) =
      some (t.registers, t.registerType.format) := by
  cases t <;> rfl

/-- Every type has a name. -/
theorem IntType.validationType_ne (t : IntType) : t.validationType ≠ "" := by
  cases t <;> decide

/-- The value that a validation shows. -/
theorem decodeValidationValue_eq (t : IntType) (byteOrder wordOrder : Endian)
    {values : List UInt16} (hwidth : t.registers ≤ values.length) (scale offset : ℚ) :
    decodeValidationValue values (t.datapoint scale offset) (.ofOrders byteOrder wordOrder) false =
      .ok (.num (.rat
        (t.ofWords ((validatedWords wordOrder t.registers values).map byteOrder.word) * scale +
          offset))) := by
  have hraw : (DiscoveryService.orderedWords (.ofOrders byteOrder wordOrder) t.registers
      values).flatMap (DiscoveryService.wordBytes (.ofOrders byteOrder wordOrder)) =
        BigEndian.ofWords ((validatedWords wordOrder t.registers values).map byteOrder.word) := by
    rw [DiscoveryService.orderedWords_eq byteOrder wordOrder t.registers_pos, BigEndian.ofWords,
      List.flatMap_map]
    exact List.flatMap_congr fun w _ => DiscoveryService.wordBytes_eq byteOrder wordOrder w
  cases values with
  | nil => exact absurd t.registers_pos (Nat.not_lt_of_le hwidth)
  | cons value values =>
    simp only [decodeValidationValue, Bool.false_eq_true, if_false, IntType.datapoint,
      Option.getD_some, t.validationType_ne, t.formats_get, Nat.not_lt_of_le hwidth, hraw,
      t.unpack_ofWords, Scalar.exact, Exact.mul, Exact.add]

/-! ## The converter -/

/-- `convert_from_registers` reads the registers of a value from the most significant one on. -/
def DecodesBigEndian (convert : List UInt16 → RegisterType → Py Scalar) : Prop :=
  ∀ dataType registers, registers.length = dataType.registers →
    convert registers dataType = .ok (unpack dataType.format (BigEndian.ofWords registers))

/-- The words the converter reads the number of, before their bytes are ordered. -/
def convertedWords (wordOrder : Endian) (n : Nat) (values : List UInt16) : List UInt16 :=
  match wordOrder with
  | .big => values.take n
  | .little => (values.drop (values.length - n)).reverse

/-- The registers that are taken are the first ones after the orders were applied. -/
theorem orderedRegisters_take (byteOrder wordOrder : Endian) (n : Nat) (values : List UInt16) :
    (orderedRegisters values byteOrder wordOrder).take n =
      (convertedWords wordOrder n values).map byteOrder.word := by
  have hwords : orderedRegisters values byteOrder wordOrder =
      (match wordOrder with | .big => values | .little => values.reverse).map byteOrder.word := by
    cases byteOrder <;> cases wordOrder <;> simp [orderedRegisters, Endian.word]
  rw [hwords, ← List.map_take]
  cases wordOrder with
  | big => rfl
  | little => rw [List.take_reverse]; rfl

/-- As many as the type needs. -/
theorem length_convertedWords (wordOrder : Endian) {n : Nat} {values : List UInt16}
    (hn : n ≤ values.length) : (convertedWords wordOrder n values).length = n := by
  cases wordOrder with
  | big => simp [convertedWords, hn]
  | little => simp [convertedWords]; omega

/-- In the validation too. -/
theorem length_validatedWords (wordOrder : Endian) {n : Nat} {values : List UInt16}
    (hn : n ≤ values.length) : (validatedWords wordOrder n values).length = n := by
  cases wordOrder with
  | big => simp [validatedWords, hn]
  | little => simp [validatedWords, hn]

/-- The name of an integer type is in lower case and resolved already. -/
theorem IntType.resolvedType_config (t : IntType) (n : Nat) (scale offset : ℚ) :
    BytesModbusUplinkConverter.resolvedType (t.config n scale offset) = t.converterType := by
  have hlower : lower t.converterType = t.converterType := by cases t <;> decide
  have hint : t.converterType ∉ ["int", "long", "integer"] := by cases t <;> decide
  have hfloat : t.converterType ∉ ["double", "float"] := by cases t <;> decide
  have huint : t.converterType ≠ "uint" := by cases t <;> decide
  simp only [BytesModbusUplinkConverter.resolvedType, IntType.config, hlower, hint, hfloat, huint,
    if_false]

/-- The decoder knows every integer type. -/
theorem IntType.decoderTypes_get (t : IntType) :
    BytesModbusUplinkConverter.decoderTypes.get? t.converterType = some t.registerType := by
  cases t <;> rfl

/-- None of them is one of the special names. -/
theorem IntType.lower_converterType (t : IntType) :
    lower t.converterType ≠ "8int" ∧ lower t.converterType ≠ "8uint" ∧
      t.converterType ≠ "16float" := by
  cases t <;> decide

/-- The value that the connector reports. -/
theorem decodeData_eq {convert : List UInt16 → RegisterType → Py Scalar}
    (hconvert : DecodesBigEndian convert) (t : IntType) (byteOrder wordOrder : Endian)
    {values : List UInt16} (hwidth : t.registers ≤ values.length) {scale : ℚ} (hscale : scale ≠ 0)
    (offset : ℚ) :
    decodeData convert values (t.config values.length scale offset) byteOrder wordOrder =
      .ok (some (.rat
        (t.ofWords ((convertedWords wordOrder t.registers values).map byteOrder.word) * scale +
          offset))) := by
  obtain ⟨hint, huint, hfloat⟩ := t.lower_converterType
  have hlength : ((convertedWords wordOrder t.registers values).map byteOrder.word).length =
      t.registerType.registers := by
    rw [List.length_map, length_convertedWords wordOrder hwidth]
    rfl
  have hfrom : BytesModbusUplinkConverter.decodeFromRegisters convert values
      (t.config values.length scale offset) byteOrder wordOrder = .ok (some (.int
        (t.ofWords ((convertedWords wordOrder t.registers values).map byteOrder.word)))) := by
    have hdecoded := hconvert t.registerType _ hlength
    rw [t.unpack_ofWords, ← orderedRegisters_take] at hdecoded
    have htype : lower (t.config values.length scale offset).type = lower t.converterType := rfl
    simp only [BytesModbusUplinkConverter.decodeFromRegisters, t.resolvedType_config, htype, hint,
      huint, hfloat, or_self, if_false, t.decoderTypes_get]
    rw [show t.registerType.registers = t.registers from rfl, hdecoded, orderedRegisters_take]
    rfl
  simp only [decodeData, hfrom, IntType.config_divider, IntType.config_multiplier,
    IntType.config_offset, Option.getD_none, Option.getD_some, bind, Except.bind, ne_eq,
    not_true_eq_false, if_false, hscale, not_false_eq_true, if_true]
  rfl

/-! ## Agreement -/

/-- The validation and the connector give this datapoint the same number. -/
def Agree (convert : List UInt16 → RegisterType → Py Scalar) (t : IntType)
    (byteOrder wordOrder : Endian) (values : List UInt16) (scale offset : ℚ) : Prop :=
  ∃ x, decodeValidationValue values (t.datapoint scale offset) (.ofOrders byteOrder wordOrder)
      false = .ok (.num x) ∧
    decodeData convert values (t.config values.length scale offset) byteOrder wordOrder =
      .ok (some x)

/-- The words of both decoders are the same exactly in big-endian order or when the first and the
    last words that were read are. -/
theorem validatedWords_eq_iff (wordOrder : Endian) (n : Nat) (values : List UInt16) :
    validatedWords wordOrder n values = convertedWords wordOrder n values ↔
      wordOrder = .big ∨ values.take n = values.drop (values.length - n) := by
  cases wordOrder with
  | big => simp [validatedWords, convertedWords]
  | little => simp [validatedWords, convertedWords]

/-- The two decoders agree on an integer exactly when its words come in big-endian order or the
    first words that were read are also the last ones. -/
theorem decode_agrees_iff {convert : List UInt16 → RegisterType → Py Scalar}
    (hconvert : DecodesBigEndian convert) (t : IntType) (byteOrder wordOrder : Endian)
    {values : List UInt16} (hwidth : t.registers ≤ values.length) {scale : ℚ} (hscale : scale ≠ 0)
    (offset : ℚ) :
    Agree convert t byteOrder wordOrder values scale offset ↔
      wordOrder = .big ∨
        values.take t.registers = values.drop (values.length - t.registers) := by
  rw [← validatedWords_eq_iff]
  simp only [Agree, decodeValidationValue_eq t byteOrder wordOrder hwidth,
    decodeData_eq hconvert t byteOrder wordOrder hwidth hscale]
  constructor
  · rintro ⟨x, hvalidated, hconverted⟩
    obtain rfl := DiscoveryService.Reading.num.inj (Except.ok.inj hvalidated)
    have hscaled := Exact.rat.inj (Option.some.inj (Except.ok.inj hconverted))
    -- scale and offset can be taken away
    have hnumber := Int.cast_injective (α := ℚ)
      (mul_right_cancel₀ hscale (add_right_cancel hscaled))
    have hwords := t.ofWords_inj (by
      rw [List.length_map, List.length_map, length_convertedWords wordOrder hwidth,
        length_validatedWords wordOrder hwidth]) hnumber
    exact (List.map_injective_iff.mpr byteOrder.word_injective hwords).symm
  · intro h
    exact ⟨_, rfl, by rw [h]⟩

/-- `convert_from_registers` of `pymodbus`. -/
def convertFromRegisters (registers : List UInt16) (dataType : RegisterType) : Py Scalar :=
  if registers.length = dataType.registers then
    .ok (unpack dataType.format (BigEndian.ofWords registers))
  else .error (.runtimeError "Illegal size of register array, cannot convert!")

/-- The decoding of the registers is big-endian. -/
theorem convertFromRegisters_decodes : DecodesBigEndian convertFromRegisters :=
  fun _ _ hlength => if_pos hlength

/-- A 16-bit value in a read of two registers: the customer confirms the first one, and the
    connector reports the second. -/
theorem first_and_last_word :
    ¬Agree convertFromRegisters .uint16 .big .little [230, 17] (1 / 10) 1 := by
  rintro ⟨x, hvalidated, hconverted⟩
  have hfirst : decodeValidationValue [230, 17] (IntType.uint16.datapoint (1 / 10) 1)
      (.ofOrders .big .little) false = .ok (.num (.rat 24)) := by decide +kernel
  have hlast : decodeData convertFromRegisters [230, 17] (IntType.uint16.config 2 (1 / 10) 1)
      .big .little = .ok (some (.rat (27 / 10))) := by decide +kernel
  rw [hfirst] at hvalidated
  obtain rfl := DiscoveryService.Reading.num.inj (Except.ok.inj hvalidated)
  have hequal := Exact.rat.inj (Option.some.inj (Except.ok.inj (hlast.symm.trans hconverted)))
  exact absurd hequal (by norm_num)

/-- A 32-bit value in a read of its own length, with the words in little-endian order. -/
theorem decode_agrees_iff_station :
    Agree convertFromRegisters .int32 .little .little [4660, 65280] (1 / 10) 1 :=
  (decode_agrees_iff convertFromRegisters_decodes .int32 .little .little (by decide)
    (by norm_num) 1).mpr (.inr (by decide))

end Novena
