import Mabinogion.Opcua.StructureRoundTrip

/-!
# The binary codec: variants

A variant starts with a byte for its type, with the high bit set for an array. The
encoder also writes XML elements, which the decoder does not know.
-/

namespace Mabinogion.Opcua

open Checked ByteCursor DataTypeId VariantArrayValue Variant

def arrayBit : UInt8 := 0x80

def encodeScalarValue : VariantScalarValue → Bytes
  | .null => encode (0 : UInt8)
  | .boolean v => encode boolean.code ++ encode v
  | .sByte v => encode sByte.code ++ encode v
  | .byte v => encode byte.code ++ encode v
  | .int16 v => encode int16.code ++ encode v
  | .uInt16 v => encode uInt16.code ++ encode v
  | .int32 v => encode int32.code ++ encode v
  | .uInt32 v => encode uInt32.code ++ encode v
  | .int64 v => encode int64.code ++ encode v
  | .uInt64 v => encode uInt64.code ++ encode v
  | .float v => encode float.code ++ encode v
  | .double v => encode double.code ++ encode v
  | .string v => encode string.code ++ encode v
  | .dateTime v => encode dateTime.code ++ encode v
  | .guid v => encode guid.code ++ encode v
  | .byteString v => encode byteString.code ++ encode v
  | .xmlElement v => encode xmlElement.code ++ encode v
  | .nodeId v => encode nodeId.code ++ encode v
  | .statusCode v => encode statusCode.code ++ encode v

def scalarValueSize : VariantScalarValue → Nat
  | .null => 0
  | .boolean _ => 1
  | .sByte _ | .byte _ => 1
  | .int16 _ | .uInt16 _ => 2
  | .int32 _ | .uInt32 _ | .float _ => 4
  | .int64 _ | .uInt64 _ | .double _ => 8
  | .string s => 4 + (Utf8.octets s).length
  | .dateTime _ => 8
  | .guid _ => 16
  | .byteString bs => 4 + bs.length
  | .xmlElement s => 4 + (Utf8.octets s).length
  | .nodeId n => encodedSize n
  | .statusCode _ => 4

def encodeArrayValue : VariantArrayValue → Bytes
  | .boolean v => encode (boolean.code ||| arrayBit) ++ encodeArray v
  | .sByte v => encode (sByte.code ||| arrayBit) ++ encodeArray v
  | .byte v => encode (byte.code ||| arrayBit) ++ encodeArray v
  | .int16 v => encode (int16.code ||| arrayBit) ++ encodeArray v
  | .uInt16 v => encode (uInt16.code ||| arrayBit) ++ encodeArray v
  | .int32 v => encode (int32.code ||| arrayBit) ++ encodeArray v
  | .uInt32 v => encode (uInt32.code ||| arrayBit) ++ encodeArray v
  | .int64 v => encode (int64.code ||| arrayBit) ++ encodeArray v
  | .uInt64 v => encode (uInt64.code ||| arrayBit) ++ encodeArray v
  | .float v => encode (float.code ||| arrayBit) ++ encodeArray v
  | .double v => encode (double.code ||| arrayBit) ++ encodeArray v
  | .string v => encode (string.code ||| arrayBit) ++ encodeArray v
  | .dateTime v => encode (dateTime.code ||| arrayBit) ++ encodeArray v
  | .guid v => encode (guid.code ||| arrayBit) ++ encodeArray v
  | .byteString v => encode (byteString.code ||| arrayBit) ++ encodeArray v
  | .nodeId v => encode (nodeId.code ||| arrayBit) ++ encodeArray v
  | .statusCode v => encode (statusCode.code ||| arrayBit) ++ encodeArray v

def arrayValueSize (values : VariantArrayValue) : Nat :=
  4 + match values with
    | .boolean v => v.length
    | .sByte v => v.length
    | .byte v => v.length
    | .int16 v => v.length * 2
    | .uInt16 v => v.length * 2
    | .int32 v => v.length * 4
    | .uInt32 v => v.length * 4
    | .int64 v => v.length * 8
    | .uInt64 v => v.length * 8
    | .float v => v.length * 4
    | .double v => v.length * 8
    | .string v => (v.map fun s => 4 + (Utf8.octets s).length).sum
    | .dateTime v => v.length * 8
    | .guid v => v.length * 16
    | .byteString v => (v.map fun bs => 4 + bs.length).sum
    | .nodeId v => (v.map encodedSize).sum
    | .statusCode v => v.length * 4

instance : BinaryEncodable Variant where
  encode
    | .null => encode (0 : UInt8)
    | .boolean v => encode boolean.code ++ encode v
    | .sByte v => encode sByte.code ++ encode v
    | .byte v => encode byte.code ++ encode v
    | .int16 v => encode int16.code ++ encode v
    | .uInt16 v => encode uInt16.code ++ encode v
    | .int32 v => encode int32.code ++ encode v
    | .uInt32 v => encode uInt32.code ++ encode v
    | .int64 v => encode int64.code ++ encode v
    | .uInt64 v => encode uInt64.code ++ encode v
    | .float v => encode float.code ++ encode v
    | .double v => encode double.code ++ encode v
    | .string v => encode string.code ++ encode v
    | .dateTime v => encode dateTime.code ++ encode v
    | .guid v => encode guid.code ++ encode v
    | .byteString v => encode byteString.code ++ encode v
    | .nodeId v => encode nodeId.code ++ encode v
    | .statusCode v => encode statusCode.code ++ encode v
    | .scalar sv => encodeScalarValue sv
    | .array av => encodeArrayValue av
  encodedSize self :=
    1 + match self with
      | .null => 0
      | .boolean _ => 1
      | .sByte _ | .byte _ => 1
      | .int16 _ | .uInt16 _ => 2
      | .int32 _ | .uInt32 _ | .float _ => 4
      | .int64 _ | .uInt64 _ | .double _ => 8
      | .string s => 4 + (Utf8.octets s).length
      | .dateTime _ => 8
      | .guid _ => 16
      | .byteString bs => 4 + bs.length
      | .nodeId n => encodedSize n
      | .statusCode _ => 4
      | .scalar sv => scalarValueSize sv
      | .array av => arrayValueSize av

def decodeAs {Value : Type} [BinaryDecodable Value] (make : Value → Variant) : Decoder Variant := do
  let value ← decode
  pure (make value)

def decodeArrayAs {Value : Type} [BinaryDecodable Value] (make : List Value → VariantArrayValue) :
    Decoder Variant := do
  let values ← decodeArray
  pure (.array (make values))

def decodeScalarVariant (typeId : UInt8) : Decoder Variant :=
  match fromU8 typeId with
  | some .null => pure .null
  | some .boolean => decodeAs boolean
  | some .sByte => decodeAs sByte
  | some .byte => decodeAs byte
  | some .int16 => decodeAs int16
  | some .uInt16 => decodeAs uInt16
  | some .int32 => decodeAs int32
  | some .uInt32 => decodeAs uInt32
  | some .int64 => decodeAs int64
  | some .uInt64 => decodeAs uInt64
  | some .float => decodeAs float
  | some .double => decodeAs double
  | some .string => decodeAs string
  | some .dateTime => decodeAs dateTime
  | some .guid => decodeAs guid
  | some .byteString => decodeAs byteString
  | some .nodeId => decodeAs nodeId
  | some .statusCode => decodeAs statusCode
  | _ => fail (.codec ("Unsupported variant type: " ++ toString typeId.toNat))

def decodeArrayVariant (typeId : UInt8) : Decoder Variant :=
  match fromU8 typeId with
  | some .boolean => decodeArrayAs boolean
  | some .sByte => decodeArrayAs sByte
  | some .byte => decodeArrayAs byte
  | some .int16 => decodeArrayAs int16
  | some .uInt16 => decodeArrayAs uInt16
  | some .int32 => decodeArrayAs int32
  | some .uInt32 => decodeArrayAs uInt32
  | some .int64 => decodeArrayAs int64
  | some .uInt64 => decodeArrayAs uInt64
  | some .float => decodeArrayAs float
  | some .double => decodeArrayAs double
  | some .string => decodeArrayAs string
  | some .dateTime => decodeArrayAs dateTime
  | some .guid => decodeArrayAs guid
  | some .byteString => decodeArrayAs byteString
  | some .nodeId => decodeArrayAs nodeId
  | some .statusCode => decodeArrayAs statusCode
  | _ => fail (.codec ("Unsupported array type: " ++ toString typeId.toNat))

instance : BinaryDecodable Variant where
  decode := do
    let encoding ← (decode : Decoder UInt8)
    if encoding &&& arrayBit != 0 then decodeArrayVariant (encoding &&& 0x3F)
    else decodeScalarVariant (encoding &&& 0x3F)

/-- A wrapped scalar stands for the scalar itself. There is no other form of an XML element. -/
def VariantScalarValue.unwrapped : VariantScalarValue → Variant
  | .null => .null
  | .boolean v => .boolean v
  | .sByte v => .sByte v
  | .byte v => .byte v
  | .int16 v => .int16 v
  | .uInt16 v => .uInt16 v
  | .int32 v => .int32 v
  | .uInt32 v => .uInt32 v
  | .int64 v => .int64 v
  | .uInt64 v => .uInt64 v
  | .float v => .float v
  | .double v => .double v
  | .string v => .string v
  | .dateTime v => .dateTime v
  | .guid v => .guid v
  | .byteString v => .byteString v
  | .xmlElement v => .scalar (.xmlElement v)
  | .nodeId v => .nodeId v
  | .statusCode v => .statusCode v

def Variant.unwrapped : Variant → Variant
  | .scalar sv => sv.unwrapped
  | other => other

end Mabinogion.Opcua
