import Mabinogion.Bacnet.Object
import Mabinogion.Library.BigEndian

/-!
# APDU encoder

Every method of the encoder appends to its buffer, so each is modelled by the
bytes it appends.
-/

namespace Mabinogion.Bacnet

open BigEndian UInt8

inductive TagNumber where
  | null | boolean | unsignedInt | signedInt | real | double | octetString | characterString
  | bitString | enumerated | date | time | objectIdentifier

def TagNumber.code : TagNumber → UInt8
  | .null => 0 | .boolean => 1 | .unsignedInt => 2 | .signedInt => 3 | .real => 4 | .double => 5
  | .octetString => 6 | .characterString => 7 | .bitString => 8 | .enumerated => 9 | .date => 10
  | .time => 11 | .objectIdentifier => 12

namespace ApduEncoder

/-- The length bytes that follow a header whose length field is 5. -/
def extendedLength (len : Nat) : Bytes :=
  if len < 254 then [ofNat len]
  else if len < 65536 then 254 :: bytes 2 (UInt16.ofNat len).toNat
  else 255 :: bytes 4 (UInt32.ofNat len).toNat

def encodeApplicationTag (tag : TagNumber) (len : Nat) : Bytes :=
  if len < 5 then [(tag.code <<< 4) ||| ofNat len]
  else ((tag.code <<< 4) ||| 5) :: extendedLength len

variable (tagNumber : UInt8)

def encodeContextTag (len : Nat) : Bytes :=
  if tagNumber < 15 then
    if len < 5 then [(tagNumber <<< 4) ||| 0x08 ||| ofNat len]
    else ((tagNumber <<< 4) ||| 0x0D) :: extendedLength len
  else if len < 5 then [0xF8 ||| ofNat len, tagNumber]
  else 0xFD :: tagNumber :: extendedLength len

def encodeOpeningTag : Bytes :=
  if tagNumber < 15 then [(tagNumber <<< 4) ||| 0x0E] else [0xFE, tagNumber]

def encodeClosingTag : Bytes :=
  if tagNumber < 15 then [(tagNumber <<< 4) ||| 0x0F] else [0xFF, tagNumber]

variable (value : UInt32)

/-- The bytes of `encode_unsigned`, `encode_context_unsigned` and `encode_enumerated`. -/
def minimalBytes : Bytes :=
  if value < 0x100 then [value.toUInt8]
  else if value < 0x10000 then [(value >>> 8).toUInt8, value.toUInt8]
  else if value < 0x1000000 then [(value >>> 16).toUInt8, (value >>> 8).toUInt8, value.toUInt8]
  else [(value >>> 24).toUInt8, (value >>> 16).toUInt8, (value >>> 8).toUInt8, value.toUInt8]

/-- `encode_context_enumerated` has no three-byte form. -/
def contextEnumeratedBytes : Bytes :=
  if value < 0x100 then [value.toUInt8]
  else if value < 0x10000 then [(value >>> 8).toUInt8, value.toUInt8]
  else [(value >>> 24).toUInt8, (value >>> 16).toUInt8, (value >>> 8).toUInt8, value.toUInt8]

def encodeNull : Bytes := encodeApplicationTag .null 0

def encodeBoolean (value : Bool) : Bytes :=
  [(TagNumber.boolean.code <<< 4) ||| if value then 1 else 0]

def encodeUnsigned : Bytes :=
  encodeApplicationTag .unsignedInt (minimalBytes value).length ++ minimalBytes value

def encodeContextUnsigned : Bytes :=
  encodeContextTag tagNumber (minimalBytes value).length ++ minimalBytes value

def signedLength (value : Int32) : Nat :=
  if value ≥ -128 ∧ value < 128 then 1
  else if value ≥ -32768 ∧ value < 32768 then 2
  else if value ≥ -8388608 ∧ value < 8388608 then 3
  else 4

def encodeSigned (value : Int32) : Bytes :=
  encodeApplicationTag .signedInt (signedLength value) ++
    (bytes 4 value.toUInt32.toNat).drop (4 - signedLength value)

def encodeReal (bits : UInt32) : Bytes :=
  encodeApplicationTag .real 4 ++ bytes 4 bits.toNat

def encodeDouble (bits : UInt64) : Bytes :=
  encodeApplicationTag .double 8 ++ bytes 8 bits.toNat

def encodeOctetString (bytes : Bytes) : Bytes :=
  encodeApplicationTag .octetString bytes.length ++ bytes

def utf8Bytes (text : String) : Bytes := text.toByteArray.data.toList

def encodeCharacterString (text : String) : Bytes :=
  encodeApplicationTag .characterString ((utf8Bytes text).length + 1) ++ 0 :: utf8Bytes text

/-- `index` counts the bits and `byte` is the byte under construction. -/
def packBits (total : Nat) : List Bool → Nat → UInt8 → Bytes
  | [], _, _ => []
  | bit :: rest, index, byte =>
    let byte := if bit then byte ||| (1 <<< ofNat (7 - index % 8)) else byte
    if (index + 1) % 8 = 0 ∨ index = total - 1 then
      byte :: packBits total rest (index + 1) 0
    else packBits total rest (index + 1) byte

def encodeBitString (bits : List Bool) : Bytes :=
  encodeApplicationTag .bitString ((bits.length + 7) / 8 + 1) ++
    ofNat ((8 - bits.length % 8) % 8) :: packBits bits.length bits 0 0

def encodeEnumerated : Bytes :=
  encodeApplicationTag .enumerated (minimalBytes value).length ++ minimalBytes value

def encodeContextEnumerated : Bytes :=
  encodeContextTag tagNumber (contextEnumeratedBytes value).length ++ contextEnumeratedBytes value

def encodeObjectIdentifier (objectId : ObjectId) : Bytes :=
  encodeApplicationTag .objectIdentifier 4 ++ bytes 4 objectId.encode.toNat

def encodeContextObjectIdentifier (objectId : ObjectId) : Bytes :=
  encodeContextTag tagNumber 4 ++ bytes 4 objectId.encode.toNat

mutual

def encodeValue : BACnetValue → Bytes
  | .null => encodeNull
  | .boolean value => encodeBoolean value
  | .unsigned value => encodeUnsigned value
  | .signed value => encodeSigned value
  | .real bits => encodeReal bits
  | .double bits => encodeDouble bits
  | .octetString bytes => encodeOctetString bytes
  | .characterString text => encodeCharacterString text
  | .bitString bits => encodeBitString bits
  | .enumerated value => encodeEnumerated value
  | .objectIdentifier value => encodeObjectIdentifier value
  | .array items => encodeValues items
  | .list items => encodeValues items
  | .unsigned64 _ | .signed64 _ | .date _ | .time _ => []

def encodeValues : List BACnetValue → Bytes
  | [] => []
  | item :: items => encodeValue item ++ encodeValues items

end

def encodeErrorPdu (invokeId serviceChoice : UInt8) (errorClass errorCode : UInt32) : Bytes :=
  [0x50, invokeId, serviceChoice] ++ encodeEnumerated errorClass ++ encodeEnumerated errorCode

def encodeRejectPdu (invokeId rejectReason : UInt8) : Bytes := [0x60, invokeId, rejectReason]

def encodeAbortPdu (invokeId abortReason : UInt8) (sentByServer : Bool) : Bytes :=
  [0x70 ||| (if sentByServer then 0x01 else 0x00), invokeId, abortReason]

def encodeSegmentedComplexAckHeader (invokeId sequenceNumber proposedWindowSize : UInt8)
    (moreFollows : Bool) (serviceChoice : UInt8) : Bytes :=
  [0x30 ||| 0x08 ||| (if moreFollows then 0x04 else 0x00), invokeId, sequenceNumber,
    proposedWindowSize, serviceChoice]

end ApduEncoder

end Mabinogion.Bacnet
