import Mabinogion.Bacnet.Decoding

/-!
# Property values

The three decoders of application-tagged values: `decode_property_value` of
WriteProperty, `decode_property_value_from_context` of WritePropertyMultiple and
`decode_application_value` of CreateObject.
-/

namespace Mabinogion.Bacnet

open Checked ApduDecoder

inductive ServiceError where
  | invalidRequest
  | unknownProperty (value : UInt32)
  | unsupportedDataType (tag : UInt8)
  | apdu (error : ApduError)

variable {allowed : Fault → Prop}

section

variable {Value : Type}

/-- The `?` operator on a decoder error. -/
def orApdu (computation : Decode ApduError Value) : Decode ServiceError Value :=
  computation.mapErr ServiceError.apdu

def decodeValueContent (tag : TagInfo) : Decode ServiceError BACnetValue :=
  if tag.isContext then do
    let value ← orApdu (decodeUnsigned tag.len)
    pure (.unsigned value)
  else
    match tag.tagNumber with
    | 0 => pure .null
    | 1 => pure (.boolean (tag.len != 0))
    | 2 => do
      let value ← orApdu (decodeUnsigned tag.len)
      pure (.unsigned value)
    | 3 => do
      let value ← orApdu (decodeSigned tag.len)
      pure (.signed value)
    | 4 => do
      let bits ← orApdu decodeReal
      pure (.real bits)
    | 5 => do
      let bits ← orApdu decodeDouble
      pure (.double bits)
    | 6 => do
      let bytes ← orApdu (readBytes tag.len)
      pure (.octetString bytes)
    | 7 => do
      let text ← orApdu (decodeCharacterString tag.len)
      pure (.characterString text)
    | 8 => do
      let bits ← orApdu (decodeBitString tag.len)
      pure (.bitString bits)
    | 9 => do
      let value ← orApdu (decodeUnsigned tag.len)
      pure (.enumerated value)
    | 12 => do
      let objectId ← orApdu decodeObjectIdentifier
      pure (.objectIdentifier objectId)
    | tagNumber => fail (.unsupportedDataType tagNumber)

/-- A pairing tag is read over where it stands, and not missed where it does not. -/
def skipIf (present : ApduDecoder → Bool) : Decode ServiceError Unit := do
  if ← gets present then do
    let _ ← orApdu readU8
    pure ()
  else pure ()

def decodePropertyValueFromContext (expectedTag : UInt8) : Decode ServiceError BACnetValue := do
  skipIf (isOpeningTag expectedTag)
  let tag ← orApdu decodeTagInfo
  let value ← decodeValueContent tag
  skipIf fun decoder => !decoder.isEmpty && decoder.isClosingTag expectedTag
  pure value

def decodePropertyValue : Decode ServiceError BACnetValue := decodePropertyValueFromContext 3

theorem orderly_orApdu {computation : Decode ApduError Value}
    (orderly : Orderly remaining allowed computation) :
    Orderly remaining allowed (orApdu computation) :=
  orderly.mapErr ServiceError.apdu

theorem orderly_skipIf (present : ApduDecoder → Bool) :
    Orderly remaining allowed (skipIf present) := by
  apply (orderly_gets present).bind
  intro here
  exact Orderly.ite ((orderly_orApdu orderly_readU8).bind fun _ => orderly_pure _) (orderly_pure _)

end

section

variable {Value : Type}

def orText (text : String) (computation : Decode ApduError Value) : Decode String Value :=
  computation.mapErr fun _ => text

def shiftedBit (byte : UInt8) (shift : Nat) : Decode String Bool :=
  if shift < 8 then pure ((byte >>> UInt8.ofNat shift) &&& 1 == 1) else raise .shiftTooWide

/-- Bit strings here are indexed bit by bit, and only their number is checked. -/
def decodeIndexedBits (bytes : Bytes) : Decode String BACnetValue :=
  if bytes.isEmpty then pure (.bitString []) else do
    let unusedBits ← checkedIndex bytes 0
    let data := bytes.drop 1
    let totalBits ← checkedSub (data.length * 8) unusedBits.toNat
    let bits ← visitAll (fun i => do
      let byte ← checkedIndex data (i / 8)
      let bitIdx ← checkedSub 7 (i % 8)
      shiftedBit byte bitIdx) (List.range totalBits)
    pure (.bitString bits)

def decodeApplicationContent (tag : TagInfo) : Decode String BACnetValue :=
  match tag.tagNumber with
  | 0 => pure .null
  | 1 => pure (.boolean (tag.len != 0))
  | 2 => do
    let value ← orText "Failed to decode unsigned" (decodeUnsigned tag.len)
    pure (.unsigned value)
  | 3 => do
    -- `decode_unsigned`, and the bits taken as an i32
    let value ← orText "Failed to decode signed" (decodeUnsigned tag.len)
    pure (.signed value.toInt32)
  | 4 => do
    failIf (tag.len != 4) "Invalid real length"
    let bytes ← readIndexed (fun _ => "Failed to read float bytes") 4
    pure (.real (UInt32.ofNat (BigEndian.value bytes)))
  | 5 => do
    failIf (tag.len != 8) "Invalid double length"
    let bytes ← readIndexed (fun _ => "Failed to read double bytes") 8
    pure (.double (UInt64.ofNat (BigEndian.value bytes)))
  | 7 => do
    let text ← orText "Failed to decode string" (decodeCharacterString tag.len)
    pure (.characterString text)
  | 8 => do
    let bytes ← orText "Failed to read bitstring" (readBytes tag.len)
    decodeIndexedBits bytes
  | 9 => do
    let value ← orText "Failed to decode enumerated" (decodeUnsigned tag.len)
    pure (.enumerated value)
  | 12 => do
    let objectId ← orText "Failed to decode object id" decodeObjectIdentifier
    pure (.objectIdentifier objectId)
  | _ => do
    -- unknown tags are skipped, and a failure to do so is ignored
    let _ ← attempt (readBytes tag.len)
    pure .null

def decodeApplicationValue : Decode String BACnetValue := do
  let tag ← orText "Failed to decode value tag" decodeTagInfo
  if tag.isContext then do
    let value ← orText "Failed to decode context value" (decodeUnsigned tag.len)
    pure (.unsigned value)
  else decodeApplicationContent tag

theorem orderly_orText {Value : Type} (text : String) {computation : Decode ApduError Value}
    (orderly : Orderly remaining allowed computation) :
    Orderly remaining allowed (orText text computation) :=
  orderly.mapErr fun _ => text

end

end Mabinogion.Bacnet
