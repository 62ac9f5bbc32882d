import Mabinogion.Bacnet.PropertyValue

/-!
# Property services

The request decoders of ReadProperty, WriteProperty, ReadPropertyMultiple and
WritePropertyMultiple. A decoder works on a cursor of its own, which is dropped
when it returns.
-/

namespace Mabinogion.Bacnet

open Checked ApduDecoder ServiceError

structure ReadPropertyRequest where
  objectIdentifier : ObjectId
  propertyIdentifier : PropertyId
  propertyArrayIndex : Option UInt32

structure WritePropertyRequest where
  objectIdentifier : ObjectId
  propertyIdentifier : PropertyId
  propertyArrayIndex : Option UInt32
  propertyValue : BACnetValue
  priority : Option UInt8

structure PropertyReference where
  propertyId : PropertyId
  arrayIndex : Option UInt32

structure ReadAccessSpecification where
  objectId : ObjectId
  propertyReferences : List PropertyReference

structure ReadPropertyMultipleRequest where
  readAccessSpecifications : List ReadAccessSpecification

structure PropertyValueWrite where
  propertyRef : PropertyReference
  value : BACnetValue
  priority : Option UInt8

structure WriteAccessSpecification where
  objectId : ObjectId
  propertyValues : List PropertyValueWrite

structure WritePropertyMultipleRequest where
  writeAccessSpecifications : List WriteAccessSpecification

variable (tagNumber : UInt8) (present : ApduDecoder → Bool)

section

variable (tagNumber : UInt8)

def contextObjectIdentifier : Decode ServiceError ObjectId := do
  let tag ← orApdu decodeTagInfo
  failIf (!tag.isContext || tag.tagNumber != tagNumber || tag.len != 4) .invalidRequest
  orApdu decodeObjectIdentifier

def contextPropertyIdentifier : Decode ServiceError PropertyId := do
  let tag ← orApdu decodeTagInfo
  failIf (!tag.isContext || tag.tagNumber != tagNumber) .invalidRequest
  let propIdValue ← orApdu (decodeUnsigned tag.len)
  liftOption (.unknownProperty propIdValue) (PropertyId.fromU32 propIdValue)

/-- An unsigned number behind a tag whose presence is judged by a look ahead. -/
def optionalUnsigned (present : ApduDecoder → Bool) : Decode ServiceError (Option UInt32) := do
  if ← gets present then do
    let tag ← orApdu decodeTagInfo
    let value ← orApdu (decodeUnsigned tag.len)
    pure (some value)
  else pure none

def peeks (byte : UInt8) (decoder : ApduDecoder) : Bool :=
  !decoder.isEmpty && decoder.peek == some byte

def expectOpeningTag : Decode ServiceError Unit := do
  let opened ← gets (isOpeningTag tagNumber)
  failIf (!opened) .invalidRequest
  let _ ← orApdu readU8
  pure ()

def decodePropertyReference (present : ApduDecoder → Bool) :
    Decode ServiceError PropertyReference := do
  let propertyId ← contextPropertyIdentifier 0
  let arrayIndex ← optionalUnsigned present
  pure ⟨propertyId, arrayIndex⟩

def accessSpecification {Item Specification : Type} (item : Decode ServiceError Item)
    (make : ObjectId → List Item → Specification) : Decode ServiceError Specification := do
  let objectId ← contextObjectIdentifier 0
  expectOpeningTag 1
  let items ← collectUntil remaining (isClosingTag 1) item
  let _ ← orApdu readU8
  pure (make objectId items)

variable {allowed : Fault → Prop}

theorem brisk_contextObjectIdentifier :
    Brisk remaining allowed (contextObjectIdentifier tagNumber) := by
  apply (brisk_decodeTagInfo.mapErr apdu).bind
  intro tag
  exact (orderly_failIf _ _).bind fun _ => orderly_orApdu orderly_decodeObjectIdentifier

theorem brisk_contextPropertyIdentifier :
    Brisk remaining allowed (contextPropertyIdentifier tagNumber) := by
  apply (brisk_decodeTagInfo.mapErr apdu).bind
  intro tag
  apply (orderly_failIf _ _).bind
  intro _
  exact (orderly_orApdu (orderly_decodeUnsigned _)).bind fun _ => orderly_liftOption _ _

theorem orderly_optionalUnsigned : Orderly remaining allowed (optionalUnsigned present) := by
  apply (orderly_gets present).bind
  intro here
  apply Orderly.ite _ (orderly_pure none)
  apply (orderly_orApdu orderly_decodeTagInfo).bind
  intro tag
  exact (orderly_orApdu (orderly_decodeUnsigned _)).bind fun _ => orderly_pure _

theorem orderly_expectOpeningTag : Orderly remaining allowed (expectOpeningTag tagNumber) := by
  apply (orderly_gets _).bind
  intro opened
  apply (orderly_failIf _ _).bind
  intro _
  exact (orderly_orApdu orderly_readU8).bind fun _ => orderly_pure _

theorem brisk_decodePropertyReference : Brisk remaining allowed (decodePropertyReference present) :=
  (brisk_contextPropertyIdentifier 0).bind fun _ =>
    (orderly_optionalUnsigned _).bind fun _ => orderly_pure _

theorem brisk_accessSpecification {Item Specification : Type} {item : Decode ServiceError Item}
    (make : ObjectId → List Item → Specification) (brisk : Brisk remaining allowed item) :
    Brisk remaining allowed (accessSpecification item make) := by
  apply (brisk_contextObjectIdentifier 0).bind
  intro objectId
  apply (orderly_expectOpeningTag 1).bind
  intro _
  apply (Orderly.collectUntil brisk).bind
  intro items
  exact (orderly_orApdu orderly_readU8).bind fun _ => orderly_pure _

end

variable {allowed : Fault → Prop}

namespace PropertyService

/-- Context tag 2, or any other tag, which is read over. -/
def readPropertyArrayIndex : Decode ServiceError (Option UInt32) := do
  if ← gets isEmpty then pure none
  else do
    let tag ← orApdu decodeTagInfo
    if tag.isContext ∧ tag.tagNumber = 2 then do
      let index ← orApdu (decodeUnsigned tag.len)
      pure (some index)
    else pure none

def readProperty : Decode ServiceError ReadPropertyRequest := do
  let objectIdentifier ← contextObjectIdentifier 0
  let propertyIdentifier ← contextPropertyIdentifier 1
  let propertyArrayIndex ← readPropertyArrayIndex
  pure ⟨objectIdentifier, propertyIdentifier, propertyArrayIndex⟩

def decodeReadProperty (data : Bytes) : Option (Except ServiceError ReadPropertyRequest) :=
  (readProperty (.new data)).returned

/-- Context tag 4 of any length form. -/
def peeksPriority (decoder : ApduDecoder) : Bool :=
  !decoder.isEmpty && match decoder.peek with
    | some byte => byte >>> 4 == 4 && (byte &&& 0x08) != 0
    | none => false

def writeProperty : Decode ServiceError WritePropertyRequest := do
  let objectIdentifier ← contextObjectIdentifier 0
  let propertyIdentifier ← contextPropertyIdentifier 1
  let propertyArrayIndex ← optionalUnsigned (peeks 0x29)
  let propertyValue ← decodePropertyValue
  let priority ← optionalUnsigned peeksPriority
  pure ⟨objectIdentifier, propertyIdentifier, propertyArrayIndex, propertyValue,
    priority.map UInt32.toUInt8⟩

def decodeWriteProperty (data : Bytes) : Option (Except ServiceError WritePropertyRequest) :=
  (writeProperty (.new data)).returned

theorem orderly_readPropertyArrayIndex : Orderly remaining allowed readPropertyArrayIndex := by
  apply (orderly_gets _).bind
  intro empty
  apply Orderly.ite (orderly_pure _)
  apply (orderly_orApdu orderly_decodeTagInfo).bind
  intro tag
  apply Orderly.ite _ (orderly_pure _)
  exact (orderly_orApdu (orderly_decodeUnsigned tag.len)).bind fun _ => orderly_pure _

theorem orderly_readProperty : Orderly remaining allowed readProperty := by
  apply (brisk_contextObjectIdentifier 0).orderly.bind
  intro objectIdentifier
  apply (brisk_contextPropertyIdentifier 1).orderly.bind
  intro propertyIdentifier
  exact orderly_readPropertyArrayIndex.bind fun _ => orderly_pure _

end PropertyService

namespace ReadPropertyMultipleHandler

def peeksIndex (decoder : ApduDecoder) : Bool :=
  !decoder.isEmpty && !decoder.isClosingTag 1 && decoder.peek == some 0x19

def propertyReference : Decode ServiceError PropertyReference :=
  decodePropertyReference peeksIndex

def readAccessSpecification : Decode ServiceError ReadAccessSpecification :=
  accessSpecification propertyReference ReadAccessSpecification.mk

def readPropertyMultiple : Decode ServiceError ReadPropertyMultipleRequest := do
  let specifications ← collectUntil remaining isEmpty readAccessSpecification
  pure ⟨specifications⟩

def decodeRequest (data : Bytes) : Option (Except ServiceError ReadPropertyMultipleRequest) :=
  (readPropertyMultiple (.new data)).returned

theorem brisk_readAccessSpecification : Brisk remaining allowed readAccessSpecification :=
  brisk_accessSpecification _ (brisk_decodePropertyReference _)

theorem orderly_readPropertyMultiple : Orderly remaining allowed readPropertyMultiple :=
  (Orderly.collectUntil brisk_readAccessSpecification).bind fun _ => orderly_pure _

end ReadPropertyMultipleHandler

namespace WritePropertyMultipleHandler

def propertyReference : Decode ServiceError PropertyReference :=
  decodePropertyReference (peeks 0x19)

def propertyValueWrite : Decode ServiceError PropertyValueWrite := do
  let propertyRef ← propertyReference
  let value ← decodePropertyValueFromContext 2
  let priority ← optionalUnsigned (peeks 0x39)
  pure ⟨propertyRef, value, priority.map UInt32.toUInt8⟩

def writeAccessSpecification : Decode ServiceError WriteAccessSpecification :=
  accessSpecification propertyValueWrite WriteAccessSpecification.mk

def writePropertyMultiple : Decode ServiceError WritePropertyMultipleRequest := do
  let specifications ← collectUntil remaining isEmpty writeAccessSpecification
  pure ⟨specifications⟩

def decodeRequest (data : Bytes) : Option (Except ServiceError WritePropertyMultipleRequest) :=
  (writePropertyMultiple (.new data)).returned

end WritePropertyMultipleHandler

end Mabinogion.Bacnet
