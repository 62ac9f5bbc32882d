import Mabinogion.Bacnet.PropertyRequests

/-!
# Octets of property requests

The fields, references and lists of the property services as formats, and the
requests on which WriteProperty and WritePropertyMultiple panic: they are well
formed up to a value that is not.
-/

namespace Mabinogion.Bacnet

open Checked ApduDecoder StreamFormat FaultsOn

variable (tagNumber : UInt8)

def objectIdField : StreamFormat UInt8 ObjectId :=
  tagged (fun tag => tag.isContext = true ∧ tag.tagNumber = tagNumber ∧ tag.len = 4) fun _ =>
    objectIdOctets

theorem accepts_contextObjectIdentifier :
    Accepts between (contextObjectIdentifier tagNumber) (objectIdField tagNumber) :=
  accepts_tagged_checked (by simp [and_assoc]) fun _ => accepts_decodeObjectIdentifier.mapErr _

def propertyField : StreamFormat UInt8 PropertyId :=
  tagged (fun tag => tag.isContext = true ∧ tag.tagNumber = tagNumber) fun tag octets propertyId _ =>
    octets.length = tag.len ∧ PropertyId.fromU32 (decodeUnsignedRaw octets) = some propertyId

theorem accepts_contextPropertyIdentifier :
    Accepts between (contextPropertyIdentifier tagNumber) (propertyField tagNumber) := by
  apply accepts_tagged_checked (by simp)
  intro tag
  apply (((accepts_decodeUnsigned tag.len).mapErr _).bind fun number =>
    accepts_liftOption _ (PropertyId.fromU32 number)).congr
  intro octets propertyId rest
  constructor
  · rintro ⟨octets, _, _, rfl, ⟨length, rfl⟩, rfl, known⟩
    rw [List.append_nil]
    exact ⟨length, known⟩
  · rintro ⟨length, known⟩
    exact ⟨octets, _, [], (List.append_nil _).symm, ⟨length, rfl⟩, rfl, known⟩

/-- A number under a tag, where the next octet is that tag. -/
def optionalField (present : Bytes → Bool) : StreamFormat UInt8 (Option UInt32) :=
  fun octets number rest =>
    if present (octets ++ rest) then
      tagged AnyTag (fun tag octets number rest =>
        ∃ value, unsignedOctets tag.len octets value rest ∧ number = some value) octets number rest
    else nothing none octets number rest

theorem accepts_optionalUnsigned {present : ApduDecoder → Bool} {view : Bytes → Bool}
    (sees : ∀ consumed input, present (between consumed input) = view input) :
    Accepts between (optionalUnsigned present) (optionalField view) :=
  Accepts.ifSeen sees
    (accepts_tagged fun tag => ((accepts_decodeUnsigned tag.len).mapErr _).map some)
    (accepts_pure none)

theorem accepts_expectOpeningTag :
    Accepts between (expectOpeningTag tagNumber) (theOctet (openingByte tagNumber)) :=
  accepts_expected _ _ (isOpeningTag_between tagNumber)

section

variable {Item Specification : Type} {item : Decode ServiceError Item}
variable {format : StreamFormat UInt8 Item} {faulty : Bytes → Prop}
variable (make : ObjectId → List Item → Specification)
variable (accepts : Accepts between item format) (consumes : Consumes remaining item)

/-- An object identifier and the items for it, with the octets around them. -/
def specificationField (make : ObjectId → List Item → Specification)
    (format : StreamFormat UInt8 Item) : StreamFormat UInt8 Specification :=
  (objectIdField 0).followedBy fun objectId => (theOctet (openingByte 1)).followedBy fun _ =>
    (list (starts (closingByte 1)) format).followedBy fun items octets specification _ =>
      ∃ octet, octets = [octet] ∧ specification = make objectId items

def SpecificationFaulty (format : StreamFormat UInt8 Item) (faulty : Bytes → Prop) : Bytes → Prop :=
  (objectIdField 0).Before fun _ => (theOctet (openingByte 1)).Before fun _ =>
    Before (Repeats (starts (closingByte 1)) format) fun _ rest =>
      starts (closingByte 1) rest = false ∧ faulty rest

include accepts consumes

theorem accepts_accessSpecification :
    Accepts between (accessSpecification item make) (specificationField make format) := by
  apply (accepts_contextObjectIdentifier 0).bind
  intro objectId
  apply (accepts_expectOpeningTag 1).bind
  intro _
  apply (Accepts.collectUntil accepts (isClosingTag_between 1) consumes).bind
  intro items
  exact (accepts_readU8.mapErr _).map fun _ => make objectId items

theorem faultsOn_accessSpecification (faults : FaultsOn between item faulty) :
    FaultsOn between (accessSpecification item make) (SpecificationFaulty format faulty) := by
  apply behind (brisk_contextObjectIdentifier 0).orderly.safe (accepts_contextObjectIdentifier 0)
  intro objectId
  apply behind (orderly_expectOpeningTag 1).safe (accepts_expectOpeningTag 1)
  intro _
  apply (collectUntil accepts (isClosingTag_between 1) consumes faults).ahead
  intro items
  exact ((orderly_orApdu orderly_readU8).bind fun _ => orderly_pure _).safe

end

namespace PropertyService

def WritePropertyFaulty : Bytes → Prop :=
  (objectIdField 0).Before fun _ => (propertyField 1).Before fun _ =>
    (optionalField (starts 0x29)).Before fun _ => ValueFaulty 3

theorem faultsOn_writeProperty : FaultsOn between writeProperty WritePropertyFaulty := by
  apply behind (brisk_contextObjectIdentifier 0).orderly.safe (accepts_contextObjectIdentifier 0)
  intro objectIdentifier
  apply behind (brisk_contextPropertyIdentifier 1).orderly.safe
    (accepts_contextPropertyIdentifier 1)
  intro propertyIdentifier
  apply behind (orderly_optionalUnsigned _).safe (accepts_optionalUnsigned (peeks_between 0x29))
  intro propertyArrayIndex
  apply (faultsOn_decodePropertyValueFromContext 3).ahead
  intro propertyValue
  exact ((orderly_optionalUnsigned _).bind fun _ => orderly_pure _).safe

end PropertyService

namespace WritePropertyMultipleHandler

def referenceField : StreamFormat UInt8 PropertyReference :=
  (propertyField 0).followedBy fun propertyId octets reference rest =>
    ∃ arrayIndex, optionalField (starts 0x19) octets arrayIndex rest ∧
      reference = ⟨propertyId, arrayIndex⟩

theorem accepts_propertyReference : Accepts between propertyReference referenceField :=
  (accepts_contextPropertyIdentifier 0).bind fun propertyId =>
    (accepts_optionalUnsigned (peeks_between 0x19)).map (PropertyReference.mk propertyId)

def writeField : StreamFormat UInt8 PropertyValueWrite :=
  referenceField.followedBy fun propertyRef => (valueField 2).followedBy fun value
    octets write rest => ∃ priority, optionalField (starts 0x39) octets priority rest ∧
      write = ⟨propertyRef, value, priority.map UInt32.toUInt8⟩

theorem accepts_propertyValueWrite : Accepts between propertyValueWrite writeField := by
  apply accepts_propertyReference.bind
  intro propertyRef
  apply (accepts_decodePropertyValueFromContext 2).bind
  intro value
  exact (accepts_optionalUnsigned (peeks_between 0x39)).map _

theorem consumes_propertyValueWrite : Consumes remaining propertyValueWrite :=
  consumes_of_accepts accepts_propertyValueWrite fun _ _ => not_followedBy_nil fun _ _ =>
    not_followedBy_nil fun _ _ => not_tagged_nil

theorem accepts_writeAccessSpecification :
    Accepts between writeAccessSpecification (specificationField .mk writeField) :=
  accepts_accessSpecification _ accepts_propertyValueWrite consumes_propertyValueWrite

theorem consumes_writeAccessSpecification : Consumes remaining writeAccessSpecification :=
  consumes_of_accepts accepts_writeAccessSpecification fun _ _ => not_followedBy_nil fun _ _ =>
    not_tagged_nil

def WriteFaulty : Bytes → Prop := referenceField.Before fun _ => ValueFaulty 2

theorem faultsOn_propertyValueWrite : FaultsOn between propertyValueWrite WriteFaulty := by
  apply behind (brisk_decodePropertyReference _).orderly.safe accepts_propertyReference
  intro propertyRef
  apply (faultsOn_decodePropertyValueFromContext 2).ahead
  intro value
  exact ((orderly_optionalUnsigned _).bind fun _ => orderly_pure _).safe

def RequestFaulty : Bytes → Prop :=
  Before (Repeats List.isEmpty (specificationField WriteAccessSpecification.mk writeField))
    fun _ rest => rest.isEmpty = false ∧ SpecificationFaulty writeField WriteFaulty rest

theorem faultsOn_writePropertyMultiple : FaultsOn between writePropertyMultiple RequestFaulty :=
  (collectUntil accepts_writeAccessSpecification isEmpty_between consumes_writeAccessSpecification
    (faultsOn_accessSpecification _ accepts_propertyValueWrite consumes_propertyValueWrite
      faultsOn_propertyValueWrite)).ahead fun _ => safe_pure _

end WritePropertyMultipleHandler

end Mabinogion.Bacnet
