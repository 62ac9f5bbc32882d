import Mabinogion.Bacnet.EventObjects
import Mabinogion.Bacnet.FileObject
import Mabinogion.Bacnet.Schedule
import Mabinogion.Bacnet.StandardObjects
import Mabinogion.Bacnet.TrendLogInvariant

/-!
# Objects of any class

The registry holds objects of every class behind one pointer type. Writes may
change what an object shows, never its identifier or its name.
-/

namespace Mabinogion.Bacnet

open BACnetObject

instance : BACnetObject TrendLog where
  objectIdentifier := (·.id)
  objectName := (·.name)
  readProperty := TrendLog.readProperty
  writeProperty := TrendLog.writeProperty

inductive ArcObject where
  | analogInput (object : AnalogInput)
  | analogOutput (object : AnalogOutput)
  | analogValue (object : AnalogValue)
  | binaryInput (object : BinaryInput)
  | binaryOutput (object : BinaryOutput)
  | binaryValue (object : BinaryValue)
  | multiStateInput (object : MultiStateInput)
  | multiStateOutput (object : MultiStateOutput)
  | multiStateValue (object : MultiStateValue)
  | trendLog (object : TrendLog)
  | file (object : FileObject)
  | eventEnrollment (object : EventEnrollment)
  | notificationClass (object : NotificationClass)
  | schedule (object : Schedule)
  | calendar (object : Calendar)

namespace ArcObject

/-- A call through the pointer, with the way back into a pointer. -/
def dispatch {Result : Type} (object : ArcObject) (call : {Object : Type} → [BACnetObject Object] →
    (Object → ArcObject) → Object → Result) : Result :=
  match object with
  | .analogInput object => call .analogInput object
  | .analogOutput object => call .analogOutput object
  | .analogValue object => call .analogValue object
  | .binaryInput object => call .binaryInput object
  | .binaryOutput object => call .binaryOutput object
  | .binaryValue object => call .binaryValue object
  | .multiStateInput object => call .multiStateInput object
  | .multiStateOutput object => call .multiStateOutput object
  | .multiStateValue object => call .multiStateValue object
  | .trendLog object => call .trendLog object
  | .file object => call .file object
  | .eventEnrollment object => call .eventEnrollment object
  | .notificationClass object => call .notificationClass object
  | .schedule object => call .schedule object
  | .calendar object => call .calendar object

def objectIdentifier (object : ArcObject) : ObjectId :=
  object.dispatch fun _ object => BACnetObject.objectIdentifier object

def objectName (object : ArcObject) : String :=
  object.dispatch fun _ object => BACnetObject.objectName object

def readProperty (object : ArcObject) (propertyId : PropertyId) : ReadResult :=
  object.dispatch fun _ object => BACnetObject.readProperty object propertyId

def writeProperty (object : ArcObject) (propertyId : PropertyId) (value : BACnetValue) :
    WriteResult ArcObject :=
  object.dispatch fun pointer object =>
    within pointer (BACnetObject.writeProperty object propertyId value)

instance : BACnetObject ArcObject where
  objectIdentifier
  objectName
  readProperty
  writeProperty

end ArcObject

def identity {Object : Type} [BACnetObject Object] (object : Object) : ObjectId × String :=
  (objectIdentifier object, objectName object)

section

theorem identity_eq_iff {Object : Type} [BACnetObject Object] {object : Object} {id : ObjectId}
    {name : String} : identity object = (id, name) ↔
      objectIdentifier object = id ∧ objectName object = name :=
  Prod.mk_inj

theorem writeShared_identity (fields : ObjectFields) (propertyId : PropertyId)
    (value : BACnetValue) :
    ((fields.writeShared propertyId value).2.id, (fields.writeShared propertyId value).2.name) =
      (fields.id, fields.name) := by
  unfold ObjectFields.writeShared
  split
  · rfl
  · rfl
  · cases value.asBool <;> rfl
  · rfl

/-- No arm of a write reaches the identifier or the name. -/
class Steady (Object : Type) [BACnetObject Object] : Prop where
  identity_write : ∀ (object : Object) (propertyId : PropertyId) (value : BACnetValue),
    identity (writeProperty object propertyId value).2 = identity object := by
    intro object propertyId value
    cases propertyId
    all_goals first
      | rfl
      | cases value <;> rfl

instance : Steady AnalogInput where

instance : Steady AnalogOutput where

instance : Steady AnalogValue where

instance : Steady BinaryInput where

instance : Steady BinaryOutput where

instance : Steady BinaryValue where

instance : Steady MultiStateInput where

instance : Steady FileObject where

instance : Steady Schedule where

instance : Steady Calendar where

-- These arms look into the value before they take it, so the split follows the source's branches.

instance : Steady MultiStateOutput where
  identity_write object propertyId value := by
    change identity (object.writeProperty propertyId value).2 = identity object
    fun_cases object.writeProperty propertyId value
    all_goals first
      | rfl
      | exact writeShared_identity object.toObjectFields propertyId value

instance : Steady MultiStateValue where
  identity_write object propertyId value := by
    change identity (object.writeProperty propertyId value).2 = identity object
    fun_cases object.writeProperty propertyId value
    all_goals first
      | rfl
      | exact writeShared_identity object.toObjectFields propertyId value

instance : Steady TrendLog where
  identity_write object propertyId value := by
    change identity (object.writeProperty propertyId value).2 = identity object
    fun_cases object.writeProperty propertyId value
    all_goals rfl

instance : Steady EventEnrollment where
  identity_write object propertyId value := by
    change identity (object.writeProperty propertyId value).2 = identity object
    fun_cases object.writeProperty propertyId value
    all_goals first
      | rfl
      | exact writeShared_identity object.toObjectFields propertyId value
      | cases value <;> rfl

instance : Steady NotificationClass where
  identity_write object propertyId value := by
    change identity (object.writeProperty propertyId value).2 = identity object
    fun_cases object.writeProperty propertyId value
    all_goals rfl

variable (propertyId : PropertyId) (value : BACnetValue)

theorem ArcObject.identity_writeProperty (object : ArcObject) :
    identity (BACnetObject.writeProperty object propertyId value).2 = identity object := by
  cases object with
  | analogInput object | analogOutput object | analogValue object | binaryInput object
  | binaryOutput object | binaryValue object | multiStateInput object | multiStateOutput object
  | multiStateValue object | trendLog object | file object | eventEnrollment object
  | notificationClass object | schedule object | calendar object =>
    exact Steady.identity_write object propertyId value

end

end Mabinogion.Bacnet
