import Mabinogion.Bacnet.Property

/-!
# Object traits

What the services ask of an object, with the default methods of the traits, and
the fields and match arms that the object classes have in common. An object
changes in place, so a write gives the object behind it.
-/

namespace Mabinogion.Bacnet

class BACnetObject (Object : Type) where
  objectIdentifier : Object → ObjectId
  objectName : Object → String
  readProperty : Object → PropertyId → ReadResult
  writeProperty : Object → PropertyId → BACnetValue → WriteResult Object
  /-- The default ignores the array index and the priority. -/
  writePropertyAt : Object → PropertyId → BACnetValue → Option UInt32 → Option UInt8 →
      WriteResult Object :=
    fun object propertyId value _arrayIndex _priority => writeProperty object propertyId value

class WritableObject (Object : Type) where
  setPresentValue : Object → BACnetValue → WriteResult Object
  /-- The default ignores the priority. -/
  setPresentValueWithPriority : Object → BACnetValue → UInt8 → WriteResult Object :=
    fun object value _priority => setPresentValue object value
  relinquish : Object → UInt8 → WriteResult Object :=
    fun object _priority => accepted object

def setField {Object Field : Type} (object : Object) (propertyId : PropertyId)
    (reading : Option Field) (put : Field → Object) : WriteResult Object :=
  match reading with
  | some field => accepted (put field)
  | none => refused object (.invalidDataType propertyId)

structure ObjectFields where
  id : ObjectId
  name : String
  description : String
  properties : PropertyStore
  outOfService : Bool

namespace ObjectFields

variable (fields : ObjectFields)

def statusFlags : StatusFlags :=
  ⟨false, false, false, fields.outOfService⟩

def readShared (objectType : ObjectType) : PropertyId → ReadResult
  | .objectIdentifier => .ok (.objectIdentifier fields.id)
  | .objectName => .ok (.characterString fields.name)
  | .objectType => .ok (.enumerated objectType.code.toUInt32)
  | .description => .ok (.characterString fields.description)
  | .statusFlags => .ok (.bitString fields.statusFlags.toBits)
  | .outOfService => .ok (.boolean fields.outOfService)
  | propertyId => fields.properties.read propertyId

def writeShared (propertyId : PropertyId) (value : BACnetValue) : WriteResult ObjectFields :=
  match propertyId with
  | .objectIdentifier | .objectType => refused fields (.readOnly propertyId)
  | .outOfService => setField fields propertyId value.asBool fun flag =>
    { fields with outOfService := flag }
  | _ => accepted { fields with properties := fields.properties.set propertyId value }

end ObjectFields

def within {Part Object : Type} (put : Part → Object)
    (written : WriteResult Part) : WriteResult Object :=
  (written.1, put written.2)

end Mabinogion.Bacnet
