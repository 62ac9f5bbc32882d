import Mabinogion.Bacnet.ObjectTraits

/-!
# Event enrollments and notification classes

The properties of the objects that configure alarms.
-/

namespace Mabinogion.Bacnet

inductive EventType where
  | changeOfBitstring | changeOfState | changeOfValue | commandFailure | floatingLimit | outOfRange
  | changeOfLifeSafety | extended | bufferReady | unsignedRange | accessEvent | doubleOutOfRange
  | signedOutOfRange | unsignedOutOfRange | changeOfCharacterstring | changeOfStatusFlags
  | changeOfReliability | none | changeOfDiscreteValue | changeOfTimer

def EventType.code : EventType → UInt32
  | .changeOfBitstring => 0 | .changeOfState => 1 | .changeOfValue => 2 | .commandFailure => 3
  | .floatingLimit => 4 | .outOfRange => 5 | .changeOfLifeSafety => 8 | .extended => 9
  | .bufferReady => 10 | .unsignedRange => 11 | .accessEvent => 13 | .doubleOutOfRange => 14
  | .signedOutOfRange => 15 | .unsignedOutOfRange => 16 | .changeOfCharacterstring => 17
  | .changeOfStatusFlags => 18 | .changeOfReliability => 19 | .none => 20
  | .changeOfDiscreteValue => 21 | .changeOfTimer => 22

inductive EventState where
  | normal | fault | offnormal | highLimit | lowLimit | lifeSafetyAlarm
deriving DecidableEq

def EventState.code : EventState → UInt32
  | .normal => 0 | .fault => 1 | .offnormal => 2 | .highLimit => 3 | .lowLimit => 4
  | .lifeSafetyAlarm => 5

structure EventTransitionBits where
  toOffnormal : Bool
  toFault : Bool
  toNormal : Bool

namespace EventTransitionBits

def all : EventTransitionBits := ⟨true, true, true⟩

def toBits (bits : EventTransitionBits) : List Bool :=
  [bits.toOffnormal, bits.toFault, bits.toNormal]

/-- A missing bit is not set. -/
def fromBits (bits : List Bool) : EventTransitionBits :=
  ⟨bits.head?.getD false, bits[1]?.getD false, bits[2]?.getD false⟩

end EventTransitionBits

inductive NotifyType where
  | alarm | event | ackNotification

def NotifyType.code : NotifyType → UInt32
  | .alarm => 0 | .event => 1 | .ackNotification => 2

def NotifyType.fromU32 : UInt32 → Option NotifyType
  | 0 => some .alarm | 1 => some .event | 2 => some .ackNotification | _ => none

structure EventEnrollment extends ObjectFields where
  eventType : EventType
  eventState : EventState
  notificationClass : UInt32
  eventEnable : EventTransitionBits
  ackedTransitions : EventTransitionBits
  notifyType : NotifyType
  eventTimestamps : Vector UInt64 3
  timeDelay : UInt32
  highLimit : UInt32
  lowLimit : UInt32
  deadband : UInt32
  limitEnable : EventTransitionBits

namespace EventEnrollment

def new (instanceNumber : UInt32) (name : String) (eventType : EventType) : EventEnrollment where
  id := ⟨.eventEnrollment, instanceNumber⟩
  name
  description := ""
  properties := .ofList [(.reliability, .enumerated 0)]
  outOfService := false
  eventType
  eventState := .normal
  notificationClass := 0
  eventEnable := .all
  ackedTransitions := .all
  notifyType := .alarm
  eventTimestamps := Vector.replicate 3 0
  timeDelay := 0
  highLimit := 0x42C80000
  lowLimit := 0
  deadband := 0x3F800000
  limitEnable := ⟨true, false, true⟩

variable (object : EventEnrollment)

def statusFlags : StatusFlags :=
  ⟨object.eventState != .normal, object.eventState == .fault, false, object.outOfService⟩

def readProperty : PropertyId → ReadResult
  | .eventType => .ok (.enumerated object.eventType.code)
  | .eventState => .ok (.enumerated object.eventState.code)
  | .statusFlags => .ok (.bitString object.statusFlags.toBits)
  | .eventEnable => .ok (.bitString object.eventEnable.toBits)
  | .ackedTransitions => .ok (.bitString object.ackedTransitions.toBits)
  | .notifyType => .ok (.enumerated object.notifyType.code)
  | .notificationClass => .ok (.unsigned object.notificationClass)
  | .eventTimeStamps => .ok (.array (object.eventTimestamps.toList.map .unsigned64))
  | .timeDelay => .ok (.unsigned object.timeDelay)
  | .highLimit => .ok (.real object.highLimit)
  | .lowLimit => .ok (.real object.lowLimit)
  | .deadband => .ok (.real object.deadband)
  | .limitEnable => .ok (.bitString [object.limitEnable.toOffnormal, object.limitEnable.toNormal])
  | propertyId => object.readShared .eventEnrollment propertyId

def writeProperty (propertyId : PropertyId) (value : BACnetValue) : WriteResult EventEnrollment :=
  match propertyId with
  | .eventState | .eventTimeStamps | .ackedTransitions => refused object (.readOnly propertyId)
  | .eventEnable =>
    match value with
    | .bitString bits => accepted { object with eventEnable := .fromBits bits }
    | _ => refused object (.invalidDataType propertyId)
  | .notifyType =>
    match value.asUnsigned with
    | some number =>
      match NotifyType.fromU32 number with
      | some notifyType => accepted { object with notifyType }
      | none => refused object (.valueOutOfRange propertyId)
    | none => refused object (.invalidDataType propertyId)
  | .notificationClass => setField object propertyId value.asUnsigned fun number =>
    { object with notificationClass := number }
  | .timeDelay => setField object propertyId value.asUnsigned fun delay =>
    { object with timeDelay := delay }
  | .highLimit => setField object propertyId value.asReal fun limit =>
    { object with highLimit := limit }
  | .lowLimit => setField object propertyId value.asReal fun limit =>
    { object with lowLimit := limit }
  | .deadband => setField object propertyId value.asReal fun limit =>
    { object with deadband := limit }
  | _ => within (fun fields => { object with toObjectFields := fields })
      (object.writeShared propertyId value)

instance : BACnetObject EventEnrollment where
  objectIdentifier := (·.id)
  objectName := (·.name)
  readProperty
  writeProperty

end EventEnrollment

structure NotificationClass where
  id : ObjectId
  name : String
  description : String
  properties : PropertyStore
  notificationClass : UInt32
  priority : Vector UInt8 3
  ackRequired : EventTransitionBits

namespace NotificationClass

def new (instanceNumber : UInt32) (name : String) : NotificationClass where
  id := ⟨.notificationClass, instanceNumber⟩
  name
  description := ""
  properties := .ofList []
  notificationClass := instanceNumber
  priority := Vector.replicate 3 0
  ackRequired := .all

variable (object : NotificationClass)

def readProperty : PropertyId → ReadResult
  | .objectIdentifier => .ok (.objectIdentifier object.id)
  | .objectName => .ok (.characterString object.name)
  | .objectType => .ok (.enumerated ObjectType.notificationClass.code.toUInt32)
  | .description => .ok (.characterString object.description)
  | .notificationClass => .ok (.unsigned object.notificationClass)
  | .priority => .ok (.array (object.priority.toList.map fun level => .unsigned level.toUInt32))
  | .ackRequired => .ok (.bitString object.ackRequired.toBits)
  | propertyId => object.properties.read propertyId

/-- The levels are cut to a byte. -/
def writtenLevels (first second third : BACnetValue) : Option (Vector UInt8 3) := do
  let toOffnormal ← first.asUnsigned
  let toFault ← second.asUnsigned
  let toNormal ← third.asUnsigned
  pure #v[toOffnormal.toUInt8, toFault.toUInt8, toNormal.toUInt8]

def writeProperty (propertyId : PropertyId) (value : BACnetValue) : WriteResult NotificationClass :=
  match propertyId with
  | .objectIdentifier | .objectType | .notificationClass => refused object (.readOnly propertyId)
  | .priority =>
    match value with
    | .array [first, second, third] =>
      match writtenLevels first second third with
      | some levels => accepted { object with priority := levels }
      | none => refused object (.invalidDataType propertyId)
    | .array _ => refused object (.valueOutOfRange propertyId)
    | _ => refused object (.invalidDataType propertyId)
  | .ackRequired =>
    match value with
    | .bitString bits => accepted { object with ackRequired := .fromBits bits }
    | _ => refused object (.invalidDataType propertyId)
  | _ => accepted { object with properties := object.properties.set propertyId value }

instance : BACnetObject NotificationClass where
  objectIdentifier := (·.id)
  objectName := (·.name)
  readProperty
  writeProperty

end NotificationClass

end Mabinogion.Bacnet
