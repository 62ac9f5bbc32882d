import Mabinogion.Bacnet.ObjectTraits

/-!
# Schedules and calendars

A schedule switches a value by weekday and by exception, and a calendar collects
dates. Here are their data and their properties.
-/

namespace Mabinogion.Bacnet

structure TimeValue where
  time : BACnetTime
  value : BACnetValue

abbrev DailySchedule := List TimeValue

structure DateRange where
  start : BACnetDate
  stop : BACnetDate

inductive CalendarEntry where
  | date (date : BACnetDate)
  | dateRange (range : DateRange)
  | weekNDay (month weekOfMonth dayOfWeek : UInt8)

inductive SpecialEventPeriod where
  | calendarEntry (entry : CalendarEntry)
  | calendarReference (calendar : ObjectId)

structure SpecialEvent where
  period : SpecialEventPeriod
  schedule : DailySchedule
  priority : UInt8

structure ObjectPropertyReference where
  objectId : ObjectId
  propertyId : PropertyId
  arrayIndex : Option UInt32

structure Schedule extends ObjectFields where
  /-- Monday first. -/
  weeklySchedule : Vector DailySchedule 7
  exceptionSchedule : List SpecialEvent
  effectivePeriod : Option DateRange
  scheduleDefault : BACnetValue
  listOfObjectPropertyReferences : List ObjectPropertyReference
  priorityForWriting : UInt8
  reliability : UInt32
  presentValue : BACnetValue

def DateRange.toValue (range : DateRange) : BACnetValue :=
  .array [.date range.start, .date range.stop]

namespace Schedule

def new (instanceNumber : UInt32) (name : String) : Schedule where
  id := ⟨.schedule, instanceNumber⟩
  name
  description := ""
  properties := .ofList []
  outOfService := false
  weeklySchedule := Vector.replicate 7 []
  exceptionSchedule := []
  effectivePeriod := none
  scheduleDefault := .null
  listOfObjectPropertyReferences := []
  priorityForWriting := 16
  reliability := 0
  presentValue := .null

variable (schedule : Schedule)

def statusFlags : StatusFlags :=
  ⟨false, schedule.reliability != 0, false, schedule.outOfService⟩

def dayValue (day : DailySchedule) : BACnetValue :=
  .list (day.map fun entry => .array [.time entry.time, entry.value])

/-- An exception is shown as a 1. -/
def readProperty : PropertyId → ReadResult
  | .presentValue => .ok schedule.presentValue
  | .statusFlags => .ok (.bitString schedule.statusFlags.toBits)
  | .eventState => .ok (.enumerated 0)
  | .reliability => .ok (.enumerated schedule.reliability)
  | .scheduleDefault => .ok schedule.scheduleDefault
  | .priorityForWriting => .ok (.unsigned schedule.priorityForWriting.toUInt32)
  | .effectivePeriod =>
    match schedule.effectivePeriod with
    | some range => .ok range.toValue
    | none => .ok .null
  | .weeklySchedule => .ok (.array (schedule.weeklySchedule.toList.map dayValue))
  | .exceptionSchedule => .ok (.array (schedule.exceptionSchedule.map fun _ => .unsigned 1))
  | .listOfObjectPropertyReferences =>
    .ok (.array (schedule.listOfObjectPropertyReferences.map fun reference =>
      .objectIdentifier reference.objectId))
  | propertyId => schedule.readShared .schedule propertyId

def writtenPriority (value : UInt32) : UInt8 := max (min value.toUInt8 16) 1

/-- OutOfService takes a Boolean only, and the name cannot be written. -/
def writeProperty (propertyId : PropertyId) (value : BACnetValue) : WriteResult Schedule :=
  match propertyId with
  | .objectIdentifier | .objectType | .objectName => refused schedule (.readOnly propertyId)
  | .description =>
    match value with
    | .characterString _ =>
      accepted { schedule with properties := schedule.properties.set propertyId value }
    | _ => refused schedule (.invalidDataType propertyId)
  | .presentValue => accepted { schedule with presentValue := value }
  | .outOfService =>
    match value with
    | .boolean flag => accepted { schedule with outOfService := flag }
    | _ => refused schedule (.invalidDataType propertyId)
  | .scheduleDefault => accepted { schedule with scheduleDefault := value }
  | .priorityForWriting =>
    match value with
    | .unsigned priority =>
      accepted { schedule with priorityForWriting := writtenPriority priority }
    | _ => refused schedule (.invalidDataType propertyId)
  | .reliability =>
    match value with
    | .enumerated reliability => accepted { schedule with reliability }
    | _ => refused schedule (.invalidDataType propertyId)
  | _ => accepted { schedule with properties := schedule.properties.set propertyId value }

instance : BACnetObject Schedule where
  objectIdentifier := (·.id)
  objectName := (·.name)
  readProperty
  writeProperty

end Schedule

structure Calendar where
  id : ObjectId
  name : String
  description : String
  properties : PropertyStore
  dateList : List CalendarEntry
  presentValue : Bool

def CalendarEntry.toValue : CalendarEntry → BACnetValue
  | .date day => .date day
  | .dateRange range => range.toValue
  | .weekNDay month weekOfMonth dayOfWeek => .octetString [month, weekOfMonth, dayOfWeek]

namespace Calendar

def new (instanceNumber : UInt32) (name : String) : Calendar where
  id := ⟨.calendar, instanceNumber⟩
  name
  description := ""
  properties := .ofList []
  dateList := []
  presentValue := false

def readProperty (calendar : Calendar) : PropertyId → ReadResult
  | .objectIdentifier => .ok (.objectIdentifier calendar.id)
  | .objectName => .ok (.characterString calendar.name)
  | .objectType => .ok (.enumerated ObjectType.calendar.code.toUInt32)
  | .description => .ok (.characterString calendar.description)
  | .presentValue => .ok (.boolean calendar.presentValue)
  | .statusFlags => .ok (.bitString [false, false, false, false])
  | .dateList => .ok (.list (calendar.dateList.map CalendarEntry.toValue))
  | propertyId => calendar.properties.read propertyId

def writeProperty (calendar : Calendar) (propertyId : PropertyId) (value : BACnetValue) :
    WriteResult Calendar :=
  match propertyId with
  | .objectIdentifier | .objectType | .objectName => refused calendar (.readOnly propertyId)
  | .description =>
    match value with
    | .characterString _ =>
      accepted { calendar with properties := calendar.properties.set propertyId value }
    | _ => refused calendar (.invalidDataType propertyId)
  | .presentValue =>
    match value with
    | .boolean active => accepted { calendar with presentValue := active }
    | _ => refused calendar (.invalidDataType propertyId)
  | _ => accepted { calendar with properties := calendar.properties.set propertyId value }

instance : BACnetObject Calendar where
  objectIdentifier := (·.id)
  objectName := (·.name)
  readProperty
  writeProperty

end Calendar

end Mabinogion.Bacnet
