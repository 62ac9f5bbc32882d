import Mabinogion.Bacnet.Property
import Mabinogion.Library.Transducer

/-!
# Trend logs

A trend log keeps the newest records of a property in a buffer of fixed size.
Every record gets the next number of a counter that no purge resets. When the
buffer is full, the log either evicts its oldest record or stops.
-/

namespace Mabinogion.Bacnet

/-- `value as usize` of an `i32`, in a build without overflow checks. -/
def asUsize (value : Int32) : Nat := (value.toInt % 2 ^ 64).toNat

structure LogTimestamp where
  date : BACnetDate
  time : BACnetTime

/-- Year, month, day, hour, minute, second and hundredths, packed in this order. -/
def timestampSortable (date : BACnetDate) (time : BACnetTime) : UInt64 :=
  (date.year.toUInt64 <<< 33) ||| (date.month.toUInt64 <<< 29) ||| (date.day.toUInt64 <<< 24) |||
    (time.hour.toUInt64 <<< 19) ||| (time.minute.toUInt64 <<< 13) |||
      (time.second.toUInt64 <<< 7) ||| time.hundredths.toUInt64

def LogTimestamp.toSortable (timestamp : LogTimestamp) : UInt64 :=
  timestampSortable timestamp.date timestamp.time

inductive LogDatum where
  | realValue (bits : UInt32)
  | enumeratedValue (value : UInt32)
  | unsignedValue (value : UInt32)
  | signedValue (value : Int32)
  | booleanValue (value : Bool)
  | bitstringValue (bits : List Bool)
  | nullValue
  | failure (errorClass errorCode : UInt16)
  | timeChange (bits : UInt32)

def LogDatum.toBacnetValue : LogDatum → BACnetValue
  | realValue bits => .real bits
  | enumeratedValue value => .enumerated value
  | unsignedValue value => .unsigned value
  | signedValue value => .signed value
  | booleanValue value => .boolean value
  | bitstringValue bits => .bitString bits
  | nullValue => .null
  | failure _ _ => .null
  | timeChange bits => .real bits

structure LogRecord where
  timestamp : LogTimestamp
  datum : LogDatum
  statusFlags : UInt8
  sequenceNumber : UInt64

/-- The element of the LogBuffer property, which has no sequence number. -/
def LogRecord.toValue (record : LogRecord) : BACnetValue :=
  .list [.date record.timestamp.date, .time record.timestamp.time, record.datum.toBacnetValue,
    .unsigned record.statusFlags.toUInt32]

structure DeviceObjectPropertyReference where
  objectId : ObjectId
  propertyId : PropertyId
  arrayIndex : Option UInt32
  deviceId : Option ObjectId

/-- The buffer stands with its oldest record first. -/
structure TrendLog where
  id : ObjectId
  name : String
  description : String
  properties : PropertyStore
  enabled : Bool
  stopWhenFull : Bool
  logDeviceObjectProperty : Option DeviceObjectPropertyReference
  logInterval : UInt32
  buffer : List LogRecord
  bufferSize : UInt64
  totalRecordCount : UInt64
  notificationThreshold : UInt32
  recordsSinceNotification : UInt64

namespace TrendLog

def new (instanceNumber : UInt32) (name : String) (bufferSize : UInt64) : TrendLog where
  id := ⟨.trendLog, instanceNumber⟩
  name
  description := ""
  properties := .ofList [(.eventState, .enumerated 0), (.reliability, .enumerated 0)]
  enabled := false
  stopWhenFull := false
  logDeviceObjectProperty := none
  logInterval := 0
  buffer := []
  bufferSize
  totalRecordCount := 0
  notificationThreshold := 0
  recordsSinceNotification := 0

variable (log : TrendLog)

def setEnabled (enabled : Bool) : TrendLog := { log with enabled }

def isFull : Bool := log.bufferSize.toNat ≤ log.buffer.length

variable (datum : LogDatum)

def nextRecord (timestamp : LogTimestamp) (statusFlags : UInt8) : LogRecord :=
  ⟨timestamp, datum, statusFlags, log.totalRecordCount⟩

/-- `fetch_add` and `push_back` behind an eviction, if there was one. -/
def store (kept : List LogRecord) (record : LogRecord) : TrendLog :=
  { log with
    buffer := kept ++ [record]
    totalRecordCount := log.totalRecordCount + 1
    recordsSinceNotification := log.recordsSinceNotification + 1 }

def addRecordWithStatus (timestamp : LogTimestamp) (statusFlags : UInt8) : TrendLog :=
  if !log.enabled then log
  else if log.isFull then
    if log.stopWhenFull then log
    else log.store log.buffer.tail (log.nextRecord datum timestamp statusFlags)
  else log.store log.buffer (log.nextRecord datum timestamp statusFlags)

def addRecordWithTimestamp (timestamp : LogTimestamp) : TrendLog :=
  log.addRecordWithStatus datum timestamp 0

def resetNotificationCounter : TrendLog :=
  { log with recordsSinceNotification := 0 }

def purge : TrendLog :=
  { log with buffer := [], recordsSinceNotification := 0 }

def statusFlags (_log : TrendLog) : StatusFlags := ⟨false, false, false, false⟩

def readProperty (propertyId : PropertyId) : ReadResult :=
  match propertyId with
  | .objectIdentifier => .ok (.objectIdentifier log.id)
  | .objectName => .ok (.characterString log.name)
  | .objectType => .ok (.enumerated ObjectType.trendLog.code.toUInt32)
  | .description => .ok (.characterString log.description)
  | .enable => .ok (.boolean log.enabled)
  | .stopWhenFull => .ok (.boolean log.stopWhenFull)
  | .bufferSize => .ok (.unsigned log.bufferSize.toUInt32)
  | .recordCount => .ok (.unsigned (UInt32.ofNat log.buffer.length))
  | .totalRecordCount => .ok (.unsigned log.totalRecordCount.toUInt32)
  | .logInterval => .ok (.unsigned log.logInterval)
  | .statusFlags => .ok (.bitString log.statusFlags.toBits)
  | .notificationThreshold => .ok (.unsigned log.notificationThreshold)
  | .recordsSinceNotification => .ok (.unsigned log.recordsSinceNotification.toUInt32)
  | .logBuffer => .ok (.array (log.buffer.map LogRecord.toValue))
  | .logDeviceObjectProperty =>
    match log.logDeviceObjectProperty with
    | some reference => .ok (.objectIdentifier reference.objectId)
    | none => .ok .null
  | other => log.properties.read other

def writeProperty (propertyId : PropertyId) (value : BACnetValue) : WriteResult TrendLog :=
  match propertyId with
  | .objectIdentifier => refused log (.readOnly .objectIdentifier)
  | .objectType => refused log (.readOnly .objectType)
  | .objectName => refused log (.readOnly .objectName)
  | .enable =>
    match value.asBool with
    | some enabled => accepted { log with enabled }
    | none => refused log (.invalidDataType .enable)
  | .stopWhenFull =>
    match value.asBool with
    | some stop => accepted { log with stopWhenFull := stop }
    | none => refused log (.invalidDataType .stopWhenFull)
  | .logInterval =>
    match value.asUnsigned with
    | some interval => accepted { log with logInterval := interval }
    | none => refused log (.invalidDataType .logInterval)
  | .notificationThreshold =>
    match value.asUnsigned with
    | some threshold => accepted { log with notificationThreshold := threshold }
    | none => refused log (.invalidDataType .notificationThreshold)
  | .recordCount =>
    match value.asUnsigned with
    | some count =>
      if count = 0 then accepted log.purge
      else refused log (.valueOutOfRange .recordCount)
    | none => refused log (.invalidDataType .recordCount)
  | .description =>
    accepted { log with properties := log.properties.set .description value }
  | other => refused log (.writeAccessDenied other)

/-- The records from a threshold on, or those up to it. A negative `count` reads backwards. -/
def readMatching (records : List LogRecord) (onward backward : LogRecord → Bool) (count : Int32) :
    List LogRecord × UInt32 × Bool :=
  if records.isEmpty || count == 0 then ([], 0, false)
  else if 0 < count then
    let matching := records.filter onward
    let selected := matching.take (asUsize count)
    (selected, UInt32.ofNat selected.length, selected.length < matching.length)
  else
    let matching := records.filter backward
    let take := min (asUsize (-count)) matching.length
    let start := matching.length - take
    let selected := matching.drop start
    (selected, UInt32.ofNat selected.length, 0 < start)

def readRangeBySequence (startSeq : UInt64) (count : Int32) : List LogRecord × UInt32 × Bool :=
  readMatching log.buffer (startSeq ≤ ·.sequenceNumber) (·.sequenceNumber ≤ startSeq) count

def readRangeByTime (startTime : LogTimestamp) (count : Int32) : List LogRecord × UInt32 × Bool :=
  readMatching log.buffer (startTime.toSortable ≤ ·.timestamp.toSortable)
    (·.timestamp.toSortable ≤ startTime.toSortable) count

/-- The index counts from 1. A backward range is returned newest first. -/
def readRangeByPosition (startIndex count : Int32) : List LogRecord × UInt32 × Bool :=
  let length := log.buffer.length
  if length == 0 || count == 0 then ([], 0, false)
  else if 0 < count then
    let start := min (asUsize (max startIndex 1 - 1)) length
    let take := min (asUsize count) (length - start)
    let records := (log.buffer.drop start).take take
    (records, UInt32.ofNat records.length, start + take < length)
  else
    let stop := min (asUsize (max startIndex 1)) length
    let take := min (asUsize (-count)) stop
    let start := stop - take
    let records := (log.buffer.drop start).take take
    (records.reverse, UInt32.ofNat records.length, start + take < length)

inductive Call where
  | setEnabled (enabled : Bool)
  | addRecordWithTimestamp (datum : LogDatum) (timestamp : LogTimestamp)
  | addRecordWithStatus (datum : LogDatum) (timestamp : LogTimestamp) (statusFlags : UInt8)
  | resetNotificationCounter
  | purge
  | writeProperty (propertyId : PropertyId) (value : BACnetValue)

/-- The calls without a result answer `ok`. -/
def step : Call → WriteResult TrendLog
  | .setEnabled enabled => accepted (log.setEnabled enabled)
  | .addRecordWithTimestamp datum timestamp =>
    accepted (log.addRecordWithTimestamp datum timestamp)
  | .addRecordWithStatus datum timestamp statusFlags =>
    accepted (log.addRecordWithStatus datum timestamp statusFlags)
  | .resetNotificationCounter => accepted log.resetNotificationCounter
  | .purge => accepted log.purge
  | .writeProperty propertyId value => log.writeProperty propertyId value

end TrendLog

end Mabinogion.Bacnet
