import Mathlib.Data.Nat.Notation

/-!
# Objects, properties and values

Identifiers with their numbers on the wire, and the values of properties. Floating-point
values are bit patterns: the codec never computes with them.
-/

namespace Mabinogion.Bacnet

inductive ObjectType where
  | analogInput | analogOutput | analogValue | binaryInput | binaryOutput | binaryValue
  | calendar | command | device | eventEnrollment | file | group | loop | multiStateInput
  | multiStateOutput | notificationClass | program | schedule | averaging | multiStateValue
  | trendLog | lifeSafetyPoint | lifeSafetyZone | accumulator | pulseConverter | eventLog
  | globalGroup | trendLogMultiple | loadControl | structuredView | accessDoor | timer
  | accessCredential | accessPoint | accessRights | accessUser | accessZone | credentialDataInput
  | networkSecurity | bitStringValue | characterStringValue | datePatternValue | dateValue
  | datetimePatternValue | datetimeValue | integerValue | largeAnalogValue | octetStringValue
  | positiveIntegerValue | timePatternValue | timeValue | notificationForwarder | alertEnrollment
  | channel | lightingOutput | binaryLightingOutput | networkPort | elevatorGroup | escalator
  | lift
deriving DecidableEq

def ObjectType.code : ObjectType → UInt16
  | .analogInput => 0 | .analogOutput => 1 | .analogValue => 2 | .binaryInput => 3
  | .binaryOutput => 4 | .binaryValue => 5 | .calendar => 6 | .command => 7 | .device => 8
  | .eventEnrollment => 9 | .file => 10 | .group => 11 | .loop => 12 | .multiStateInput => 13
  | .multiStateOutput => 14 | .notificationClass => 15 | .program => 16 | .schedule => 17
  | .averaging => 18 | .multiStateValue => 19 | .trendLog => 20 | .lifeSafetyPoint => 21
  | .lifeSafetyZone => 22 | .accumulator => 23 | .pulseConverter => 24 | .eventLog => 25
  | .globalGroup => 26 | .trendLogMultiple => 27 | .loadControl => 28 | .structuredView => 29
  | .accessDoor => 30 | .timer => 31 | .accessCredential => 32 | .accessPoint => 33
  | .accessRights => 34 | .accessUser => 35 | .accessZone => 36 | .credentialDataInput => 37
  | .networkSecurity => 38 | .bitStringValue => 39 | .characterStringValue => 40
  | .datePatternValue => 41 | .dateValue => 42 | .datetimePatternValue => 43
  | .datetimeValue => 44 | .integerValue => 45 | .largeAnalogValue => 46
  | .octetStringValue => 47 | .positiveIntegerValue => 48 | .timePatternValue => 49
  | .timeValue => 50 | .notificationForwarder => 51 | .alertEnrollment => 52 | .channel => 53
  | .lightingOutput => 54 | .binaryLightingOutput => 55 | .networkPort => 56
  | .elevatorGroup => 57 | .escalator => 58 | .lift => 59

def ObjectType.fromU16 : UInt16 → Option ObjectType
  | 0 => some .analogInput | 1 => some .analogOutput | 2 => some .analogValue
  | 3 => some .binaryInput | 4 => some .binaryOutput | 5 => some .binaryValue
  | 6 => some .calendar | 7 => some .command | 8 => some .device | 9 => some .eventEnrollment
  | 10 => some .file | 11 => some .group | 12 => some .loop | 13 => some .multiStateInput
  | 14 => some .multiStateOutput | 15 => some .notificationClass | 16 => some .program
  | 17 => some .schedule | 18 => some .averaging | 19 => some .multiStateValue
  | 20 => some .trendLog | 53 => some .channel | 54 => some .lightingOutput
  | 56 => some .networkPort | _ => none

structure ObjectId where
  objectType : ObjectType
  instanceNumber : UInt32
deriving DecidableEq

def ObjectId.encode (objectId : ObjectId) : UInt32 :=
  (objectId.objectType.code.toUInt32 <<< 22) ||| (objectId.instanceNumber &&& 0x3FFFFF)

def ObjectId.decode (value : UInt32) : Option ObjectId :=
  (ObjectType.fromU16 (value >>> 22).toUInt16).map fun objectType =>
    ⟨objectType, value &&& 0x3FFFFF⟩

inductive PropertyId where
  | ackedTransitions | ackRequired | action | actionText | activeText | activeVtSessions
  | alarmValue | alarmValues | all | allWritesSuccessful | apduSegmentTimeout | apduTimeout
  | applicationSoftwareVersion | archive | bias | changeOfStateCount | changeOfStateTime
  | notificationClass | controlledVariableReference | controlledVariableUnits
  | controlledVariableValue | covIncrement | dateList | daylightSavingsStatus | deadband
  | derivativeConstant | derivativeConstantUnits | description | descriptionOfHalt
  | deviceAddressBinding | deviceType | effectivePeriod | elapsedActiveTime | errorLimit
  | eventEnable | eventState | eventType | exceptionSchedule | faultValues | feedbackValue
  | fileAccessMethod | fileSize | fileType | firmwareRevision | highLimit | inactiveText
  | inProcess | instanceOf | integralConstant | integralConstantUnits | limitEnable
  | listOfGroupMembers | listOfObjectPropertyReferences | localDate | localTime | location
  | lowLimit | manipulatedVariableReference | maximumOutput | maxApduLengthAccepted
  | maxInfoFrames | maxMaster | maxPresValue | minimumOffTime | minimumOnTime | minimumOutput
  | minPresValue | modelName | modificationDate | notifyType | numberOfApduRetries
  | numberOfStates | objectIdentifier | objectList | objectName | objectPropertyReference
  | objectType | optional | outOfService | outputUnits | eventParameters | polarity
  | presentValue | priority | priorityArray | priorityForWriting | processIdentifier
  | programChange | programLocation | programState | proportionalConstant
  | proportionalConstantUnits | protocolObjectTypesSupported | protocolServicesSupported
  | protocolVersion | readOnly | reasonForHalt | recipient | recipientList | reliability
  | relinquishDefault | required | resolution | segmentationSupported | setpoint
  | setpointReference | stateText | statusFlags | systemStatus | timeDelay
  | timeOfActiveTimeReset | timeOfStateCountReset | timeSynchronizationRecipients | units
  | updateInterval | utcOffset | vendorIdentifier | vendorName | vtClassesSupported
  | weeklySchedule | attemptedSamples | averageValue | bufferSize | clientCovIncrement
  | covResubscriptionInterval | eventTimeStamps | logBuffer | logDeviceObjectProperty | enable
  | logInterval | maximumValue | minimumValue | notificationThreshold | previousNotifyRecord
  | protocolRevision | recordsSinceNotification | recordCount | startTime | stopTime
  | stopWhenFull | totalRecordCount | validSamples | windowInterval | windowSamples
  | maximumValueTimestamp | minimumValueTimestamp | varianceValue | activeCovSubscriptions
  | backupFailureTimeout | configurationFiles | databaseRevision | directReading
  | lastRestoreTime | maintenanceRequired | memberOf | mode | operationExpected | setting
  | silenced | trackingValue | zoneMembers | lifeSafetyAlarmValues | maxSegmentsAccepted
  | profileName | autoSlaveDiscovery | manualSlaveAddressBinding | slaveAddressBinding
  | slaveProxyEnable | lastNotifyRecord | scheduleDefault | acceptedModes | adjustValue | count
  | countBeforeChange | countChangeTime | covPeriod | inputReference | limitMonitoringInterval
  | loggingObject | loggingRecord | prescale | pulseRate | scale | scaleFactor | updateTime
  | valueBeforeChange | valueSet | valueChangeTime
deriving DecidableEq

namespace PropertyId

def code : PropertyId → UInt32
  | ackedTransitions => 0 | ackRequired => 1 | action => 2 | actionText => 3 | activeText => 4
  | activeVtSessions => 5 | alarmValue => 6 | alarmValues => 7 | all => 8 | allWritesSuccessful => 9
  | apduSegmentTimeout => 10 | apduTimeout => 11 | applicationSoftwareVersion => 12 | archive => 13
  | bias => 14 | changeOfStateCount => 15 | changeOfStateTime => 16 | notificationClass => 17
  | controlledVariableReference => 19 | controlledVariableUnits => 20
  | controlledVariableValue => 21 | covIncrement => 22 | dateList => 23
  | daylightSavingsStatus => 24 | deadband => 25 | derivativeConstant => 26
  | derivativeConstantUnits => 27 | description => 28 | descriptionOfHalt => 29
  | deviceAddressBinding => 30 | deviceType => 31 | effectivePeriod => 32 | elapsedActiveTime => 33
  | errorLimit => 34 | eventEnable => 35 | eventState => 36 | eventType => 37
  | exceptionSchedule => 38 | faultValues => 39 | feedbackValue => 40 | fileAccessMethod => 41
  | fileSize => 42 | fileType => 43 | firmwareRevision => 44 | highLimit => 45 | inactiveText => 46
  | inProcess => 47 | instanceOf => 48 | integralConstant => 49 | integralConstantUnits => 50
  | limitEnable => 52 | listOfGroupMembers => 53 | listOfObjectPropertyReferences => 54
  | localDate => 56 | localTime => 57 | location => 58 | lowLimit => 59
  | manipulatedVariableReference => 60 | maximumOutput => 61 | maxApduLengthAccepted => 62
  | maxInfoFrames => 63 | maxMaster => 64 | maxPresValue => 65 | minimumOffTime => 66
  | minimumOnTime => 67 | minimumOutput => 68 | minPresValue => 69 | modelName => 70
  | modificationDate => 71 | notifyType => 72 | numberOfApduRetries => 73 | numberOfStates => 74
  | objectIdentifier => 75 | objectList => 76 | objectName => 77 | objectPropertyReference => 78
  | objectType => 79 | optional => 80 | outOfService => 81 | outputUnits => 82
  | eventParameters => 83 | polarity => 84 | presentValue => 85 | priority => 86
  | priorityArray => 87 | priorityForWriting => 88 | processIdentifier => 89 | programChange => 90
  | programLocation => 91 | programState => 92 | proportionalConstant => 93
  | proportionalConstantUnits => 94 | protocolObjectTypesSupported => 96
  | protocolServicesSupported => 97 | protocolVersion => 98 | readOnly => 99 | reasonForHalt => 100
  | recipient => 101 | recipientList => 102 | reliability => 103 | relinquishDefault => 104
  | required => 105 | resolution => 106 | segmentationSupported => 107 | setpoint => 108
  | setpointReference => 109 | stateText => 110 | statusFlags => 111 | systemStatus => 112
  | timeDelay => 113 | timeOfActiveTimeReset => 114 | timeOfStateCountReset => 115
  | timeSynchronizationRecipients => 116 | units => 117 | updateInterval => 118 | utcOffset => 119
  | vendorIdentifier => 120 | vendorName => 121 | vtClassesSupported => 122 | weeklySchedule => 123
  | attemptedSamples => 124 | averageValue => 125 | bufferSize => 126 | clientCovIncrement => 127
  | covResubscriptionInterval => 128 | eventTimeStamps => 130 | logBuffer => 131
  | logDeviceObjectProperty => 132 | enable => 133 | logInterval => 134 | maximumValue => 135
  | minimumValue => 136 | notificationThreshold => 137 | previousNotifyRecord => 138
  | protocolRevision => 139 | recordsSinceNotification => 140 | recordCount => 141
  | startTime => 142 | stopTime => 143 | stopWhenFull => 144 | totalRecordCount => 145
  | validSamples => 146 | windowInterval => 147 | windowSamples => 148
  | maximumValueTimestamp => 149 | minimumValueTimestamp => 150 | varianceValue => 151
  | activeCovSubscriptions => 152 | backupFailureTimeout => 153 | configurationFiles => 154
  | databaseRevision => 155 | directReading => 156 | lastRestoreTime => 157
  | maintenanceRequired => 158 | memberOf => 159 | mode => 160 | operationExpected => 161
  | setting => 162 | silenced => 163 | trackingValue => 164 | zoneMembers => 165
  | lifeSafetyAlarmValues => 166 | maxSegmentsAccepted => 167 | profileName => 168
  | autoSlaveDiscovery => 169 | manualSlaveAddressBinding => 170 | slaveAddressBinding => 171
  | slaveProxyEnable => 172 | lastNotifyRecord => 173 | scheduleDefault => 174
  | acceptedModes => 175 | adjustValue => 176 | count => 177 | countBeforeChange => 178
  | countChangeTime => 179 | covPeriod => 180 | inputReference => 181
  | limitMonitoringInterval => 182 | loggingObject => 183 | loggingRecord => 184 | prescale => 185
  | pulseRate => 186 | scale => 187 | scaleFactor => 188 | updateTime => 189
  | valueBeforeChange => 190 | valueSet => 191 | valueChangeTime => 192

def fromU32 : UInt32 → Option PropertyId
  | 75 => objectIdentifier | 77 => objectName | 79 => objectType | 85 => presentValue
  | 28 => description | 111 => statusFlags | 36 => eventState | 103 => reliability
  | 81 => outOfService | 117 => units | 69 => minPresValue | 65 => maxPresValue | 106 => resolution
  | 22 => covIncrement | 17 => notificationClass | 45 => highLimit | 59 => lowLimit | 25 => deadband
  | 52 => limitEnable | 35 => eventEnable | 72 => notifyType | 130 => eventTimeStamps
  | 87 => priorityArray | 104 => relinquishDefault | 74 => numberOfStates | 110 => stateText
  | 84 => polarity | 4 => activeText | 46 => inactiveText | 112 => systemStatus | 121 => vendorName
  | 120 => vendorIdentifier | 70 => modelName | 44 => firmwareRevision
  | 12 => applicationSoftwareVersion | 98 => protocolVersion | 139 => protocolRevision
  | 97 => protocolServicesSupported | 96 => protocolObjectTypesSupported | 76 => objectList
  | 62 => maxApduLengthAccepted | 107 => segmentationSupported | 11 => apduTimeout
  | 73 => numberOfApduRetries | 155 => databaseRevision | 152 => activeCovSubscriptions
  | 0 => ackedTransitions | 1 => ackRequired | 6 => alarmValue | 7 => alarmValues | 37 => eventType
  | 83 => eventParameters | 113 => timeDelay | 41 => fileAccessMethod | 42 => fileSize
  | 43 => fileType | 71 => modificationDate | 99 => readOnly | 123 => weeklySchedule
  | 124 => attemptedSamples | 125 => averageValue | 126 => bufferSize | 127 => clientCovIncrement
  | 128 => covResubscriptionInterval | 131 => logBuffer | 132 => logDeviceObjectProperty
  | 133 => enable | 134 => logInterval | 135 => maximumValue | 136 => minimumValue
  | 137 => notificationThreshold | 138 => previousNotifyRecord | 140 => recordsSinceNotification
  | 141 => recordCount | 142 => startTime | 143 => stopTime | 144 => stopWhenFull
  | 145 => totalRecordCount | 146 => validSamples | 147 => windowInterval | 148 => windowSamples
  | 149 => maximumValueTimestamp | 150 => minimumValueTimestamp | 151 => varianceValue | _ => none

end PropertyId

structure BACnetDate where
  year : UInt8
  month : UInt8
  day : UInt8
  dayOfWeek : UInt8

structure BACnetTime where
  hour : UInt8
  minute : UInt8
  second : UInt8
  hundredths : UInt8

inductive BACnetValue where
  | null
  | boolean (value : Bool)
  | unsigned (value : UInt32)
  | unsigned64 (value : UInt64)
  | signed (value : Int32)
  | signed64 (value : Int64)
  | real (bits : UInt32)
  | double (bits : UInt64)
  | octetString (bytes : List UInt8)
  | characterString (text : String)
  | bitString (bits : List Bool)
  | enumerated (value : UInt32)
  | date (value : BACnetDate)
  | time (value : BACnetTime)
  | objectIdentifier (value : ObjectId)
  | array (items : List BACnetValue)
  | list (items : List BACnetValue)

end Mabinogion.Bacnet
