import Mathlib.Data.Nat.Notation

/-!
# APDU constants

The enumerations of the application layer with the numbers they have on the
wire.
-/

namespace Mabinogion.Bacnet

inductive ErrorClass where
  | device | object | property | resources | security | services | vt | communication

def ErrorClass.code : ErrorClass → UInt32
  | .device => 0 | .object => 1 | .property => 2 | .resources => 3 | .security => 4
  | .services => 5 | .vt => 6 | .communication => 7

inductive ErrorCode where
  | other | authenticationFailed | configurationInProgress | deviceBusy
  | dynamicCreationNotSupported | fileAccessDenied | inconsistentParameters
  | inconsistentSelectionCriterion | invalidDataType | invalidFileAccessMethod
  | invalidFileStartPosition | invalidParameterDataType | invalidTimeStamp
  | missingRequiredParameter | noObjectsOfSpecifiedType | noSpaceForObject
  | noSpaceToAddListElement | noSpaceToWriteProperty | noVtSessionsAvailable | propertyIsNotAList
  | objectDeletionNotPermitted | objectIdentifierAlreadyExists | operationalProblem
  | passwordFailure | readAccessDenied | serviceRequestDenied | timeout | unknownObject
  | unknownProperty | unknownVtClass | unknownVtSession | unsupportedObjectType | valueOutOfRange
  | vtSessionAlreadyClosed | vtSessionTerminationFailure | writeAccessDenied
  | characterSetNotSupported | invalidArrayIndex | covSubscriptionFailed | notCovProperty
  | optionalFunctionalityNotSupported | invalidConfigurationData | datatypeNotSupported
  | duplicateName | duplicateObjectId | propertyIsNotAnArray | abortBufferOverflow
  | abortInvalidApduInThisState | abortPreemptedByHigherPriorityTask
  | abortSegmentationNotSupported | abortProprietary | abortOther | invalidTag | networkDown
  | rejectBufferOverflow | rejectInconsistentParameters | rejectInvalidParameterDataType
  | rejectInvalidTag | rejectMissingRequiredParameter | rejectParameterOutOfRange
  | rejectTooManyArguments | rejectUndefinedEnumeration | rejectUnrecognizedService
  | rejectProprietary | rejectOther | unknownDevice | unknownRoute | valueNotInitialized
  | invalidEventState | noAlarmConfigured | logBufferFull | loggedValuePurged
  | noPropertySpecified | notConfiguredForTriggeredLogging | unknownSubscription
  | parameterOutOfRange | listElementNotFound | busy | communicationDisabled

def ErrorCode.code : ErrorCode → UInt32
  | .other => 0 | .authenticationFailed => 1 | .configurationInProgress => 2 | .deviceBusy => 3
  | .dynamicCreationNotSupported => 4 | .fileAccessDenied => 5 | .inconsistentParameters => 7
  | .inconsistentSelectionCriterion => 8 | .invalidDataType => 9 | .invalidFileAccessMethod => 10
  | .invalidFileStartPosition => 11 | .invalidParameterDataType => 13 | .invalidTimeStamp => 14
  | .missingRequiredParameter => 16 | .noObjectsOfSpecifiedType => 17 | .noSpaceForObject => 18
  | .noSpaceToAddListElement => 19 | .noSpaceToWriteProperty => 20 | .noVtSessionsAvailable => 21
  | .propertyIsNotAList => 22 | .objectDeletionNotPermitted => 23
  | .objectIdentifierAlreadyExists => 24 | .operationalProblem => 25 | .passwordFailure => 26
  | .readAccessDenied => 27 | .serviceRequestDenied => 29 | .timeout => 30 | .unknownObject => 31
  | .unknownProperty => 32 | .unknownVtClass => 34 | .unknownVtSession => 35
  | .unsupportedObjectType => 36 | .valueOutOfRange => 37 | .vtSessionAlreadyClosed => 38
  | .vtSessionTerminationFailure => 39 | .writeAccessDenied => 40
  | .characterSetNotSupported => 41 | .invalidArrayIndex => 42 | .covSubscriptionFailed => 43
  | .notCovProperty => 44 | .optionalFunctionalityNotSupported => 45
  | .invalidConfigurationData => 46 | .datatypeNotSupported => 47 | .duplicateName => 48
  | .duplicateObjectId => 49 | .propertyIsNotAnArray => 50 | .abortBufferOverflow => 51
  | .abortInvalidApduInThisState => 52 | .abortPreemptedByHigherPriorityTask => 53
  | .abortSegmentationNotSupported => 54 | .abortProprietary => 55 | .abortOther => 56
  | .invalidTag => 57 | .networkDown => 58 | .rejectBufferOverflow => 59
  | .rejectInconsistentParameters => 60 | .rejectInvalidParameterDataType => 61
  | .rejectInvalidTag => 62 | .rejectMissingRequiredParameter => 63
  | .rejectParameterOutOfRange => 64 | .rejectTooManyArguments => 65
  | .rejectUndefinedEnumeration => 66 | .rejectUnrecognizedService => 67
  | .rejectProprietary => 68 | .rejectOther => 69 | .unknownDevice => 70 | .unknownRoute => 71
  | .valueNotInitialized => 72 | .invalidEventState => 73 | .noAlarmConfigured => 74
  | .logBufferFull => 75 | .loggedValuePurged => 76 | .noPropertySpecified => 77
  | .notConfiguredForTriggeredLogging => 78 | .unknownSubscription => 79
  | .parameterOutOfRange => 80 | .listElementNotFound => 81 | .busy => 82
  | .communicationDisabled => 83

inductive RejectReason where
  | other | bufferOverflow | inconsistentParameters | invalidParameterDataType | invalidTag
  | missingRequiredParameter | parameterOutOfRange | tooManyArguments | undefinedEnumeration
  | unrecognizedService

def RejectReason.code : RejectReason → UInt8
  | .other => 0 | .bufferOverflow => 1 | .inconsistentParameters => 2
  | .invalidParameterDataType => 3 | .invalidTag => 4 | .missingRequiredParameter => 5
  | .parameterOutOfRange => 6 | .tooManyArguments => 7 | .undefinedEnumeration => 8
  | .unrecognizedService => 9

inductive AbortReason where
  | other | bufferOverflow | invalidApduInThisState | preemptedByHigherPriorityTask
  | segmentationNotSupported | securityError | insufficientSecurity | windowSizeOutOfRange
  | applicationExceededReplyTime | outOfResources | tsmTimeout | apduTooLong

def AbortReason.code : AbortReason → UInt8
  | .other => 0 | .bufferOverflow => 1 | .invalidApduInThisState => 2
  | .preemptedByHigherPriorityTask => 3 | .segmentationNotSupported => 4 | .securityError => 5
  | .insufficientSecurity => 6 | .windowSizeOutOfRange => 7 | .applicationExceededReplyTime => 8
  | .outOfResources => 9 | .tsmTimeout => 10 | .apduTooLong => 11

end Mabinogion.Bacnet
