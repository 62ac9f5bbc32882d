import Mabinogion.Library.Checked
import Mathlib.Data.UInt
import Mathlib.Algebra.Order.Ring.Int

/-!
# Built-in types

The values that the services exchange. A `DateTime` is in nanoseconds from 1970, within the
years of its type. Floating-point numbers are bit patterns, and the clock is an argument.
-/

namespace Mabinogion.Opcua

inductive OpcUaError where
  | config (message : String)
  | nodeNotFound (nodeId : String)
  | invalidNodeId (message : String)
  | server (message : String)
  | connection (message : String)
  | subscription (message : String)
  | security (message : String)
  | invalidState (message : String)
  | writeError (message : String)
  | codec (message : String)
  | protocolError (message : String)
  | serviceNotSupported (serviceId : String)
  | badSecureChannelId (id : UInt32)
  | badSequenceNumber (expected actual : UInt32)
  | messageTooLarge (size max : Nat)

inductive DataTypeId where
  | null
  | boolean
  | sByte
  | byte
  | int16
  | uInt16
  | int32
  | uInt32
  | int64
  | uInt64
  | float
  | double
  | string
  | dateTime
  | guid
  | byteString
  | xmlElement
  | nodeId
  | expandedNodeId
  | statusCode
  | qualifiedName
  | localizedText
  | extensionObject
  | dataValue
  | variant
  | diagnosticInfo

namespace DataTypeId

def code : DataTypeId → UInt8
  | null => 0
  | boolean => 1
  | sByte => 2
  | byte => 3
  | int16 => 4
  | uInt16 => 5
  | int32 => 6
  | uInt32 => 7
  | int64 => 8
  | uInt64 => 9
  | float => 10
  | double => 11
  | string => 12
  | dateTime => 13
  | guid => 14
  | byteString => 15
  | xmlElement => 16
  | nodeId => 17
  | expandedNodeId => 18
  | statusCode => 19
  | qualifiedName => 20
  | localizedText => 21
  | extensionObject => 22
  | dataValue => 23
  | variant => 24
  | diagnosticInfo => 25

def fromU8 (value : UInt8) : Option DataTypeId :=
  match value.toNat with
  | 0 => some null
  | 1 => some boolean
  | 2 => some sByte
  | 3 => some byte
  | 4 => some int16
  | 5 => some uInt16
  | 6 => some int32
  | 7 => some uInt32
  | 8 => some int64
  | 9 => some uInt64
  | 10 => some float
  | 11 => some double
  | 12 => some string
  | 13 => some dateTime
  | 14 => some guid
  | 15 => some byteString
  | 16 => some xmlElement
  | 17 => some nodeId
  | 18 => some expandedNodeId
  | 19 => some statusCode
  | 20 => some qualifiedName
  | 21 => some localizedText
  | 22 => some extensionObject
  | 23 => some dataValue
  | 24 => some variant
  | 25 => some diagnosticInfo
  | _ => none

end DataTypeId

structure Uuid where
  d1 : UInt32
  d2 : UInt16
  d3 : UInt16
  d4 : Vector UInt8 8
deriving DecidableEq

/-- The first nanosecond of the year -262143. -/
def minNanos : Int := -8334601228800 * 1000000000

/-- The last nanosecond of the year 262142. -/
def maxNanos : Int := 8210266876799 * 1000000000 + 999999999

structure DateTime where
  nanos : Int
  inRange : minNanos ≤ nanos ∧ nanos ≤ maxNanos
deriving DecidableEq

namespace DateTime

theorem unixEpoch_inRange : minNanos ≤ 0 ∧ 0 ≤ maxNanos := by
  decide

def unixEpoch : DateTime := ⟨0, unixEpoch_inRange⟩

def timestampNanosOpt (self : DateTime) : Option Int :=
  if -2 ^ 63 ≤ self.nanos ∧ self.nanos < 2 ^ 63 then some self.nanos else none

def timestampOpt (secs : Int) (nsecs : UInt32) : Option DateTime :=
  if nsecs.toNat < 1000000000 then
    if inside : minNanos ≤ secs * 1000000000 + nsecs.toNat ∧
        secs * 1000000000 + nsecs.toNat ≤ maxNanos then
      some ⟨secs * 1000000000 + nsecs.toNat, inside⟩
    else none
  else none

end DateTime

inductive NodeIdType where
  | numeric (value : UInt32)
  | string (value : String)
  | guid (value : Uuid)
  | byteString (value : List UInt8)
deriving DecidableEq

structure NodeId where
  namespaceIndex : UInt16
  identifier : NodeIdType
deriving DecidableEq

namespace NodeId

variable (namespaceIndex : UInt16)

def numeric (identifier : UInt32) : NodeId :=
  ⟨namespaceIndex, .numeric identifier⟩

def string (identifier : String) : NodeId :=
  ⟨namespaceIndex, .string identifier⟩

def guid (identifier : Uuid) : NodeId :=
  ⟨namespaceIndex, .guid identifier⟩

def byteString (identifier : List UInt8) : NodeId :=
  ⟨namespaceIndex, .byteString identifier⟩

end NodeId

inductive VariantScalarValue where
  | null
  | boolean (value : Bool)
  | sByte (value : Int8)
  | byte (value : UInt8)
  | int16 (value : Int16)
  | uInt16 (value : UInt16)
  | int32 (value : Int32)
  | uInt32 (value : UInt32)
  | int64 (value : Int64)
  | uInt64 (value : UInt64)
  | float (bits : UInt32)
  | double (bits : UInt64)
  | string (value : String)
  | dateTime (value : DateTime)
  | guid (value : Uuid)
  | byteString (value : List UInt8)
  | xmlElement (value : String)
  | nodeId (value : NodeId)
  | statusCode (value : UInt32)
deriving DecidableEq

inductive VariantArrayValue where
  | boolean (values : List Bool)
  | sByte (values : List Int8)
  | byte (values : List UInt8)
  | int16 (values : List Int16)
  | uInt16 (values : List UInt16)
  | int32 (values : List Int32)
  | uInt32 (values : List UInt32)
  | int64 (values : List Int64)
  | uInt64 (values : List UInt64)
  | float (values : List UInt32)
  | double (values : List UInt64)
  | string (values : List String)
  | dateTime (values : List DateTime)
  | guid (values : List Uuid)
  | byteString (values : List (List UInt8))
  | nodeId (values : List NodeId)
  | statusCode (values : List UInt32)
deriving DecidableEq

inductive Variant where
  | boolean (value : Bool)
  | sByte (value : Int8)
  | byte (value : UInt8)
  | int16 (value : Int16)
  | uInt16 (value : UInt16)
  | int32 (value : Int32)
  | uInt32 (value : UInt32)
  | int64 (value : Int64)
  | uInt64 (value : UInt64)
  | float (bits : UInt32)
  | double (bits : UInt64)
  | string (value : String)
  | dateTime (value : DateTime)
  | guid (value : Uuid)
  | byteString (value : List UInt8)
  | nodeId (value : NodeId)
  | statusCode (value : UInt32)
  | null
  | scalar (value : VariantScalarValue)
  | array (values : VariantArrayValue)
deriving DecidableEq

def Variant.uint32Array (values : List UInt32) : Variant := .array (.uInt32 values)

structure StatusCode where
  raw : UInt32
deriving DecidableEq

namespace StatusCode

def good : StatusCode := ⟨0x00000000⟩

def badSubscriptionIdInvalid : StatusCode := ⟨0x80280000⟩

def badNodeIdUnknown : StatusCode := ⟨0x80340000⟩

def badAttributeIdInvalid : StatusCode := ⟨0x80350000⟩

end StatusCode

structure DataValue where
  value : Option Variant
  status : StatusCode
  sourceTimestamp : Option DateTime
  sourcePicoseconds : UInt16
  serverTimestamp : Option DateTime
  serverPicoseconds : UInt16
deriving DecidableEq

namespace DataValue

variable (now : DateTime)

def withStatus (value : Variant) (status : StatusCode) : DataValue where
  value := some value
  status
  sourceTimestamp := some now
  sourcePicoseconds := 0
  serverTimestamp := some now
  serverPicoseconds := 0

def new (value : Variant) : DataValue := withStatus now value .good

def null : DataValue where
  value := none
  status := .good
  sourceTimestamp := none
  sourcePicoseconds := 0
  serverTimestamp := none
  serverPicoseconds := 0

def bad (status : StatusCode) : DataValue where
  value := none
  status
  sourceTimestamp := none
  sourcePicoseconds := 0
  serverTimestamp := some now
  serverPicoseconds := 0

end DataValue

structure QualifiedName where
  namespaceIndex : UInt16
  name : String

def QualifiedName.display (self : QualifiedName) : String :=
  if self.namespaceIndex = 0 then self.name
  else toString self.namespaceIndex.toNat ++ ":" ++ self.name

structure LocalizedText where
  locale : String
  text : String

def LocalizedText.display (self : LocalizedText) : String := self.text

inductive AttributeId where
  | nodeId
  | nodeClass
  | browseName
  | displayName
  | description
  | writeMask
  | userWriteMask
  | isAbstract
  | symmetric
  | inverseName
  | containsNoLoops
  | eventNotifier
  | value
  | dataType
  | valueRank
  | arrayDimensions
  | accessLevel
  | userAccessLevel
  | minimumSamplingInterval
  | historizing
  | executable
  | userExecutable
  | dataTypeDefinition
  | rolePermissions
  | userRolePermissions
  | accessRestrictions
  | accessLevelEx
deriving DecidableEq

end Mabinogion.Opcua
