import Mabinogion.Bacnet.ObjectTraits
import Mabinogion.Library.PrioritySlots

/-!
# Standard objects

Analog, binary and multi-state inputs, outputs and values. What only the
notifications of changes read (`last_cov_value`, `cov_changed`) is left out.
-/

namespace Mabinogion.Bacnet

structure Point (Value : Type) extends ObjectFields where
  presentValue : Value

structure Output (Value : Type) extends ObjectFields where
  presentValue : Value
  relinquishDefault : Value
  priorityArray : Vector (Option Value) 16

def slotOf (priority : UInt8) : Option (Fin 16) :=
  if valid : 1 ≤ priority.toNat ∧ priority.toNat ≤ 16 then some ⟨priority.toNat - 1, by omega⟩
  else none

namespace Output

variable {Value : Type} (output : Output Value)

def updatePresentValue : Output Value :=
  { output with
    presentValue := PrioritySlots.active output.priorityArray output.relinquishDefault }

def command (slot : Fin 16) (entry : Option Value) : Output Value :=
  updatePresentValue { output with priorityArray := output.priorityArray.set slot entry }

def priorityArrayValue (encode : Value → BACnetValue) : BACnetValue :=
  .array (output.priorityArray.toList.map fun
    | some value => encode value
    | none => .null)

end Output

def binaryPresentValue (active : Bool) : BACnetValue := .enumerated (if active then 1 else 0)

def defaultCovIncrement : UInt32 := 0x3DCCCCCD

structure AnalogInput extends Point UInt32 where
  covIncrement : UInt32

structure AnalogOutput extends Output UInt32 where
  covIncrement : UInt32

structure AnalogValue extends Point UInt32 where
  covIncrement : UInt32

namespace AnalogInput

def new (instanceNumber : UInt32) (name : String) : AnalogInput where
  id := ⟨.analogInput, instanceNumber⟩
  name
  description := ""
  properties := .ofList [(.units, .enumerated 95), (.eventState, .enumerated 0),
    (.reliability, .enumerated 0)]
  outOfService := false
  presentValue := 0
  covIncrement := defaultCovIncrement

def readProperty (object : AnalogInput) : PropertyId → ReadResult
  | .presentValue => .ok (.real object.presentValue)
  | .covIncrement => .ok (.real object.covIncrement)
  | propertyId => object.readShared .analogInput propertyId

def writeProperty (object : AnalogInput) (propertyId : PropertyId) (value : BACnetValue) :
    WriteResult AnalogInput :=
  match propertyId with
  | .covIncrement => setField object propertyId value.asReal fun increment =>
    { object with covIncrement := increment }
  | _ => within (fun fields => { object with toObjectFields := fields })
      (object.writeShared propertyId value)

instance : BACnetObject AnalogInput where
  objectIdentifier := (·.id)
  objectName := (·.name)
  readProperty
  writeProperty

end AnalogInput

namespace AnalogOutput

def new (instanceNumber : UInt32) (name : String) : AnalogOutput where
  id := ⟨.analogOutput, instanceNumber⟩
  name
  description := ""
  properties := .ofList [(.units, .enumerated 95), (.eventState, .enumerated 0)]
  outOfService := false
  presentValue := 0
  relinquishDefault := 0
  priorityArray := Vector.replicate 16 none
  covIncrement := defaultCovIncrement

variable (object : AnalogOutput)

def readProperty : PropertyId → ReadResult
  | .presentValue => .ok (.real object.presentValue)
  | .relinquishDefault => .ok (.real object.relinquishDefault)
  | .priorityArray => .ok (object.priorityArrayValue .real)
  | .covIncrement => .ok (.real object.covIncrement)
  | propertyId => object.readShared .analogOutput propertyId

/-- A present value goes to slot 16. -/
def writeProperty (propertyId : PropertyId) (value : BACnetValue) : WriteResult AnalogOutput :=
  match propertyId with
  | .presentValue => setField object propertyId value.asReal fun real =>
    { object with toOutput := object.command 15 (some real) }
  | .relinquishDefault => setField object propertyId value.asReal fun real =>
    { object with
      toOutput := Output.updatePresentValue { object.toOutput with relinquishDefault := real } }
  | _ => within (fun fields => { object with toObjectFields := fields })
      (object.writeShared propertyId value)

def setPresentValue (value : BACnetValue) : WriteResult AnalogOutput :=
  object.writeProperty .presentValue value

def setPresentValueWithPriority (value : BACnetValue) (priority : UInt8) :
    WriteResult AnalogOutput :=
  match slotOf priority with
  | none => refused object (.valueOutOfRange .presentValue)
  | some slot =>
    match value.asReal with
    | some real => accepted { object with toOutput := object.command slot (some real) }
    | none =>
      if value.isNull then accepted { object with toOutput := object.command slot none }
      else refused object (.invalidDataType .presentValue)

def relinquish (priority : UInt8) : WriteResult AnalogOutput :=
  match slotOf priority with
  | none => refused object (.valueOutOfRange .priorityArray)
  | some slot => accepted { object with toOutput := object.command slot none }

instance : BACnetObject AnalogOutput where
  objectIdentifier := (·.id)
  objectName := (·.name)
  readProperty
  writeProperty

instance : WritableObject AnalogOutput where
  setPresentValue
  setPresentValueWithPriority
  relinquish

end AnalogOutput

namespace AnalogValue

def new (instanceNumber : UInt32) (name : String) : AnalogValue where
  id := ⟨.analogValue, instanceNumber⟩
  name
  description := ""
  properties := .ofList [(.units, .enumerated 95), (.eventState, .enumerated 0)]
  outOfService := false
  presentValue := 0
  covIncrement := defaultCovIncrement

def readProperty (object : AnalogValue) : PropertyId → ReadResult
  | .presentValue => .ok (.real object.presentValue)
  | .covIncrement => .ok (.real object.covIncrement)
  | propertyId => object.readShared .analogValue propertyId

def writeProperty (object : AnalogValue) (propertyId : PropertyId) (value : BACnetValue) :
    WriteResult AnalogValue :=
  match propertyId with
  | .presentValue => setField object propertyId value.asReal fun real =>
    { object with presentValue := real }
  | _ => within (fun fields => { object with toObjectFields := fields })
      (object.writeShared propertyId value)

instance : BACnetObject AnalogValue where
  objectIdentifier := (·.id)
  objectName := (·.name)
  readProperty
  writeProperty

end AnalogValue

structure BinaryInput extends Point Bool

structure BinaryOutput extends Output Bool

structure BinaryValue extends Point Bool

namespace BinaryInput

def new (instanceNumber : UInt32) (name : String) : BinaryInput where
  id := ⟨.binaryInput, instanceNumber⟩
  name
  description := ""
  properties := .ofList [(.polarity, .enumerated 0), (.eventState, .enumerated 0),
    (.activeText, .characterString "Active"), (.inactiveText, .characterString "Inactive")]
  outOfService := false
  presentValue := false

def readProperty (object : BinaryInput) : PropertyId → ReadResult
  | .presentValue => .ok (binaryPresentValue object.presentValue)
  | propertyId => object.readShared .binaryInput propertyId

def writeProperty (object : BinaryInput) (propertyId : PropertyId) (value : BACnetValue) :
    WriteResult BinaryInput :=
  match propertyId with
  | .presentValue => refused object (.readOnly propertyId)
  | _ => within (fun fields => { object with toObjectFields := fields })
      (object.writeShared propertyId value)

instance : BACnetObject BinaryInput where
  objectIdentifier := (·.id)
  objectName := (·.name)
  readProperty
  writeProperty

end BinaryInput

namespace BinaryOutput

def new (instanceNumber : UInt32) (name : String) : BinaryOutput where
  id := ⟨.binaryOutput, instanceNumber⟩
  name
  description := ""
  properties := .ofList [(.polarity, .enumerated 0), (.eventState, .enumerated 0),
    (.activeText, .characterString "On"), (.inactiveText, .characterString "Off")]
  outOfService := false
  presentValue := false
  relinquishDefault := false
  priorityArray := Vector.replicate 16 none

def readProperty (object : BinaryOutput) : PropertyId → ReadResult
  | .presentValue => .ok (binaryPresentValue object.presentValue)
  | .relinquishDefault => .ok (binaryPresentValue object.relinquishDefault)
  | .priorityArray => .ok (object.priorityArrayValue binaryPresentValue)
  | propertyId => object.readShared .binaryOutput propertyId

/-- The source matches on the value itself, as `as_bool` does. -/
def writeProperty (object : BinaryOutput) (propertyId : PropertyId) (value : BACnetValue) :
    WriteResult BinaryOutput :=
  match propertyId with
  | .presentValue => setField object propertyId value.asBool fun active =>
    { object with toOutput := object.command 15 (some active) }
  | _ => within (fun fields => { object with toObjectFields := fields })
      (object.writeShared propertyId value)

instance : BACnetObject BinaryOutput where
  objectIdentifier := (·.id)
  objectName := (·.name)
  readProperty
  writeProperty

instance : WritableObject BinaryOutput where
  setPresentValue object value := object.writeProperty .presentValue value

end BinaryOutput

namespace BinaryValue

def new (instanceNumber : UInt32) (name : String) : BinaryValue where
  id := ⟨.binaryValue, instanceNumber⟩
  name
  description := ""
  properties := .ofList [(.eventState, .enumerated 0), (.activeText, .characterString "Active"),
    (.inactiveText, .characterString "Inactive")]
  outOfService := false
  presentValue := false

def readProperty (object : BinaryValue) : PropertyId → ReadResult
  | .presentValue => .ok (binaryPresentValue object.presentValue)
  | propertyId => object.readShared .binaryValue propertyId

def writeProperty (object : BinaryValue) (propertyId : PropertyId) (value : BACnetValue) :
    WriteResult BinaryValue :=
  match propertyId with
  | .presentValue => setField object propertyId value.asBool fun active =>
    { object with presentValue := active }
  | _ => within (fun fields => { object with toObjectFields := fields })
      (object.writeShared propertyId value)

instance : BACnetObject BinaryValue where
  objectIdentifier := (·.id)
  objectName := (·.name)
  readProperty
  writeProperty

end BinaryValue

structure MultiStateInput extends Point UInt32 where
  numberOfStates : UInt32

structure MultiStateOutput extends Output UInt32 where
  numberOfStates : UInt32

structure MultiStateValue extends Point UInt32 where
  numberOfStates : UInt32

/-- States count from 1. -/
def multiStateProperties (numberOfStates : UInt32) : PropertyStore :=
  .ofList [(.numberOfStates, .unsigned numberOfStates), (.eventState, .enumerated 0)]

namespace MultiStateInput

def new (instanceNumber : UInt32) (name : String) (numberOfStates : UInt32) : MultiStateInput where
  id := ⟨.multiStateInput, instanceNumber⟩
  name
  description := ""
  properties := multiStateProperties numberOfStates
  outOfService := false
  presentValue := 1
  numberOfStates

def readProperty (object : MultiStateInput) : PropertyId → ReadResult
  | .presentValue => .ok (.unsigned object.presentValue)
  | .numberOfStates => .ok (.unsigned object.numberOfStates)
  | propertyId => object.readShared .multiStateInput propertyId

def writeProperty (object : MultiStateInput) (propertyId : PropertyId) (value : BACnetValue) :
    WriteResult MultiStateInput :=
  match propertyId with
  | .presentValue | .numberOfStates => refused object (.readOnly propertyId)
  | _ => within (fun fields => { object with toObjectFields := fields })
      (object.writeShared propertyId value)

instance : BACnetObject MultiStateInput where
  objectIdentifier := (·.id)
  objectName := (·.name)
  readProperty
  writeProperty

end MultiStateInput

namespace MultiStateOutput

def new (instanceNumber : UInt32) (name : String) (numberOfStates : UInt32) : MultiStateOutput where
  id := ⟨.multiStateOutput, instanceNumber⟩
  name
  description := ""
  properties := multiStateProperties numberOfStates
  outOfService := false
  presentValue := 1
  relinquishDefault := 1
  priorityArray := Vector.replicate 16 none
  numberOfStates

def readProperty (object : MultiStateOutput) : PropertyId → ReadResult
  | .presentValue => .ok (.unsigned object.presentValue)
  | .numberOfStates => .ok (.unsigned object.numberOfStates)
  | .relinquishDefault => .ok (.unsigned object.relinquishDefault)
  | .priorityArray => .ok (object.priorityArrayValue .unsigned)
  | propertyId => object.readShared .multiStateOutput propertyId

def writeProperty (object : MultiStateOutput) (propertyId : PropertyId) (value : BACnetValue) :
    WriteResult MultiStateOutput :=
  match propertyId with
  | .numberOfStates => refused object (.readOnly propertyId)
  | .presentValue =>
    match value.asUnsigned with
    | some state =>
      if 1 ≤ state ∧ state ≤ object.numberOfStates then
        accepted { object with toOutput := object.command 15 (some state) }
      else refused object (.valueOutOfRange propertyId)
    | none => refused object (.invalidDataType propertyId)
  | _ => within (fun fields => { object with toObjectFields := fields })
      (object.writeShared propertyId value)

instance : BACnetObject MultiStateOutput where
  objectIdentifier := (·.id)
  objectName := (·.name)
  readProperty
  writeProperty

instance : WritableObject MultiStateOutput where
  setPresentValue object value := object.writeProperty .presentValue value

end MultiStateOutput

namespace MultiStateValue

def new (instanceNumber : UInt32) (name : String) (numberOfStates : UInt32) : MultiStateValue where
  id := ⟨.multiStateValue, instanceNumber⟩
  name
  description := ""
  properties := multiStateProperties numberOfStates
  outOfService := false
  presentValue := 1
  numberOfStates

def readProperty (object : MultiStateValue) : PropertyId → ReadResult
  | .presentValue => .ok (.unsigned object.presentValue)
  | .numberOfStates => .ok (.unsigned object.numberOfStates)
  | propertyId => object.readShared .multiStateValue propertyId

def writeProperty (object : MultiStateValue) (propertyId : PropertyId) (value : BACnetValue) :
    WriteResult MultiStateValue :=
  match propertyId with
  | .numberOfStates => refused object (.readOnly propertyId)
  | .presentValue =>
    match value.asUnsigned with
    | some state =>
      if 1 ≤ state ∧ state ≤ object.numberOfStates then
        accepted { object with presentValue := state }
      else refused object (.valueOutOfRange propertyId)
    | none => refused object (.invalidDataType propertyId)
  | _ => within (fun fields => { object with toObjectFields := fields })
      (object.writeShared propertyId value)

instance : BACnetObject MultiStateValue where
  objectIdentifier := (·.id)
  objectName := (·.name)
  readProperty
  writeProperty

end MultiStateValue

end Mabinogion.Bacnet
