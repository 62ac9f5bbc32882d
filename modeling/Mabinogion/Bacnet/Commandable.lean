import Mabinogion.Bacnet.StandardObjects
import Mabinogion.Library.Transducer

/-!
# Commandable outputs

The present value of an output is a copy that every accepted command has to
renew. The three classes write it on their own, so what a call can do to an
output is said once, and shown of each class.
-/

namespace Mabinogion.Bacnet

open PrioritySlots MultiStateOutput WritableObject

inductive WriteCall where
  | writeProperty (propertyId : PropertyId) (value : BACnetValue)
  | setPresentValue (value : BACnetValue)
  | setPresentValueWithPriority (value : BACnetValue) (priority : UInt8)
  | relinquish (priority : UInt8)

def writeStep {Object : Type} [BACnetObject Object] [WritableObject Object] (object : Object) :
    WriteCall → WriteResult Object
  | .writeProperty propertyId value => BACnetObject.writeProperty object propertyId value
  | .setPresentValue value => setPresentValue object value
  | .setPresentValueWithPriority value priority =>
    setPresentValueWithPriority object value priority
  | .relinquish priority => relinquish object priority

def afterWrites {Object : Type} [BACnetObject Object] [WritableObject Object] (object : Object)
    (calls : List WriteCall) : Object :=
  Transducer.final writeStep object calls

theorem setField_cases {Object Field : Type} (object : Object) (propertyId : PropertyId)
    (reading : Option Field) (put : Field → Object) :
    (∃ error, setField object propertyId reading put = refused object error) ∨
      ∃ written, setField object propertyId reading put = accepted written := by
  cases reading with
  | none => exact .inl ⟨_, rfl⟩
  | some => exact .inr ⟨_, rfl⟩

theorem writeShared_cases (fields : ObjectFields) (propertyId : PropertyId) (value : BACnetValue) :
    (∃ error, fields.writeShared propertyId value = refused fields error) ∨
      ∃ written, fields.writeShared propertyId value = accepted written := by
  unfold ObjectFields.writeShared
  split
  · exact .inl ⟨_, rfl⟩
  · exact .inl ⟨_, rfl⟩
  · exact setField_cases fields _ value.asBool _
  · exact .inr ⟨_, rfl⟩

namespace Output

variable {Value : Type}

/-- What a call can do to an output into which only some values may be commanded. -/
inductive Written (Allowed : Value → Prop) (before : Output Value) :
    WriteResult (Output Value) → Prop
  | refused (error : PropertyError) : Written Allowed before (refused before error)
  | fields (fields : ObjectFields) :
      Written Allowed before (accepted { before with toObjectFields := fields })
  | commanded (slot : Fin 16) (entry : Option Value) (allowed : ∀ value ∈ entry, Allowed value) :
      Written Allowed before (accepted (before.command slot entry))
  | defaulted (value : Value) (allowed : Allowed value) : Written Allowed before
        (accepted (updatePresentValue { before with relinquishDefault := value }))

/-- The present value is the commanded one, and every value that can become it is allowed. -/
structure Settled (Allowed : Value → Prop) (output : Output Value) : Prop where
  present : output.presentValue = active output.priorityArray output.relinquishDefault
  slots : ∀ value, some value ∈ output.priorityArray → Allowed value
  default : Allowed output.relinquishDefault

variable {Allowed : Value → Prop} {before : Output Value}
  {written : WriteResult (Output Value)}

theorem Written.settled (effect : Written Allowed before written)
    (settled : Settled Allowed before) : Settled Allowed written.2 := by
  cases effect with
  | refused => exact settled
  | fields => exact ⟨settled.present, settled.slots, settled.default⟩
  | commanded slot entry allowed =>
    refine ⟨rfl, ?_, settled.default⟩
    intro value member
    have stored : some value ∈ before.priorityArray.set slot entry := member
    rcases Vector.mem_or_eq_of_mem_set stored with old | new
    · exact settled.slots value old
    · exact allowed value new.symm
  | defaulted value allowed => exact ⟨rfl, settled.slots, allowed⟩

theorem Written.unchanged (effect : Written Allowed before written) {error : PropertyError}
    (failed : written.1 = .error error) : written.2 = before := by
  cases effect with
  | refused => rfl
  | fields | commanded | defaulted => cases failed

theorem written_shared (before : Output Value) (propertyId : PropertyId) (value : BACnetValue) :
    Written Allowed before (within (fun fields => { before with toObjectFields := fields })
      (before.writeShared propertyId value)) := by
  rcases writeShared_cases before.toObjectFields propertyId value with ⟨error, same⟩ | ⟨fields, same⟩
  · rw [same]
    exact .refused error
  · rw [same]
    exact .fields fields

theorem written_field {Object Field : Type} {view : Object → Output Value} {object : Object}
    (propertyId : PropertyId) (reading : Option Field) {put : Field → Object}
    (each : ∀ field, Written Allowed (view object) (accepted (view (put field)))) :
    Written Allowed (view object) (within view (setField object propertyId reading put)) := by
  cases reading with
  | none => exact .refused _
  | some field => exact each field

theorem Settled.commanded (settled : Settled Allowed before) :
    Commanded before.priorityArray before.relinquishDefault before.presentValue := by
  rw [settled.present]
  exact commanded_active _ _

theorem Settled.allowed (settled : Settled Allowed before) : Allowed before.presentValue := by
  rw [settled.present]
  exact active_of_forall _ settled.default settled.slots

theorem settled_of_empty (empty : before.priorityArray = Vector.replicate 16 none)
    (present : before.presentValue = before.relinquishDefault)
    (allowed : Allowed before.relinquishDefault) : Settled Allowed before := by
  refine ⟨?_, ?_, allowed⟩
  · rw [present, empty]
    rfl
  · intro value member
    rw [empty, Vector.mem_replicate] at member
    cases member.2

end Output

open Output

variable (object : MultiStateOutput)

theorem AnalogOutput.written (object : AnalogOutput) (call : WriteCall) :
    Written (fun _ => True) object.toOutput (within toOutput (writeStep object call)) := by
  have property (propertyId : PropertyId) (value : BACnetValue) :
      Written (fun _ => True) object.toOutput
        (within toOutput (object.writeProperty propertyId value)) := by
    unfold writeProperty
    split
    · apply written_field
      intro real
      exact .commanded 15 (some real) (fun _ _ => trivial)
    · apply written_field
      intro real
      exact .defaulted real trivial
    · exact written_shared object.toOutput propertyId value
  cases call with
  | writeProperty propertyId value => exact property propertyId value
  | setPresentValue value => exact property .presentValue value
  | setPresentValueWithPriority value priority =>
    change Written _ _ (within toOutput (object.setPresentValueWithPriority value priority))
    rw [setPresentValueWithPriority]
    split
    · exact .refused _
    · split
      · exact .commanded _ _ (fun _ _ => trivial)
      · split
        · exact .commanded _ none (fun _ _ => trivial)
        · exact .refused _
  | relinquish priority =>
    change Written _ _ (within toOutput (object.relinquish priority))
    rw [relinquish]
    split
    · exact .refused _
    · exact .commanded _ none (fun _ _ => trivial)

theorem BinaryOutput.written (object : BinaryOutput) (call : WriteCall) :
    Written (fun _ => True) object.toOutput (within toOutput (writeStep object call)) := by
  have property (propertyId : PropertyId) (value : BACnetValue) :
      Written (fun _ => True) object.toOutput
        (within toOutput (object.writeProperty propertyId value)) := by
    unfold writeProperty
    split
    · apply written_field
      intro active
      exact .commanded 15 (some active) (fun _ _ => trivial)
    · exact written_shared object.toOutput propertyId value
  cases call with
  | writeProperty propertyId value => exact property propertyId value
  | setPresentValue value | setPresentValueWithPriority value => exact property .presentValue value
  | relinquish => exact .fields object.toObjectFields

def MultiStateOutput.InRange (numberOfStates state : UInt32) : Prop :=
  1 ≤ numberOfStates → 1 ≤ state ∧ state ≤ numberOfStates

theorem MultiStateOutput.written (call : WriteCall) :
    Written (InRange object.numberOfStates) object.toOutput
        (within toOutput (writeStep object call)) ∧
      (writeStep object call).2.numberOfStates = object.numberOfStates := by
  have property (propertyId : PropertyId) (value : BACnetValue) :
      Written (InRange object.numberOfStates) object.toOutput
          (within toOutput (object.writeProperty propertyId value)) ∧
        (object.writeProperty propertyId value).2.numberOfStates = object.numberOfStates := by
    unfold writeProperty
    split
    · exact ⟨.refused _, rfl⟩
    · split
      · split
        · rename_i state inside
          refine ⟨.commanded 15 _ ?_, rfl⟩
          intro entry same _
          rw [← Option.some.inj same]
          exact inside
        · exact ⟨.refused _, rfl⟩
      · exact ⟨.refused _, rfl⟩
    · exact ⟨written_shared object.toOutput propertyId value, rfl⟩
  cases call with
  | writeProperty propertyId value => exact property propertyId value
  | setPresentValue value | setPresentValueWithPriority value => exact property .presentValue value
  | relinquish => exact ⟨.fields object.toObjectFields, rfl⟩

variable (instanceNumber : UInt32)

section

/-- The present value is that of the lowest-numbered occupied slot, or the default. -/
def Output.ShowsCommanded {Value : Type} (output : Output Value) : Prop :=
  Commanded output.priorityArray output.relinquishDefault output.presentValue

/-- A call that is answered with an error leaves the output as it is. -/
def RefusalsKeep {Object Value : Type} [BACnetObject Object] [WritableObject Object]
    (view : Object → Output Value) (object : Object) : Prop :=
  ∀ call error, (writeStep object call).1 = .error error →
    view (writeStep object call).2 = view object

variable {Object Value : Type} [BACnetObject Object] [WritableObject Object]

variable {Allowed : Value → Prop} (view : Object → Output Value) (name : String)

theorem settled_afterWrites
    (written : ∀ object call, Written Allowed (view object) (within view (writeStep object call)))
    (object : Object) (calls : List WriteCall) (settled : Settled Allowed (view object)) :
    Settled Allowed (view (afterWrites object calls)) :=
  Transducer.final_invariant writeStep (fun object call => (written object call).settled) object
    calls settled

theorem refusalsKeep_of_written {object : Object}
    (written : ∀ call, Written Allowed (view object) (within view (writeStep object call))) :
    RefusalsKeep view object :=
  fun call _ failed => (written call).unchanged failed

theorem MultiStateOutput.settled_afterWrites (calls : List WriteCall)
    (settled : Settled (InRange object.numberOfStates) object.toOutput) :
    Settled (InRange object.numberOfStates) (afterWrites object calls).toOutput := by
  have preserved (state : MultiStateOutput) (call : WriteCall)
      (inside : state.numberOfStates = object.numberOfStates ∧
        Settled (InRange object.numberOfStates) state.toOutput) :
      (writeStep state call).2.numberOfStates = object.numberOfStates ∧
        Settled (InRange object.numberOfStates) (writeStep state call).2.toOutput := by
    obtain ⟨number, ranged⟩ := inside
    obtain ⟨effect, same⟩ := written state call
    refine ⟨same.trans number, ?_⟩
    rw [← number] at ranged ⊢
    exact effect.settled ranged
  exact (Transducer.final_invariant writeStep preserved object calls ⟨rfl, settled⟩).2

theorem AnalogOutput.settled_new : Settled (fun _ => True) (new instanceNumber name).toOutput :=
  settled_of_empty rfl rfl trivial

theorem BinaryOutput.settled_new : Settled (fun _ => True) (new instanceNumber name).toOutput :=
  settled_of_empty rfl rfl trivial

theorem MultiStateOutput.settled_new (numberOfStates : UInt32) :
    Settled (InRange numberOfStates) (new instanceNumber name numberOfStates).toOutput :=
  settled_of_empty rfl rfl fun several => ⟨UInt32.le_refl 1, several⟩

/-- After any calls on a new output its present value is the commanded one, and a call that is
refused changes nothing. -/
theorem outputs_show_commanded_value (instanceNumber : UInt32) (name : String)
    (numberOfStates : UInt32) (calls : List WriteCall) :
    (afterWrites (AnalogOutput.new instanceNumber name) calls).ShowsCommanded ∧
    (afterWrites (BinaryOutput.new instanceNumber name) calls).ShowsCommanded ∧
    (afterWrites (MultiStateOutput.new instanceNumber name numberOfStates) calls).ShowsCommanded ∧
    MultiStateOutput.InRange numberOfStates
      (afterWrites (MultiStateOutput.new instanceNumber name numberOfStates) calls).presentValue ∧
    RefusalsKeep AnalogOutput.toOutput (afterWrites (AnalogOutput.new instanceNumber name) calls) ∧
    RefusalsKeep BinaryOutput.toOutput (afterWrites (BinaryOutput.new instanceNumber name) calls) ∧
    RefusalsKeep MultiStateOutput.toOutput
      (afterWrites (MultiStateOutput.new instanceNumber name numberOfStates) calls) := by
  have analog := settled_afterWrites AnalogOutput.toOutput AnalogOutput.written
    (AnalogOutput.new instanceNumber name) calls (AnalogOutput.settled_new instanceNumber name)
  have binary := settled_afterWrites BinaryOutput.toOutput BinaryOutput.written
    (BinaryOutput.new instanceNumber name) calls (BinaryOutput.settled_new instanceNumber name)
  have multiState := MultiStateOutput.settled_afterWrites
    (new instanceNumber name numberOfStates) calls
    (settled_new instanceNumber name numberOfStates)
  refine ⟨analog.commanded, binary.commanded, multiState.commanded, multiState.allowed, ?_, ?_, ?_⟩
  · exact refusalsKeep_of_written _ (AnalogOutput.written _)
  · exact refusalsKeep_of_written _ (BinaryOutput.written _)
  · exact refusalsKeep_of_written _ fun call => (written _ call).1

/-- Slot 8 wins over slot 16 until it is relinquished. -/
example : (afterWrites (AnalogOutput.new 1 "AO")
      [.writeProperty .presentValue (.real 1), .setPresentValueWithPriority (.real 2) 8]).presentValue =
        2 ∧
    (afterWrites (AnalogOutput.new 1 "AO")
      [.writeProperty .presentValue (.real 1), .setPresentValueWithPriority (.real 2) 8,
        .relinquish 8]).presentValue = 1 := by
  decide

end

end Mabinogion.Bacnet
