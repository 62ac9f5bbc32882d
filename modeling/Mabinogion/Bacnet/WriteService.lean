import Mabinogion.Bacnet.ArcObject
import Mabinogion.Bacnet.PropertyService
import Mabinogion.Bacnet.RegistryInvariant
import Mabinogion.Bacnet.Server

/-!
# Writing properties

WriteProperty and WritePropertyMultiple on what their decoders return. The
registry hands out a pointer to the object, which changes in place.
-/

namespace Mabinogion.Bacnet

open BACnetObject Server WriteAccessSpecification Transducer Function PropertyService
open WritePropertyMultipleHandler
open PrioritySlots

def propertyErrorToBacnet : PropertyError → ErrorClass × ErrorCode
  | .notFound _ => (.property, .unknownProperty)
  | .writeAccessDenied _ => (.property, .writeAccessDenied)
  | .invalidDataType _ => (.property, .invalidDataType)
  | .valueOutOfRange _ => (.property, .valueOutOfRange)
  | .readOnly _ => (.property, .writeAccessDenied)
  | .invalidArrayIndex _ => (.property, .invalidArrayIndex)

def ServiceError.result : ServiceError → ServiceResult
  | .invalidRequest => .error .services .invalidParameterDataType
  | .unknownProperty _ => .error .services .unknownProperty
  | _ => .error .services .other

/-- An object that changed behind its pointer. -/
def ObjectRegistry.store {Object : Type} (registry : ObjectRegistry Object) (id : ObjectId)
    (object : Object) : ObjectRegistry Object :=
  { registry with objects := registry.objects.insert id object }

variable {Object : Type} [BACnetObject Object]

def PropertyService.handleWriteProperty (request : WritePropertyRequest)
    (objects : ObjectRegistry Object) :
    Except (ErrorClass × ErrorCode) Unit × ObjectRegistry Object :=
  match objects.get request.objectIdentifier with
  | none => (.error (.object, .unknownObject), objects)
  | some object =>
    let written := writePropertyAt object request.propertyIdentifier request.propertyValue
      request.propertyArrayIndex request.priority
    (written.1.mapError propertyErrorToBacnet, objects.store request.objectIdentifier written.2)

def WritePropertyHandler.handle (decoded : Except ServiceError WritePropertyRequest)
    (objects : ObjectRegistry Object) : ServiceResult × ObjectRegistry Object :=
  match decoded with
  | .error error => (error.result, objects)
  | .ok request =>
    match handleWriteProperty request objects with
    | (.ok (), after) => (.simpleAck, after)
    | (.error (errorClass, errorCode), after) => (.error errorClass errorCode, after)

structure WriteAccessResultItem where
  propertyRef : PropertyReference
  error : Option (ErrorClass × ErrorCode)

structure WriteAccessResult where
  objectId : ObjectId
  errors : List WriteAccessResultItem

namespace WritePropertyMultipleHandler

variable (write : PropertyValueWrite)

def unknownObjectItem : WriteAccessResultItem :=
  ⟨write.propertyRef, some (.object, .unknownObject)⟩

def failedItem : Except PropertyError Unit → List WriteAccessResultItem
  | .ok () => []
  | .error error => [⟨write.propertyRef, some (propertyErrorToBacnet error)⟩]

/-- The errors of the writes to one object, and the object behind them. -/
def writeValues (object : Object) : List PropertyValueWrite → List WriteAccessResultItem × Object
  | [] => ([], object)
  | write :: writes =>
    let written := writePropertyAt object write.propertyRef.propertyId write.value
      write.propertyRef.arrayIndex write.priority
    let rest := writeValues written.2 writes
    (failedItem write written.1 ++ rest.1, rest.2)

def writeObjectProperties (spec : WriteAccessSpecification) (objects : ObjectRegistry Object) :
    WriteAccessResult × ObjectRegistry Object :=
  match objects.get spec.objectId with
  | none => (⟨spec.objectId, spec.propertyValues.map unknownObjectItem⟩, objects)
  | some object =>
    let written := writeValues object spec.propertyValues
    (⟨spec.objectId, written.1⟩, objects.store spec.objectId written.2)

def executeAll (objects : ObjectRegistry Object) :
    List WriteAccessSpecification → List WriteAccessResult × ObjectRegistry Object
  | [] => ([], objects)
  | spec :: specs =>
    let written := writeObjectProperties spec objects
    let rest := executeAll written.2 specs
    (written.1 :: rest.1, rest.2)

def execute (request : WritePropertyMultipleRequest) (objects : ObjectRegistry Object) :
    List WriteAccessResult × ObjectRegistry Object :=
  executeAll objects request.writeAccessSpecifications

variable (results : List WriteAccessResult)

def allSuccessful : Bool :=
  results.all fun result => result.errors.isEmpty

/-- The first failure stands for all of them. -/
def firstError : ErrorClass × ErrorCode :=
  ((results.flatMap WriteAccessResult.errors).findSome? WriteAccessResultItem.error).getD
    (.property, .writeAccessDenied)

def handle (decoded : Except ServiceError WritePropertyMultipleRequest)
    (objects : ObjectRegistry Object) : ServiceResult × ObjectRegistry Object :=
  match decoded with
  | .error error => (error.result, objects)
  | .ok request =>
    let executed := execute request objects
    if allSuccessful executed.1 then (.simpleAck, executed.2)
    else (.error (firstError executed.1).1 (firstError executed.1).2, executed.2)

end WritePropertyMultipleHandler

section

open ObjectRegistry

variable (registered : Registered Object) (request : WritePropertyRequest)

def writeIn : Except (ErrorClass × ErrorCode) Unit × Registered Object :=
  match registered request.objectIdentifier with
  | none => (.error (.object, .unknownObject), registered)
  | some object =>
    let written := writePropertyAt object request.propertyIdentifier request.propertyValue
      request.propertyArrayIndex request.priority
    (written.1.mapError propertyErrorToBacnet,
      update registered request.objectIdentifier (some written.2))

variable (objects : ObjectRegistry Object)

omit [BACnetObject Object] in
theorem get_store (id : ObjectId) (object : Object) :
    (objects.store id object).get = update objects.get id (some object) := by
  funext other
  rw [ObjectRegistry.get, store, KeyedTable.lookup_insert_eq, update_apply]
  rfl

theorem handleWriteProperty_refines : (handleWriteProperty request objects).1 =
      (writeIn objects.get request).1 ∧ (handleWriteProperty request objects).2.get =
      (writeIn objects.get request).2 := by
  unfold handleWriteProperty writeIn
  cases objects.get request.objectIdentifier with
  | none => exact ⟨rfl, rfl⟩
  | some => exact ⟨rfl, get_store objects _ _⟩

theorem WritePropertyHandler.handle_refines :
    (WritePropertyHandler.handle (.ok request) objects).2.get = (writeIn objects.get request).2 ∧
      ((WritePropertyHandler.handle (.ok request) objects).1 = .simpleAck ↔
        (writeIn objects.get request).1 = .ok ()) := by
  have written := handleWriteProperty_refines request objects
  rw [← written.1, ← written.2]
  simp only [WritePropertyHandler.handle]
  cases handleWriteProperty request objects with
  | mk result =>
    cases result with
    | ok => exact ⟨rfl, iff_of_true rfl rfl⟩
    | error => exact ⟨rfl, iff_of_false (fun equal => nomatch equal) (fun equal => nomatch equal)⟩

def WriteAccessSpecification.writes (spec : WriteAccessSpecification) : List WritePropertyRequest :=
  spec.propertyValues.map fun write =>
    ⟨spec.objectId, write.propertyRef.propertyId, write.propertyRef.arrayIndex, write.value,
      write.priority⟩

def WritePropertyMultipleRequest.writes (request : WritePropertyMultipleRequest) :
    List WritePropertyRequest :=
  request.writeAccessSpecifications.flatMap WriteAccessSpecification.writes

def Succeeds (requests : List WritePropertyRequest) : Prop :=
  ∀ result ∈ outputs writeIn registered requests, result = .ok ()

theorem succeeds_append (first second : List WritePropertyRequest) :
    Succeeds registered (first ++ second) ↔
      Succeeds registered first ∧ Succeeds (final writeIn registered first) second := by
  rw [Succeeds, outputs_append, List.forall_mem_append]
  rfl

namespace WritePropertyMultipleHandler

theorem failedItem_eq_nil (write : PropertyValueWrite) (result : Except PropertyError Unit) :
    failedItem write result = [] ↔ result.mapError propertyErrorToBacnet = .ok () := by
  cases result with
  | ok => exact iff_of_true rfl rfl
  | error => exact iff_of_false (List.cons_ne_nil _ _) (fun equal => nomatch equal)

theorem writeValues_refines (id : ObjectId) (values : List PropertyValueWrite)
    (registered : Registered Object) (object : Object) (present : registered id = some object) :
    final writeIn registered (writes ⟨id, values⟩) =
      update registered id (some (writeValues object values).2) ∧
      ((writeValues object values).1 = [] ↔ Succeeds registered (writes ⟨id, values⟩)) := by
  induction values generalizing registered object with
  | nil =>
    constructor
    · exact (update_eq_self_iff.mpr present.symm).symm
    · exact iff_of_true rfl (fun _ listed => nomatch listed)
  | cons write values ih =>
    let written := writePropertyAt object write.propertyRef.propertyId write.value
      write.propertyRef.arrayIndex write.priority
    have first : writeIn registered ⟨id, write.propertyRef.propertyId,
        write.propertyRef.arrayIndex, write.value, write.priority⟩ =
        (written.1.mapError propertyErrorToBacnet, update registered id (some written.2)) := by
      simp only [writeIn, present, written]
    have rest := ih (update registered id (some written.2)) written.2 (update_self ..)
    constructor
    · rw [writes, List.map_cons, final_cons, first]
      rw [writes, update_idem] at rest
      exact rest.1
    · rw [writes, List.map_cons, Succeeds, outputs_cons, List.forall_mem_cons, first, writeValues,
        List.append_eq_nil_iff, failedItem_eq_nil, rest.2]
      rfl

theorem unknown_refines {id : ObjectId} (values : List PropertyValueWrite)
    {registered : Registered Object} (absent : registered id = none) :
    final writeIn registered (writes ⟨id, values⟩) =
      registered ∧ (values = [] ↔ Succeeds registered (writes ⟨id, values⟩)) := by
  have fails (write : PropertyValueWrite) : writeIn registered ⟨id, write.propertyRef.propertyId,
      write.propertyRef.arrayIndex, write.value, write.priority⟩ =
      (.error (.object, .unknownObject), registered) := by
    simp only [writeIn, absent]
  induction values with
  | nil => exact ⟨rfl, iff_of_true rfl (fun _ listed => nomatch listed)⟩
  | cons write values ih =>
    rw [writes, List.map_cons, final_cons, fails, Succeeds, outputs_cons, List.forall_mem_cons,
      fails]
    exact ⟨ih.1, iff_of_false (List.cons_ne_nil _ _) (fun succeeds => nomatch succeeds.1)⟩

theorem writeObjectProperties_refines (spec : WriteAccessSpecification)
    (objects : ObjectRegistry Object) :
    (writeObjectProperties spec objects).2.get = final writeIn objects.get spec.writes ∧
      ((writeObjectProperties spec objects).1.errors = [] ↔ Succeeds objects.get spec.writes) := by
  unfold writeObjectProperties
  split
  · rename_i absent
    have unknown := unknown_refines spec.propertyValues absent
    rw [List.map_eq_nil_iff]
    exact ⟨unknown.1.symm, unknown.2⟩
  · rename_i object present
    have written := writeValues_refines spec.objectId spec.propertyValues objects.get object present
    rw [get_store]
    exact ⟨written.1.symm, written.2⟩

theorem executeAll_refines (specs : List WriteAccessSpecification)
    (objects : ObjectRegistry Object) :
    (executeAll objects specs).2.get = final writeIn objects.get (specs.flatMap writes) ∧
      (allSuccessful (executeAll objects specs).1 = true ↔
        Succeeds objects.get (specs.flatMap writes)) := by
  induction specs generalizing objects with
  | nil => exact ⟨rfl, iff_of_true rfl (fun _ listed => nomatch listed)⟩
  | cons spec specs ih =>
    have first := writeObjectProperties_refines spec objects
    have rest := ih (writeObjectProperties spec objects).2
    rw [first.1] at rest
    rw [List.flatMap_cons, final_append, succeeds_append]
    constructor
    · exact rest.1
    · rw [← first.2, ← rest.2, executeAll, allSuccessful, List.all_cons, Bool.and_eq_true,
        List.isEmpty_iff]
      rfl

/-- The single writes one after the other, acknowledged exactly if all of them succeed. -/
theorem handle_refines (request : WritePropertyMultipleRequest) (objects : ObjectRegistry Object) :
    (handle (.ok request) objects).2.get = final writeIn objects.get request.writes ∧
      ((handle (.ok request) objects).1 = .simpleAck ↔ Succeeds objects.get request.writes) := by
  have executed : (execute request objects).2.get = final writeIn objects.get request.writes ∧
      (allSuccessful (execute request objects).1 = true ↔ Succeeds objects.get request.writes) :=
    executeAll_refines request.writeAccessSpecifications objects
  rw [← executed.1, ← executed.2]
  by_cases successful : allSuccessful (execute request objects).1 = true
  · rw [show handle (.ok request) objects = (.simpleAck, _) from if_pos successful]
    exact ⟨rfl, iff_of_true rfl successful⟩
  · rw [show handle (.ok request) objects = (.error _ _, _) from if_neg successful]
    exact ⟨rfl, iff_of_false (fun equal => nomatch equal) successful⟩

end WritePropertyMultipleHandler

end

section

open ObjectRegistry

/-- The answers of the two services to a write of the present value at a priority. -/
def priorityWrites (objects : ObjectRegistry ArcObject) (id : ObjectId) (arrayIndex : Option UInt32)
    (value : BACnetValue) (priority : UInt8) : List (ServiceResult × ObjectRegistry ArcObject) :=
  [WritePropertyHandler.handle (.ok ⟨id, .presentValue, arrayIndex, value, some priority⟩) objects,
    handle
      (.ok ⟨[⟨id, [⟨⟨.presentValue, arrayIndex⟩, value, some priority⟩]⟩]⟩) objects]

variable (answered : ServiceResult × ObjectRegistry ArcObject)

/-- The write is acknowledged, puts the entry into the slot and leaves the other slots. -/
def CommandsSlot (id : ObjectId)
    (output : AnalogOutput) (slot : Fin 16) (entry : Option UInt32) : Prop :=
  answered.1 = .simpleAck ∧ ∃ left, answered.2.get id = some (.analogOutput left) ∧
    left.priorityArray.get = update output.priorityArray.get slot entry

/-- The write has the result of the call on the object. -/
def AgreesWithCall (id : ObjectId) (called : WriteResult AnalogOutput) : Prop :=
  (answered.1 = .simpleAck ↔ called.1 = .ok ()) ∧ answered.2.get id = some (.analogOutput called.2)

variable {objects : ObjectRegistry ArcObject} {id : ObjectId} {output : AnalogOutput}

/-- Both services write without the priority. -/
theorem priorityWrites_eq (present : objects.get id = some (.analogOutput output))
    {arrayIndex : Option UInt32} {value : BACnetValue} {priority : UInt8} :
    ∀ answered ∈ priorityWrites objects id arrayIndex value priority,
      AgreesWithCall answered id (output.writeProperty .presentValue value) := by
  let request : WritePropertyRequest := ⟨id, .presentValue, arrayIndex, value, some priority⟩
  let written := output.writeProperty .presentValue value
  have alone : writeIn objects.get request = (written.1.mapError propertyErrorToBacnet,
      update objects.get id (some (.analogOutput written.2))) := by
    simp only [writeIn, request, present]
    rfl
  have success : written.1.mapError propertyErrorToBacnet = .ok () ↔ written.1 = .ok () := by
    cases written.1 with
    | ok => exact iff_of_true rfl rfl
    | error => exact iff_of_false (fun equal => nomatch equal) (fun equal => nomatch equal)
  have agrees (answered : ServiceResult × ObjectRegistry ArcObject)
      (effect : answered.2.get = (writeIn objects.get request).2 ∧
        (answered.1 = .simpleAck ↔ (writeIn objects.get request).1 = .ok ())) :
      AgreesWithCall answered id written := by
    rw [alone, success] at effect
    rw [AgreesWithCall, effect.1, effect.2]
    exact ⟨Iff.rfl, update_self ..⟩
  intro answered listed
  rw [priorityWrites, List.mem_cons, List.mem_singleton] at listed
  rcases listed with rfl | rfl
  · exact agrees _ (WritePropertyHandler.handle_refines request objects)
  · have several := handle_refines
      ⟨[⟨id, [⟨⟨.presentValue, arrayIndex⟩, value, some priority⟩]⟩]⟩ objects
    exact agrees _ ⟨several.1, several.2.trans List.forall_mem_singleton⟩

theorem slotOf_eq {priority : UInt8} {slot : Fin 16} (named : priority.toNat = slot + 1) :
    slotOf priority = some slot := by
  have valid : 1 ≤ priority.toNat ∧ priority.toNat ≤ 16 := by omega
  rw [slotOf, dif_pos valid, Option.some.injEq, Fin.ext_iff]
  simp only [named, Nat.add_sub_cancel]

theorem command_eq_iff (slot other : Fin 16) (entry : Option UInt32) :
    output.command slot entry = output.command other entry ↔
      output.priorityArray.set slot entry slot.isLt =
        output.priorityArray.set other entry other.isLt := by
  constructor
  · intro same
    exact congrArg Output.priorityArray same
  · intro same
    rw [Output.command, Output.command, same]

/-- Commanded at the priority exactly if this is the lowest one, or the value stands in both slots
already. A null value relinquishes no slot. -/
theorem priority_write_iff (objects : ObjectRegistry ArcObject) (id : ObjectId)
    (output : AnalogOutput) (present : objects.get id = some (.analogOutput output))
    (priority : UInt8) (slot : Fin 16) (named : priority.toNat = slot + 1)
    (arrayIndex : Option UInt32) (real : UInt32) :
    (∀ answered ∈ priorityWrites objects id arrayIndex (.real real) priority,
      (CommandsSlot answered id output slot (some real) ↔
        slot = 15 ∨ output.priorityArray[slot] = some real ∧
          output.priorityArray[(15 : Fin 16)] = some real) ∧
      (AgreesWithCall answered id (output.setPresentValueWithPriority (.real real) priority) ↔
        slot = 15 ∨ output.priorityArray[slot] = some real ∧
          output.priorityArray[(15 : Fin 16)] = some real)) ∧
    ∀ answered ∈ priorityWrites objects id arrayIndex .null priority,
      ¬CommandsSlot answered id output slot none ∧
      ¬AgreesWithCall answered id (output.setPresentValueWithPriority .null priority) ∧
      ((∃ left, answered.2.get id = some (.analogOutput left) ∧ left.priorityArray[slot] = none) ↔
        output.priorityArray[slot] = none) := by
  constructor
  · intro answered listed
    have effect := priorityWrites_eq present answered listed
    have acknowledged : answered.1 = .simpleAck := effect.1.mpr rfl
    have commanded : answered.2.get id =
        some (.analogOutput { output with toOutput := output.command 15 (some real) }) := effect.2
    have called : output.setPresentValueWithPriority (.real real) priority =
        accepted { output with toOutput := output.command slot (some real) } := by
      rw [AnalogOutput.setPresentValueWithPriority, slotOf_eq named]
      rfl
    rw [← set_eq_set_iff, CommandsSlot, AgreesWithCall, commanded, called]
    constructor
    · constructor
      · intro commands
        obtain ⟨left, same, slots⟩ := commands.2
        cases same
        exact ((get_eq_update_iff ..).mp slots).symm
      · intro same
        exact ⟨acknowledged, _, rfl, (get_eq_update_iff ..).mpr same.symm⟩
    · rw [← command_eq_iff]
      constructor
      · intro agrees
        have same := ArcObject.analogOutput.inj (Option.some.inj agrees.2)
        exact (congrArg AnalogOutput.toOutput same).symm
      · intro same
        rw [same]
        exact ⟨iff_of_true acknowledged rfl, rfl⟩
  · intro answered listed
    have effect := priorityWrites_eq present answered listed
    have refusal : answered.1 ≠ .simpleAck := fun equal => nomatch effect.1.mp equal
    have unchanged : answered.2.get id = some (.analogOutput output) := effect.2
    have called : (output.setPresentValueWithPriority .null priority).1 = .ok () := by
      rw [AnalogOutput.setPresentValueWithPriority, slotOf_eq named]
      rfl
    refine ⟨fun commands => refusal commands.1, fun agrees => refusal (agrees.1.mpr called), ?_⟩
    rw [unchanged]
    constructor
    · intro emptied
      obtain ⟨left, same, empty⟩ := emptied
      cases same
      exact empty
    · intro empty
      exact ⟨output, rfl, empty⟩

theorem lowest_priority_commanded :
    (after [.register (.analogOutput (.new 1 "valve"))]).get ⟨.analogOutput, 1⟩ =
        some (ArcObject.analogOutput (.new 1 "valve")) ∧
      ∀ answered ∈ priorityWrites (after [.register (.analogOutput (.new 1 "valve"))])
        ⟨.analogOutput, 1⟩ none (.real 0x42280000) 16,
        CommandsSlot answered ⟨.analogOutput, 1⟩ (.new 1 "valve") 15 (some 0x42280000) := by
  refine ⟨rfl, ?_⟩
  intro answered listed
  have settled := priority_write_iff (after [.register (.analogOutput (.new 1 "valve"))])
    ⟨.analogOutput, 1⟩ (.new 1 "valve") rfl 16 15 rfl none 0x42280000
  exact (settled.1 answered listed).1.mpr (Or.inl rfl)

/-- The default of `write_property_at` drops the priority. -/
theorem priority_ignored :
    (after [.register (.analogOutput (.new 1 "valve"))]).get ⟨.analogOutput, 1⟩ =
        some (ArcObject.analogOutput (.new 1 "valve")) ∧
      ∀ answered ∈ priorityWrites (after [.register (.analogOutput (.new 1 "valve"))])
        ⟨.analogOutput, 1⟩ none (.real 0x42280000) 8,
        answered.1 = .simpleAck ∧ ∃ left,
          answered.2.get ⟨.analogOutput, 1⟩ = some (.analogOutput left) ∧
          left.priorityArray[(7 : Fin 16)] = none ∧
          left.priorityArray[(15 : Fin 16)] = some 0x42280000 := by
  refine ⟨rfl, ?_⟩
  intro answered listed
  rw [priorityWrites, List.mem_cons, List.mem_singleton] at listed
  rcases listed with rfl | rfl
  · exact ⟨rfl, _, rfl, rfl, rfl⟩
  · exact ⟨rfl, _, rfl, rfl, rfl⟩

end

end Mabinogion.Bacnet
