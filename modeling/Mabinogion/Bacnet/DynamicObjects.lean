import Mabinogion.Bacnet.ArcObject
import Mabinogion.Bacnet.CreateObject
import Mabinogion.Bacnet.Registry
import Mabinogion.Bacnet.Server
import Mathlib.Tactic.FinCases

/-!
# Creating and deleting objects

The CreateObject and DeleteObject services on what the decoder made of a request.
A name that the client gives is checked against the index of names, one that is
made up is not.
-/

namespace Mabinogion.Bacnet

open KeyedTable (Table)
open BACnetObject Server

structure ObjectFactory (Object : Type) where
  constructors : Table ObjectType (UInt32 → String → Object)

namespace ObjectFactory

variable {Object : Type}

def new : ObjectFactory Object := ⟨∅⟩

variable (factory : ObjectFactory Object) (objectType : ObjectType)

def register (build : UInt32 → String → Object) : ObjectFactory Object :=
  ⟨factory.constructors.insert objectType build⟩

def supports : Bool :=
  (factory.constructors.lookup objectType).isSome

def create (instanceNumber : UInt32) (name : String) : Option Object :=
  (factory.constructors.lookup objectType).map fun build => build instanceNumber name

/-- What is asked for is what is built. -/
def Faithful [BACnetObject Object] (factory : ObjectFactory Object) : Prop :=
  ∀ objectType build, factory.constructors.lookup objectType = some build →
    ∀ instanceNumber name, identity (build instanceNumber name) = (⟨objectType, instanceNumber⟩, name)

end ObjectFactory

def standardConstructors : List (ObjectType × (UInt32 → String → ArcObject)) :=
  [(.analogInput, fun inst name => .analogInput (.new inst name)),
    (.analogOutput, fun inst name => .analogOutput (.new inst name)),
    (.analogValue, fun inst name => .analogValue (.new inst name)),
    (.binaryInput, fun inst name => .binaryInput (.new inst name)),
    (.binaryOutput, fun inst name => .binaryOutput (.new inst name)),
    (.binaryValue, fun inst name => .binaryValue (.new inst name)),
    (.multiStateInput, fun inst name => .multiStateInput (.new inst name 4)),
    (.multiStateOutput, fun inst name => .multiStateOutput (.new inst name 4)),
    (.multiStateValue, fun inst name => .multiStateValue (.new inst name 4)),
    (.trendLog, fun inst name => .trendLog (.new inst name 1000)),
    (.file, fun inst name => .file (.new inst name)),
    (.eventEnrollment, fun inst name => .eventEnrollment (.new inst name .changeOfValue)),
    (.notificationClass, fun inst name => .notificationClass (.new inst name)),
    (.schedule, fun inst name => .schedule (.new inst name)),
    (.calendar, fun inst name => .calendar (.new inst name))]

def defaultObjectFactory : ObjectFactory ArcObject :=
  standardConstructors.foldl (fun factory entry => factory.register entry.1 entry.2) .new

def objectTypePrefix : ObjectType → String
  | .analogInput => "AI" | .analogOutput => "AO" | .analogValue => "AV" | .binaryInput => "BI"
  | .binaryOutput => "BO" | .binaryValue => "BV" | .multiStateInput => "MSI"
  | .multiStateOutput => "MSO" | .multiStateValue => "MSV" | .trendLog => "TL" | .file => "FILE"
  | .eventEnrollment => "EE" | .notificationClass => "NC" | .schedule => "SCHED"
  | .calendar => "CAL" | _ => "OBJ"

/-- A handler with the factory it was made with, for objects that keep their identity. -/
structure CreateObjectHandler (Object : Type) [BACnetObject Object] where
  factory : ObjectFactory Object
  faithful : factory.Faithful
  steady : ∀ (object : Object) propertyId value,
    identity (writeProperty object propertyId value).2 = identity object

namespace CreateObjectHandler

variable {Object : Type} [BACnetObject Object] (registry : ObjectRegistry Object)

def chooseInstance (request : CreateObjectRequest) : Except ServiceResult UInt32 :=
  match request.objectInstance with
  | some inst =>
    if registry.contains ⟨request.objectType, inst⟩ then
      .error (.error .object .objectIdentifierAlreadyExists)
    else .ok inst
  | none =>
    match registry.nextAvailableInstance request.objectType with
    | some inst => .ok inst
    | none => .error (.error .resources .noSpaceForObject)

/-- The name that is asked for, if it is free, or one made of the type and the instance. -/
def chooseName (request : CreateObjectRequest) (inst : UInt32) : Except ServiceResult String :=
  match request.objectName with
  | some name =>
    if registry.containsName name then .error (.error .object .duplicateName) else .ok name
  | none => .ok (numberedName (objectTypePrefix request.objectType) inst)

/-- Errors on initial values are ignored. -/
def applyInitialValues (object : Object) (initialValues : List (PropertyId × BACnetValue)) :
    Object :=
  initialValues.foldl (fun object initial =>
    if initial.1 = .objectName ∨ initial.1 = .objectIdentifier then object
    else (writeProperty object initial.1 initial.2).2) object

def encodeCreateObjectAck (objectId : ObjectId) : Bytes :=
  ApduEncoder.encodeObjectIdentifier objectId

variable (handler : CreateObjectHandler Object)

def createObject (request : CreateObjectRequest)
    (registry : ObjectRegistry Object) : Except ServiceResult ObjectId × ObjectRegistry Object :=
  if !handler.factory.supports request.objectType then
    (.error (.error .object .unsupportedObjectType), registry)
  else
    match chooseInstance registry request with
    | .error result => (.error result, registry)
    | .ok inst =>
      match chooseName registry request inst with
      | .error result => (.error result, registry)
      | .ok name =>
        match handler.factory.create request.objectType inst name with
        | none => (.error (.error .object .unsupportedObjectType), registry)
        | some object =>
          (.ok (objectIdentifier object),
            (registry.register (applyInitialValues object request.initialValues)).2)

def handle (decoded : Except String CreateObjectRequest)
    (registry : ObjectRegistry Object) : ServiceResult × ObjectRegistry Object :=
  match decoded with
  | .error _ => (.missingRequiredParameter, registry)
  | .ok request =>
    match handler.createObject request registry with
    | (.ok objectId, after) => (.complexAck (encodeCreateObjectAck objectId), after)
    | (.error result, after) => (result, after)

end CreateObjectHandler

namespace DeleteObjectHandler

variable {Object : Type} [BACnetObject Object]

def nonDeletableTypes : List ObjectType := [.device]

def handle (decoded : Except String ObjectId) (registry : ObjectRegistry Object) :
    ServiceResult × ObjectRegistry Object :=
  match decoded with
  | .error _ => (.missingRequiredParameter, registry)
  | .ok objectId =>
    if nonDeletableTypes.contains objectId.objectType then
      (.error .object .objectDeletionNotPermitted, registry)
    else if !registry.contains objectId then (.error .object .unknownObject, registry)
    else (.simpleAck, (registry.unregister objectId).2)

end DeleteObjectHandler

section

variable {Object : Type} [BACnetObject Object]

theorem ObjectFactory.faithful_new : (new : ObjectFactory Object).Faithful :=
  fun _ _ present => nomatch present

variable {factory : ObjectFactory Object}

theorem ObjectFactory.Faithful.register
    (faithful : factory.Faithful) {objectType : ObjectType} {build : UInt32 → String → Object}
    (built : ∀ inst name, identity (build inst name) = (⟨objectType, inst⟩, name)) :
    (factory.register objectType build).Faithful := by
  intro other found present
  rw [ObjectFactory.register, KeyedTable.lookup_insert_eq] at present
  split at present
  · rename_i same
    rw [← Option.some.inj present, same]
    exact built
  · exact faithful other found present

theorem ObjectFactory.Faithful.registerAll
    (entries : List (ObjectType × (UInt32 → String → Object)))
    (built : ∀ entry ∈ entries, ∀ inst name,
      identity (entry.2 inst name) = (⟨entry.1, inst⟩, name)) (faithful : factory.Faithful) :
    (entries.foldl (fun factory entry => factory.register entry.1 entry.2) factory).Faithful := by
  induction entries generalizing factory with
  | nil => exact faithful
  | cons entry entries ih =>
    rw [List.forall_mem_cons] at built
    exact ih built.2 (faithful.register built.1)

end

theorem standardConstructors_identity : ∀ entry ∈ standardConstructors, ∀ inst name,
    identity (entry.2 inst name) = (⟨entry.1, inst⟩, name) := by
  intro entry listed inst name
  fin_cases listed <;> rfl

def CreateObjectHandler.new : CreateObjectHandler ArcObject where
  factory := defaultObjectFactory
  faithful := ObjectFactory.faithful_new.registerAll _ standardConstructors_identity
  steady object propertyId value := object.identity_writeProperty propertyId value

inductive ObjectRequest where
  | create (decoded : Except String CreateObjectRequest)
  | delete (decoded : Except String ObjectId)

def respond {Object : Type} [BACnetObject Object] (handler : CreateObjectHandler Object)
    (registry : ObjectRegistry Object) : ObjectRequest → ServiceResult × ObjectRegistry Object
  | .create decoded => handler.handle decoded registry
  | .delete decoded => DeleteObjectHandler.handle decoded registry

end Mabinogion.Bacnet
