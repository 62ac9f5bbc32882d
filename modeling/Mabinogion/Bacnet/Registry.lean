import Mabinogion.Bacnet.ObjectTraits
import Mabinogion.Library.Transducer

/-!
# The object registry

Objects by identifier, with an index of names and a count for each type. The
three are updated one after the other on every registration and removal.
-/

namespace Mabinogion.Bacnet

open KeyedTable BACnetObject

structure ObjectRegistry (Object : Type) where
  objects : Table ObjectId Object
  names : Table String ObjectId
  typeCounts : Table ObjectType Nat

structure ObjectTypeDescriptor (Object : Type) where
  namePrefix : String
  create : UInt32 → String → Object

/-- The instance above it is a wildcard. -/
def ObjectId.maxInstance : UInt32 := 0x3FFFFE

def numberedName (start : String) (instanceNumber : UInt32) : String :=
  start ++ "_" ++ toString instanceNumber.toNat

namespace ObjectRegistry

variable {Object : Type}

def new : ObjectRegistry Object := ⟨∅, ∅, ∅⟩

variable (registry : ObjectRegistry Object)

def get (id : ObjectId) : Option Object :=
  registry.objects.lookup id

def getByName (name : String) : Option Object :=
  (registry.names.lookup name).bind registry.get

def contains (id : ObjectId) : Bool :=
  (registry.objects.lookup id).isSome

def containsName (name : String) : Bool :=
  (registry.names.lookup name).isSome

def len : Nat := size registry.objects

def objectIds : List ObjectId := registry.objects.keys

variable (objectType : ObjectType)

def countByType : Nat :=
  (registry.typeCounts.lookup objectType).getD 0

def instancesOf : List Nat :=
  (registry.objectIds.filter fun id => id.objectType = objectType).map fun id =>
    id.instanceNumber.toNat

def succMax (instances : List Nat) : Nat :=
  match instances.max? with
  | some largest => largest + 1
  | none => 0

/-- A sum that a `u32` cannot hold is beyond the largest instance too. -/
def nextAvailableInstance : Option UInt32 :=
  let next := succMax (registry.instancesOf objectType)
  if next > ObjectId.maxInstance.toNat then none else some (UInt32.ofNat next)

variable (counts : Table ObjectType Nat)

def countDown (objectType : ObjectType) : Table ObjectType Nat :=
  match counts.lookup objectType with
  | some count => counts.insert objectType (count - 1)
  | none => counts

def countUp (objectType : ObjectType) : Table ObjectType Nat :=
  match counts.lookup objectType with
  | some count => counts.insert objectType (count + 1)
  | none => counts.insert objectType 1

variable [BACnetObject Object] (registry : ObjectRegistry Object) (id : ObjectId)

def forget (old : Object) : ObjectRegistry Object where
  objects := registry.objects.erase id
  names := registry.names.erase (objectName old)
  typeCounts := countDown registry.typeCounts id.objectType

def enter (object : Object) : ObjectRegistry Object where
  objects := registry.objects.insert (objectIdentifier object) object
  names := registry.names.insert (objectName object) (objectIdentifier object)
  typeCounts := countUp registry.typeCounts (objectIdentifier object).objectType

/-- The removal that comes before an insertion. -/
def withdraw : ObjectRegistry Object :=
  match registry.objects.lookup id with
  | some old => registry.forget id old
  | none => registry

/-- Returns what the insertion into the map replaces. -/
def register (object : Object) : Option Object × ObjectRegistry Object :=
  let withdrawn := registry.withdraw (objectIdentifier object)
  (withdrawn.objects.lookup (objectIdentifier object), withdrawn.enter object)

def unregister : Option Object × ObjectRegistry Object :=
  match registry.objects.lookup id with
  | some object => (some object, registry.forget id object)
  | none => (none, registry)

variable (descriptors : List (ObjectTypeDescriptor Object))

/-- The objects that are created for the descriptors, in the order of the loops. -/
def standardObjects (countPerType : Nat) : List Object :=
  descriptors.flatMap fun descriptor =>
    (List.range countPerType).map fun index =>
      let instanceNumber := UInt32.ofNat index
      descriptor.create instanceNumber (numberedName descriptor.namePrefix instanceNumber)

def populateStandardObjects (countPerType : Nat) : ObjectRegistry Object :=
  (standardObjects descriptors countPerType).foldl
    (fun registry object => (registry.register object).2) registry

inductive Call (Object : Type) where
  | register (object : Object)
  | unregister (id : ObjectId)
  | clear
  | populateStandardObjects (descriptors : List (ObjectTypeDescriptor Object)) (countPerType : Nat)

/-- The calls without a result return `none`. -/
def step : Call Object → Option Object × ObjectRegistry Object
  | .register object => registry.register object
  | .unregister id => registry.unregister id
  | .clear => (none, new)
  | .populateStandardObjects descriptors countPerType =>
    (none, registry.populateStandardObjects descriptors countPerType)

def after (calls : List (Call Object)) : ObjectRegistry Object := Transducer.final step new calls

end ObjectRegistry

end Mabinogion.Bacnet
