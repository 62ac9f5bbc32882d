import Mabinogion.Bacnet.FileObject
import Mabinogion.Bacnet.Schedule
import Mabinogion.Bacnet.StandardObjects
import Mathlib.Tactic.FinCases

/-!
# Fields and stores

A class has match arms for some properties and shares the others. A property that is read
from a field while its writes go to the store never shows them: said once here, with the
division of each class.
-/

namespace Mabinogion.Bacnet

open BACnetObject (readProperty writeProperty)

/-- The value, its reading as a Boolean, a number or a real, or the nearest priority. -/
inductive Coerced (propertyId : PropertyId) (value : BACnetValue) : BACnetValue → Prop
  | same : Coerced propertyId value value
  | boolean {flag : Bool} (reading : value.asBool = some flag) :
      Coerced propertyId value (.boolean flag)
  | binary {flag : Bool} (reading : value.asBool = some flag) :
      Coerced propertyId value (binaryPresentValue flag)
  | unsigned {number : UInt32} (reading : value.asUnsigned = some number) :
      Coerced propertyId value (.unsigned number)
  | real {bits : UInt32} (reading : value.asReal = some bits) :
      Coerced propertyId value (.real bits)
  | priority {number : UInt32} (reading : value = .unsigned number)
      (property : propertyId = .priorityForWriting) :
      Coerced propertyId value (.unsigned (max (min number 16) 1))

section

variable {Object : Type} [BACnetObject Object]

/-- If the write is accepted, the next read returns what was written. -/
def KeepsWrite (object : Object) (propertyId : PropertyId) (value : BACnetValue) : Prop :=
  (writeProperty object propertyId value).1 = .ok () →
    ∃ shown, readProperty (writeProperty object propertyId value).2 propertyId = .ok shown ∧
      Coerced propertyId value shown

def Shows (object : Object) (propertyId : PropertyId) (value : BACnetValue) : Prop :=
  ∃ shown, readProperty object propertyId = .ok shown ∧ Coerced propertyId value shown

variable {object after : Object} {propertyId : PropertyId} {value shown : BACnetValue}

theorem keepsWrite_of_refused {error : PropertyError}
    (written : writeProperty object propertyId value = refused object error) :
    KeepsWrite object propertyId value := by
  intro succeeded
  rw [written] at succeeded
  cases succeeded

section

variable (written : writeProperty object propertyId value = accepted after)

include written

theorem keepsWrite_iff_of_accepted : KeepsWrite object propertyId value ↔
      ∃ shown, readProperty after propertyId = .ok shown ∧ Coerced propertyId value shown := by
  rw [KeepsWrite, written]
  exact imp_iff_right rfl

theorem keepsWrite_of_accepted (read : readProperty after propertyId = .ok shown)
    (coerced : Coerced propertyId value shown) : KeepsWrite object propertyId value :=
  (keepsWrite_iff_of_accepted written).mpr ⟨shown, read, coerced⟩

theorem keepsWrite_iff_shows
    (read : readProperty after propertyId = readProperty object propertyId) :
    KeepsWrite object propertyId value ↔ Shows object propertyId value := by
  rw [keepsWrite_iff_of_accepted written, read]
  exact Iff.rfl

end

theorem keepsWrite_of_field {Field : Type} {reading : Option Field} {put : Field → Object}
    (written : writeProperty object propertyId value = setField object propertyId reading put)
    (read : ∀ field, reading = some field →
      ∃ shown, readProperty (put field) propertyId = .ok shown ∧ Coerced propertyId value shown) :
    KeepsWrite object propertyId value := by
  cases known : reading with
  | none =>
    rw [known] at written
    exact keepsWrite_of_refused written
  | some field =>
    rw [known] at written
    exact (keepsWrite_iff_of_accepted written).mpr (read field known)

end

/-- The properties that the shared arms read from a field and write to the store. -/
def sharedStale : List PropertyId := [.objectName, .description, .statusFlags]

/-- The properties that the shared arms write elsewhere than to the store. -/
def sharedWrites : List PropertyId := [.objectIdentifier, .objectType, .outOfService]

/-- How a class divides the properties between arms of its own and the shared ones. -/
structure Arms (Object : Type) [BACnetObject Object] where
  objectType : ObjectType
  fieldReads : List PropertyId
  fieldWrites : List PropertyId
  fields : Object → ObjectFields
  put : Object → ObjectFields → Object
  read_shared : ∀ object shared propertyId, propertyId ∉ fieldReads →
    readProperty (put object shared) propertyId = shared.readShared objectType propertyId := by
    intro object shared propertyId other
    cases propertyId
    all_goals first | rfl | exact absurd (by decide) other
  put_fields : ∀ object, put object (fields object) = object := by
    intro object
    rfl
  apart : ∀ propertyId ∈ fieldReads, propertyId ∉ sharedWrites := by decide
  /-- No field depends on the store. -/
  read_field : ∀ object store, ∀ propertyId ∈ fieldReads,
    readProperty (put object { fields object with properties := store }) propertyId =
      readProperty object propertyId := by
    intro object store propertyId field
    fin_cases field
    all_goals rfl
  write_shared : ∀ object propertyId value, propertyId ∉ fieldWrites →
    writeProperty object propertyId value =
      within (put object) ((fields object).writeShared propertyId value) := by
    intro object propertyId value other
    cases propertyId
    all_goals first | rfl | exact absurd (by decide) other

namespace Arms

variable {Object : Type} [BACnetObject Object] (arms : Arms Object) (object : Object)
  {propertyId : PropertyId} {value : BACnetValue}

/-- The properties that are read from a field that no write reaches. -/
def stale : List PropertyId :=
  sharedStale ++ arms.fieldReads.filter fun propertyId => propertyId ∉ arms.fieldWrites

variable (fields : ObjectFields) (objectType : ObjectType)

theorem writeShared_store (other : propertyId ∉ sharedWrites) :
    fields.writeShared propertyId value =
      accepted { fields with properties := fields.properties.set propertyId value } := by
  simp only [sharedWrites, List.mem_cons, List.not_mem_nil, or_false, not_or] at other
  rw [ObjectFields.writeShared]
  · exact other.1
  · exact other.2.1
  · exact other.2.2

theorem readShared_store (other : propertyId ∉ sharedWrites) (fresh : propertyId ∉ sharedStale) :
    fields.readShared objectType propertyId = fields.properties.read propertyId := by
  simp only [sharedWrites, sharedStale, List.mem_cons, List.not_mem_nil, or_false,
    not_or] at other fresh
  rw [ObjectFields.readShared]
  · exact other.1
  · exact fresh.1
  · exact other.2.1
  · exact fresh.2.1
  · exact fresh.2.2
  · exact other.2.2

theorem readShared_stale (store : PropertyStore) (listed : propertyId ∈ sharedStale) :
    ObjectFields.readShared { fields with properties := store } objectType propertyId =
      fields.readShared objectType propertyId := by
  simp only [sharedStale, List.mem_cons, List.not_mem_nil, or_false] at listed
  rcases listed with rfl | rfl | rfl
  all_goals rfl

theorem write_store (other : propertyId ∉ arms.fieldWrites) (stored : propertyId ∉ sharedWrites) :
    writeProperty object propertyId value = accepted (arms.put object { arms.fields object with
        properties := (arms.fields object).properties.set propertyId value }) := by
  rw [arms.write_shared object propertyId value other, writeShared_store _ stored]
  rfl

theorem read_shared_fields (shared : propertyId ∉ arms.fieldReads) :
    readProperty object propertyId = (arms.fields object).readShared arms.objectType propertyId := by
  rw [← arms.read_shared object _ propertyId shared, arms.put_fields]

theorem keepsWrite_fresh (other : propertyId ∉ arms.fieldWrites)
    (shared : propertyId ∉ arms.fieldReads) (fresh : propertyId ∉ sharedStale) :
    KeepsWrite object propertyId value := by
  by_cases stored : propertyId ∈ sharedWrites
  · have written := arms.write_shared object propertyId value other
    simp only [sharedWrites, List.mem_cons, List.not_mem_nil, or_false] at stored
    rcases stored with rfl | rfl | rfl
    · rw [KeepsWrite, written]
      intro succeeded
      cases succeeded
    · rw [KeepsWrite, written]
      intro succeeded
      cases succeeded
    · rw [KeepsWrite, written]
      intro succeeded
      cases reading : value.asBool with
      | none =>
        rw [ObjectFields.writeShared, reading] at succeeded
        cases succeeded
      | some flag =>
        refine ⟨.boolean flag, ?_, .boolean reading⟩
        rw [within, arms.read_shared _ _ _ shared, ObjectFields.writeShared, reading]
        rfl
  · apply keepsWrite_of_accepted (arms.write_store object other stored) _ .same
    rw [arms.read_shared _ _ _ shared, readShared_store _ _ stored fresh]
    rw [PropertyStore.read, PropertyStore.get_set]

theorem keepsWrite_iff (other : propertyId ∉ arms.fieldWrites) :
    KeepsWrite object propertyId value ↔
      (propertyId ∈ arms.stale → Shows object propertyId value) := by
  by_cases field : propertyId ∈ arms.fieldReads
  · have listed : propertyId ∈ arms.stale :=
      List.mem_append_right _ (List.mem_filter.mpr ⟨field, decide_eq_true other⟩)
    rw [imp_iff_right listed]
    exact keepsWrite_iff_shows (arms.write_store object other (arms.apart _ field))
      (arms.read_field object _ _ field)
  · by_cases listed : propertyId ∈ sharedStale
    · have stale : propertyId ∈ arms.stale := List.mem_append_left _ listed
      rw [imp_iff_right stale]
      have stored := (by decide : ∀ stale ∈ sharedStale, stale ∉ sharedWrites) propertyId listed
      apply keepsWrite_iff_shows (arms.write_store object other stored)
      rw [arms.read_shared _ _ _ field, arms.read_shared_fields object field,
        readShared_stale _ _ _ listed]
    · apply iff_of_true (arms.keepsWrite_fresh object other field listed)
      intro stale
      rcases List.mem_append.mp stale with shared | own
      · exact absurd shared listed
      · exact absurd (List.mem_filter.mp own).1 field

theorem keepsWrite_iff_of_own (apart : ∀ property ∈ arms.fieldWrites, property ∉ arms.stale)
    (own : propertyId ∈ arms.fieldWrites → KeepsWrite object propertyId value) :
    KeepsWrite object propertyId value ↔
      (propertyId ∈ arms.stale → Shows object propertyId value) := by
  by_cases listed : propertyId ∈ arms.fieldWrites
  · exact iff_of_true (own listed) fun stale => absurd stale (apart _ listed)
  · exact arms.keepsWrite_iff object listed

end Arms

def AnalogInput.arms : Arms AnalogInput where
  objectType := .analogInput
  fieldReads := [.presentValue, .covIncrement]
  fieldWrites := [.covIncrement]
  fields := (·.toObjectFields)
  put object shared := { object with toObjectFields := shared }

def AnalogOutput.arms : Arms AnalogOutput where
  objectType := .analogOutput
  fieldReads := [.presentValue, .relinquishDefault, .priorityArray, .covIncrement]
  fieldWrites := [.presentValue, .relinquishDefault]
  fields := (·.toObjectFields)
  put object shared := { object with toObjectFields := shared }

def AnalogValue.arms : Arms AnalogValue where
  objectType := .analogValue
  fieldReads := [.presentValue, .covIncrement]
  fieldWrites := [.presentValue]
  fields := (·.toObjectFields)
  put object shared := { object with toObjectFields := shared }

def BinaryInput.arms : Arms BinaryInput where
  objectType := .binaryInput
  fieldReads := [.presentValue]
  fieldWrites := [.presentValue]
  fields := (·.toObjectFields)
  put object shared := { object with toObjectFields := shared }

def BinaryOutput.arms : Arms BinaryOutput where
  objectType := .binaryOutput
  fieldReads := [.presentValue, .relinquishDefault, .priorityArray]
  fieldWrites := [.presentValue]
  fields := (·.toObjectFields)
  put object shared := { object with toObjectFields := shared }

def BinaryValue.arms : Arms BinaryValue where
  objectType := .binaryValue
  fieldReads := [.presentValue]
  fieldWrites := [.presentValue]
  fields := (·.toObjectFields)
  put object shared := { object with toObjectFields := shared }

def MultiStateInput.arms : Arms MultiStateInput where
  objectType := .multiStateInput
  fieldReads := [.presentValue, .numberOfStates]
  fieldWrites := [.presentValue, .numberOfStates]
  fields := (·.toObjectFields)
  put object shared := { object with toObjectFields := shared }

def MultiStateOutput.arms : Arms MultiStateOutput where
  objectType := .multiStateOutput
  fieldReads := [.presentValue, .numberOfStates, .relinquishDefault, .priorityArray]
  fieldWrites := [.presentValue, .numberOfStates]
  fields := (·.toObjectFields)
  put object shared := { object with toObjectFields := shared }

def MultiStateValue.arms : Arms MultiStateValue where
  objectType := .multiStateValue
  fieldReads := [.presentValue, .numberOfStates]
  fieldWrites := [.presentValue, .numberOfStates]
  fields := (·.toObjectFields)
  put object shared := { object with toObjectFields := shared }

def FileObject.arms : Arms FileObject where
  objectType := .file
  fieldReads := [.fileType, .fileSize, .fileAccessMethod, .readOnly, .recordCount,
    .modificationDate]
  fieldWrites := [.fileSize, .fileAccessMethod, .recordCount, .modificationDate, .description,
    .fileType, .readOnly]
  fields := (·.toObjectFields)
  put object shared := { object with toObjectFields := shared }

def Schedule.arms : Arms Schedule where
  objectType := .schedule
  fieldReads := [.presentValue, .statusFlags, .eventState, .reliability, .scheduleDefault,
    .priorityForWriting, .effectivePeriod, .weeklySchedule, .exceptionSchedule,
    .listOfObjectPropertyReferences]
  fieldWrites := [.objectIdentifier, .objectType, .objectName, .description, .presentValue,
    .outOfService, .scheduleDefault, .priorityForWriting, .reliability]
  fields := (·.toObjectFields)
  put object shared := { object with toObjectFields := shared }

end Mabinogion.Bacnet
