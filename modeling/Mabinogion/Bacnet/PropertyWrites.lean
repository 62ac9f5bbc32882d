import Mabinogion.Bacnet.ObjectArms

/-!
# Writes that are read back

For each class the properties whose accepted writes no read finds. On all others
an accepted write is read back, up to the readings of a value as another type.
-/

namespace Mabinogion.Bacnet

open Schedule BACnetValue
open List (mem_cons mem_singleton)

section

variable {propertyId : PropertyId} (value : BACnetValue)

theorem AnalogInput.keepsOwn (object : AnalogInput) (own : propertyId ∈ arms.fieldWrites) :
    KeepsWrite object propertyId value := by
  rw [mem_singleton.mp own]
  exact keepsWrite_of_field rfl fun increment reading => ⟨_, rfl, .real reading⟩

theorem AnalogOutput.keepsOwn (object : AnalogOutput) (exempt : propertyId ≠ .presentValue)
    (own : propertyId ∈ arms.fieldWrites) : KeepsWrite object propertyId value := by
  rw [mem_singleton.mp (List.mem_of_ne_of_mem exempt own)]
  exact keepsWrite_of_field rfl fun real reading => ⟨_, rfl, .real reading⟩

theorem AnalogValue.keepsOwn (object : AnalogValue) (own : propertyId ∈ arms.fieldWrites) :
    KeepsWrite object propertyId value := by
  rw [mem_singleton.mp own]
  exact keepsWrite_of_field rfl fun real reading => ⟨_, rfl, .real reading⟩

theorem BinaryInput.keepsOwn (object : BinaryInput) (own : propertyId ∈ arms.fieldWrites) :
    KeepsWrite object propertyId value := by
  rw [mem_singleton.mp own]
  exact keepsWrite_of_refused rfl

theorem BinaryValue.keepsOwn (object : BinaryValue) (own : propertyId ∈ arms.fieldWrites) :
    KeepsWrite object propertyId value := by
  rw [mem_singleton.mp own]
  exact keepsWrite_of_field rfl fun active reading => ⟨_, rfl, .binary reading⟩

theorem MultiStateInput.keepsOwn (object : MultiStateInput)
    (own : propertyId ∈ arms.fieldWrites) : KeepsWrite object propertyId value := by
  rcases List.mem_pair.mp own with rfl | rfl
  · exact keepsWrite_of_refused rfl
  · exact keepsWrite_of_refused rfl

theorem MultiStateOutput.keepsOwn (object : MultiStateOutput) (exempt : propertyId ≠ .presentValue)
    (own : propertyId ∈ arms.fieldWrites) : KeepsWrite object propertyId value := by
  rw [mem_singleton.mp (List.mem_of_ne_of_mem exempt own)]
  exact keepsWrite_of_refused rfl

theorem MultiStateValue.keepsOwn (object : MultiStateValue)
    (own : propertyId ∈ arms.fieldWrites) : KeepsWrite object propertyId value := by
  rcases List.mem_pair.mp own with rfl | rfl
  · cases reading : value.asUnsigned with
    | none =>
      apply keepsWrite_of_refused
      simp only [BACnetObject.writeProperty, writeProperty, reading]
      rfl
    | some state =>
      by_cases inside : 1 ≤ state ∧ state ≤ object.numberOfStates
      · have written : BACnetObject.writeProperty object .presentValue value =
            accepted { object with presentValue := state } := by
          simp only [BACnetObject.writeProperty, writeProperty, reading, if_pos inside]
        exact keepsWrite_of_accepted written rfl (.unsigned reading)
      · apply keepsWrite_of_refused
        simp only [BACnetObject.writeProperty, writeProperty, reading, if_neg inside]
        rfl
  · exact keepsWrite_of_refused rfl

end

section

variable (propertyId : PropertyId) (value : BACnetValue)

theorem asString_eq_some {value : BACnetValue} {text : String}
    (reading : value.asString = some text) :
    value = .characterString text := by
  cases value with
  | characterString => rw [Option.some.inj reading]
  | _ => cases reading

theorem FileObject.keepsWrite_iff (file : FileObject) : KeepsWrite file propertyId value ↔
      (propertyId ∈ sharedStale → (propertyId = .description → value.asString.isSome) →
        Shows file propertyId value) := by
  by_cases text : propertyId = .description
  · rw [text, imp_iff_right (by decide), imp_iff_right rfl]
    cases reading : value.asString with
    | none =>
      apply iff_of_true _ (fun impossible => absurd impossible (by decide))
      apply keepsWrite_of_refused
      simp only [BACnetObject.writeProperty, writeProperty, reading]
      rfl
    | some =>
      rw [Option.isSome_some, imp_iff_right rfl]
      apply keepsWrite_iff_shows
      · simp only [BACnetObject.writeProperty, writeProperty, reading]
        rfl
      · rfl
  · have apart : ∀ property ∈ arms.fieldWrites, property ≠ .description → property ∉ arms.stale := by
      decide
    have either : (propertyId = .description → value.asString.isSome) ↔ True :=
      iff_true_intro fun same => absurd same text
    rw [either, true_imp_iff]
    by_cases own : propertyId ∈ arms.fieldWrites
    on_goal 2 => exact arms.keepsWrite_iff file own
    apply iff_of_true _ fun stale => absurd stale (apart propertyId own text)
    simp only [arms, mem_cons, List.not_mem_nil, or_false] at own
    rcases own with rfl | rfl | rfl | rfl | rfl | rfl | rfl
    · exact keepsWrite_of_refused rfl
    · exact keepsWrite_of_refused rfl
    · exact keepsWrite_of_refused rfl
    · exact keepsWrite_of_refused rfl
    · exact absurd rfl text
    · apply keepsWrite_of_field rfl
      intro name reading
      rw [asString_eq_some reading]
      exact ⟨_, rfl, .same⟩
    · exact keepsWrite_of_field rfl fun flag reading => ⟨_, rfl, .boolean reading⟩

theorem Schedule.coerced_priority_iff (number : UInt32) :
    Coerced .priorityForWriting (.unsigned number) (.unsigned (writtenPriority number).toUInt32) ↔
      number < 256 ∨ 16 ≤ number % 256 := by
  have cut : (writtenPriority number).toUInt32.toNat = max (min (number.toNat % 256) 16) 1 := by
    rw [UInt8.toNat_toUInt32, writtenPriority, UInt8.toNat_max, UInt8.toNat_min]
    rfl
  have near : (max (min number 16) 1).toNat = max (min number.toNat 16) 1 := by
    rw [UInt32.toNat_max, UInt32.toNat_min]
    rfl
  have range : number < 256 ∨ 16 ≤ number % 256 ↔ number.toNat < 256 ∨ 16 ≤ number.toNat % 256 := by
    rw [UInt32.lt_iff_toNat_lt, UInt32.le_iff_toNat_le, UInt32.toNat_mod]
    rfl
  rw [range]
  constructor
  · intro coerced
    generalize (writtenPriority number).toUInt32 = shown at coerced cut
    generalize valued : unsigned shown = other at coerced
    cases coerced with
    | same =>
      rw [unsigned.inj valued] at cut
      omega
    | boolean | binary => cases valued
    | unsigned reading =>
      rw [unsigned.inj valued, ← Option.some.inj reading] at cut
      omega
    | real => cases valued
    | priority reading =>
      rw [unsigned.inj valued, ← unsigned.inj reading, near] at cut
      omega
  · intro inside
    have same : (writtenPriority number).toUInt32 = max (min number 16) 1 := by
      apply UInt32.toNat_inj.mp
      rw [cut, near]
      omega
    rw [same]
    exact .priority rfl rfl

def Schedule.stale : List PropertyId :=
  [.description, .statusFlags, .eventState, .effectivePeriod, .weeklySchedule, .exceptionSchedule,
    .listOfObjectPropertyReferences]

/-- When a schedule shows what is written to it. -/
def Schedule.Keeps (schedule : Schedule) (propertyId : PropertyId) (value : BACnetValue) : Prop :=
  (propertyId ∈ stale → (propertyId = .description → value.asString.isSome) →
      Shows schedule propertyId value) ∧
    (propertyId = .priorityForWriting → ∀ number, value = .unsigned number →
      number < 256 ∨ 16 ≤ number % 256)

variable (schedule : Schedule)

theorem Schedule.keeps_other {propertyId : PropertyId} {value : BACnetValue}
    (fresh : propertyId ∉ stale) (other : propertyId ≠ .priorityForWriting) :
    schedule.Keeps propertyId value :=
  ⟨fun listed => absurd listed fresh, fun same => absurd same other⟩

theorem Schedule.keepsWrite_description :
    KeepsWrite schedule .description value ↔ schedule.Keeps .description value := by
  have shown : (value.asString.isSome → Shows schedule .description value) ↔
      schedule.Keeps .description value := by
    rw [Keeps]
    constructor
    · intro shows
      exact ⟨fun _ text => shows (text rfl), fun priority => nomatch priority⟩
    · intro keeps text
      exact keeps.1 (by decide) fun _ => text
  rw [← shown]
  cases value with
  | characterString text =>
    have reading : (characterString text).asString.isSome = true := rfl
    rw [imp_iff_right reading]
    exact keepsWrite_iff_shows rfl rfl
  | _ => exact iff_of_true (keepsWrite_of_refused rfl) fun text => nomatch text

theorem Schedule.keepsWrite_priority :
    KeepsWrite schedule .priorityForWriting value ↔ schedule.Keeps .priorityForWriting value := by
  have shown : (∀ number, value = .unsigned number → number < 256 ∨ 16 ≤ number % 256) ↔
      schedule.Keeps .priorityForWriting value := by
    rw [Keeps]
    constructor
    · intro inside
      exact ⟨fun listed => absurd listed (by decide), fun _ => inside⟩
    · intro keeps
      exact keeps.2 rfl
  rw [← shown]
  cases value with
  | unsigned number =>
    rw [keepsWrite_iff_of_accepted rfl]
    constructor
    · intro ⟨other, read, coerced⟩ given same
      rw [← unsigned.inj same, ← coerced_priority_iff, Except.ok.inj read]
      exact coerced
    · intro inside
      exact ⟨_, rfl, (coerced_priority_iff number).mpr (inside number rfl)⟩
  | _ => exact iff_of_true (keepsWrite_of_refused rfl) fun number same => nomatch same

theorem Schedule.keepsWrite_iff :
    KeepsWrite schedule propertyId value ↔ schedule.Keeps propertyId value := by
  by_cases own : propertyId ∈ arms.fieldWrites
  · simp only [arms, mem_cons, List.not_mem_nil, or_false] at own
    rcases own with rfl | rfl | rfl | rfl | rfl | rfl | rfl | rfl | rfl
    iterate 3
      exact iff_of_true (keepsWrite_of_refused rfl) (schedule.keeps_other (by decide) (by decide))
    · exact keepsWrite_description value schedule
    · exact iff_of_true (keepsWrite_of_accepted rfl rfl .same)
        (schedule.keeps_other (by decide) (by decide))
    · apply iff_of_true _ (schedule.keeps_other (by decide) (by decide))
      cases value with
      | boolean => exact keepsWrite_of_accepted rfl rfl .same
      | _ => exact keepsWrite_of_refused rfl
    · exact iff_of_true (keepsWrite_of_accepted rfl rfl .same)
        (schedule.keeps_other (by decide) (by decide))
    · exact keepsWrite_priority value schedule
    · apply iff_of_true _ (schedule.keeps_other (by decide) (by decide))
      cases value with
      | enumerated => exact keepsWrite_of_accepted rfl rfl .same
      | _ => exact keepsWrite_of_refused rfl
  · rw [arms.keepsWrite_iff schedule own]
    simp only [arms, mem_cons, List.not_mem_nil, or_false, not_or] at own
    have same : propertyId ∈ arms.stale ↔ propertyId ∈ stale := by
      have lists : arms.stale = [.objectName, .description, .statusFlags, .statusFlags, .eventState,
        .effectivePeriod, .weeklySchedule, .exceptionSchedule,
        .listOfObjectPropertyReferences] := by decide
      rw [lists, stale]
      simp only [mem_cons, own, false_or]
      simp
    rw [Keeps, same]
    constructor
    · intro shows
      exact ⟨fun listed _ => shows listed, fun priority => absurd priority own.2.2.2.2.2.2.2.1⟩
    · intro keeps listed
      exact keeps.1 listed fun text => absurd text own.2.2.2.1

end

/-- An accepted write is read back unless the property is read from a field the write does not
reach, or the field holds the value. The present values of the outputs are left aside. -/
theorem accepted_write_shown_iff (propertyId : PropertyId) (value : BACnetValue) :
    (∀ object : AnalogInput, KeepsWrite object propertyId value ↔
      (propertyId ∈ sharedStale ++ [.presentValue] → Shows object propertyId value)) ∧
    (∀ object : AnalogOutput, propertyId ≠ .presentValue → (KeepsWrite object propertyId value ↔
      (propertyId ∈ sharedStale ++ [.priorityArray, .covIncrement] →
        Shows object propertyId value))) ∧
    (∀ object : AnalogValue, KeepsWrite object propertyId value ↔
      (propertyId ∈ sharedStale ++ [.covIncrement] → Shows object propertyId value)) ∧
    (∀ object : BinaryInput, KeepsWrite object propertyId value ↔
      (propertyId ∈ sharedStale → Shows object propertyId value)) ∧
    (∀ object : BinaryOutput, propertyId ≠ .presentValue → (KeepsWrite object propertyId value ↔
      (propertyId ∈ sharedStale ++ [.relinquishDefault, .priorityArray] →
        Shows object propertyId value))) ∧
    (∀ object : BinaryValue, KeepsWrite object propertyId value ↔
      (propertyId ∈ sharedStale → Shows object propertyId value)) ∧
    (∀ object : MultiStateInput, KeepsWrite object propertyId value ↔
      (propertyId ∈ sharedStale → Shows object propertyId value)) ∧
    (∀ object : MultiStateOutput, propertyId ≠ .presentValue → (KeepsWrite object propertyId value ↔
      (propertyId ∈ sharedStale ++ [.relinquishDefault, .priorityArray] →
        Shows object propertyId value))) ∧
    (∀ object : MultiStateValue, KeepsWrite object propertyId value ↔
      (propertyId ∈ sharedStale → Shows object propertyId value)) ∧
    (∀ file : FileObject, KeepsWrite file propertyId value ↔
      (propertyId ∈ sharedStale → (propertyId = .description → value.asString.isSome) →
        Shows file propertyId value)) ∧
    ∀ schedule : Schedule, KeepsWrite schedule propertyId value ↔ schedule.Keeps propertyId value :=
  ⟨fun object => AnalogInput.arms.keepsWrite_iff_of_own object (by decide) (object.keepsOwn value),
    fun object exempt => AnalogOutput.arms.keepsWrite_iff_of_own object (by decide)
      (object.keepsOwn value exempt),
    fun object => AnalogValue.arms.keepsWrite_iff_of_own object (by decide) (object.keepsOwn value),
    fun object => BinaryInput.arms.keepsWrite_iff_of_own object (by decide) (object.keepsOwn value),
    fun object exempt => BinaryOutput.arms.keepsWrite_iff_of_own object (by decide)
      fun own => absurd (mem_singleton.mp own) exempt,
    fun object => BinaryValue.arms.keepsWrite_iff_of_own object (by decide) (object.keepsOwn value),
    fun object => MultiStateInput.arms.keepsWrite_iff_of_own object (by decide)
      (object.keepsOwn value),
    fun object exempt => MultiStateOutput.arms.keepsWrite_iff_of_own object (by decide)
      (object.keepsOwn value exempt),
    fun object => MultiStateValue.arms.keepsWrite_iff_of_own object (by decide)
      (object.keepsOwn value),
    FileObject.keepsWrite_iff propertyId value, keepsWrite_iff propertyId value⟩

/-- The writes go to the store, the reads to the fields. -/
theorem accepted_write_lost :
    let output := (AnalogOutput.new 1 "AO").writeProperty .covIncrement (.real 0x3F800000)
    let file := (FileObject.new 1 "FILE").writeProperty .description (.characterString "log")
    let schedule := (new 1 "SCHED").writeProperty .priorityForWriting (.unsigned 256)
    output.1 = .ok () ∧ output.2.readProperty .covIncrement = .ok (.real 0x3DCCCCCD) ∧
      file.1 = .ok () ∧ file.2.readProperty .description = .ok (.characterString "") ∧
      schedule.1 = .ok () ∧ schedule.2.readProperty .priorityForWriting = .ok (.unsigned 1) :=
  ⟨rfl, rfl, rfl, rfl, rfl, rfl⟩

end Mabinogion.Bacnet
