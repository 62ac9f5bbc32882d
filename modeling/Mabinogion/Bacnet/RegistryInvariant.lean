import Mabinogion.Bacnet.Registry
import Mabinogion.Bacnet.StandardObjects

/-!
# The indexes of the registry

A registry stands for a partial function from identifiers to objects, with which
its index of names and its counts agree after any calls.
-/

namespace Mabinogion.Bacnet.ObjectRegistry

open KeyedTable BACnetObject Function ObjectRegistry AList Transducer

section

variable {Object : Type} (registry : ObjectRegistry Object)

theorem countKeys_eq_filter (objectType : ObjectType) :
    countKeys (fun id => id.objectType = objectType) registry.objects =
      (registry.objectIds.filter fun id => id.objectType = objectType).length := by
  rw [objectIds, AList.keys, List.keys, List.filter_map, List.length_map, countKeys,
    List.countP_eq_length_filter]
  rfl

theorem mem_objectIds (id : ObjectId) : id ∈ registry.objectIds ↔ (registry.get id).isSome :=
  lookup_isSome.symm

end

variable {Object : Type} [BACnetObject Object]

abbrev Registered (Object : Type) := ObjectId → Option Object

section

variable (registered : Registered Object)

def registerIn (object : Object) : Registered Object :=
  Function.update registered (objectIdentifier object) (some object)

/-- What each call is for. -/
def registeredBehind : Call Object → Registered Object
  | .register object => registerIn registered object
  | .unregister id => Function.update registered id none
  | .clear => fun _ => none
  | .populateStandardObjects descriptors countPerType =>
    (standardObjects descriptors countPerType).foldl registerIn registered

end

section

variable (registry : ObjectRegistry Object) (id : ObjectId) (object : Object)

theorem get_forget (old : Object) : (registry.forget id old).get = update registry.get id none := by
  funext other
  rw [get, forget, lookup_erase_eq, update_apply]
  rfl

theorem get_enter : (registry.enter object).get = registerIn registry.get object := by
  funext other
  rw [get, enter, lookup_insert_eq, registerIn, update_apply]
  rfl

theorem get_of_get_forget {registry : ObjectRegistry Object} {id other : ObjectId}
    {old object : Object} (found : (registry.forget id old).get other = some object) :
    other ≠ id ∧ registry.get other = some object := by
  rw [get_forget, update_apply] at found
  split at found
  · cases found
  · rename_i different
    exact ⟨different, found⟩

theorem get_of_get_enter {registry : ObjectRegistry Object} {object another : Object}
    {other : ObjectId} (found : (registry.enter object).get other = some another) :
    (other = objectIdentifier object ∧ another = object) ∨ registry.get other = some another := by
  rw [get_enter, registerIn, update_apply] at found
  split at found
  · rename_i same
    exact Or.inl ⟨same, (Option.some.inj found).symm⟩
  · exact Or.inr found

theorem get_enter_self : (registry.enter object).get (objectIdentifier object) = some object := by
  rw [get_enter, registerIn, update_self]

theorem get_enter_of_get {registry : ObjectRegistry Object} {object another : Object}
    {other : ObjectId} (absent : registry.get (objectIdentifier object) = none)
    (present : registry.get other = some another) :
    other ≠ objectIdentifier object ∧ (registry.enter object).get other = some another := by
  have different : other ≠ objectIdentifier object := by
    intro same
    rw [same, absent] at present
    cases present
  rw [get_enter, registerIn, update_of_ne different]
  exact ⟨different, present⟩

theorem get_withdraw : (registry.withdraw id).get = update registry.get id none := by
  unfold withdraw
  split
  · exact get_forget registry id _
  · rename_i absent
    rw [update_eq_self_iff.mpr]
    exact absent.symm

theorem get_register : (registry.register object).2.get = registerIn registry.get object := by
  rw [register, get_enter, get_withdraw, registerIn, registerIn, update_idem]

theorem get_unregister : (registry.unregister id).2.get = update registry.get id none := by
  rw [← get_withdraw]
  unfold unregister withdraw
  split <;> rfl

theorem get_populate (objects : List Object) :
    (objects.foldl (fun registry object => (registry.register object).2) registry).get =
      objects.foldl registerIn registry.get := by
  induction objects generalizing registry with
  | nil => rfl
  | cons object objects ih => rw [List.foldl_cons, List.foldl_cons, ih, get_register]

theorem get_step (call : Call Object) :
    (registry.step call).2.get = registeredBehind registry.get call := by
  cases call with
  | register object => exact get_register registry object
  | unregister id => exact get_unregister registry id
  | clear => rfl
  | populateStandardObjects => exact get_populate registry _

end

structure Exact (registry : ObjectRegistry Object) : Prop where
  keyed : ∀ id object, registry.get id = some object → objectIdentifier object = id
  counted : ∀ objectType, registry.countByType objectType =
    countKeys (fun id => id.objectType = objectType) registry.objects
  named : ∀ name id, registry.names.lookup name = some id →
    ∃ object, registry.get id = some object ∧ objectName object = name

section

theorem exact_new : (new : ObjectRegistry Object).Exact where
  keyed _ _ present := nomatch present
  counted _ := rfl
  named _ _ present := nomatch present

theorem count_countDown (counts : Table ObjectType Nat) (objectType other : ObjectType) :
    ((countDown counts objectType).lookup other).getD 0 =
      (counts.lookup other).getD 0 - if objectType = other then 1 else 0 := by
  by_cases same : objectType = other
  · rw [if_pos same, ← same, countDown]
    split
    · rename_i count present
      rw [lookup_insert, present]
      rfl
    · rename_i absent
      rw [absent]
      rfl
  · rw [if_neg same, countDown]
    split
    · rw [lookup_insert_ne (Ne.symm same)]
      rfl
    · rfl

theorem count_countUp (counts : Table ObjectType Nat) (objectType other : ObjectType) :
    ((countUp counts objectType).lookup other).getD 0 =
      (counts.lookup other).getD 0 + if objectType = other then 1 else 0 := by
  by_cases same : objectType = other
  · rw [if_pos same, ← same, countUp]
    split
    · rename_i count present
      rw [lookup_insert, present]
      rfl
    · rename_i absent
      rw [lookup_insert, absent]
      rfl
  · rw [if_neg same, countUp]
    split
    · rw [lookup_insert_ne (Ne.symm same)]
      rfl
    · rw [lookup_insert_ne (Ne.symm same)]
      rfl

variable {registry : ObjectRegistry Object}

theorem get_withdraw_self (id : ObjectId) : (registry.withdraw id).get id = none := by
  rw [get_withdraw, update_self]

section

variable (exact : registry.Exact)

include exact

theorem Exact.forget {id : ObjectId} {old : Object}
    (present : registry.get id = some old) : (registry.forget id old).Exact where
  keyed := by
    intro other object found
    exact exact.keyed other object (get_of_get_forget found).2
  counted := by
    intro objectType
    have before := exact.counted objectType
    have removed := countKeys_erase_present (fun id => id.objectType = objectType) id old
      registry.objects present
    rw [countByType] at before ⊢
    rw [ObjectRegistry.forget, count_countDown, before, ← removed]
    simp only [decide_eq_true_eq, Nat.add_sub_cancel]
  named := by
    intro name other found
    rw [ObjectRegistry.forget, lookup_erase_eq] at found
    split at found
    · cases found
    · rename_i different
      obtain ⟨object, registered, called⟩ := exact.named name other found
      refine ⟨object, ?_, called⟩
      rw [get_forget, update_apply, if_neg, registered]
      intro same
      rw [same, present] at registered
      rw [← Option.some.inj registered] at called
      exact different called.symm

theorem Exact.enter {object : Object}
    (absent : registry.get (objectIdentifier object) = none) : (registry.enter object).Exact where
  keyed := by
    intro id other found
    rcases get_of_get_enter found with ⟨isNew, rfl⟩ | present
    · exact isNew.symm
    · exact exact.keyed id other present
  counted := by
    intro objectType
    have before := exact.counted objectType
    have added := countKeys_insert_absent (fun id => id.objectType = objectType)
      (objectIdentifier object) object registry.objects absent
    rw [countByType] at before ⊢
    rw [ObjectRegistry.enter, count_countUp, before, added]
    simp only [decide_eq_true_eq]
  named := by
    intro name id found
    rw [ObjectRegistry.enter, lookup_insert_eq] at found
    split at found
    · rename_i same
      rw [← Option.some.inj found, get_enter_self]
      exact ⟨object, rfl, same.symm⟩
    · obtain ⟨other, registered, called⟩ := exact.named name id found
      exact ⟨other, (get_enter_of_get absent registered).2, called⟩

theorem Exact.withdraw (id : ObjectId) : (registry.withdraw id).Exact := by
  unfold ObjectRegistry.withdraw
  split
  · rename_i old present
    exact exact.forget present
  · exact exact

theorem Exact.register (object : Object) : (registry.register object).2.Exact :=
  (exact.withdraw (objectIdentifier object)).enter (get_withdraw_self _)

theorem Exact.unregister (id : ObjectId) : (registry.unregister id).2.Exact := by
  unfold ObjectRegistry.unregister
  split
  · rename_i object present
    exact exact.forget present
  · exact exact

theorem Exact.populate (objects : List Object) :
    (objects.foldl (fun registry object => (registry.register object).2) registry).Exact := by
  induction objects generalizing registry with
  | nil => exact exact
  | cons object objects ih => exact ih (exact.register object)

theorem Exact.step (call : Call Object) : (registry.step call).2.Exact := by
  cases call with
  | register object => exact exact.register object
  | unregister id => exact exact.unregister id
  | clear => exact exact_new
  | populateStandardObjects => exact exact.populate _

end

end

section

def registered (calls : List (Call Object)) : Registered Object :=
  calls.foldl registeredBehind fun _ => none

variable (registry : ObjectRegistry Object) (calls : List (Call Object))

theorem get_final :
    (final step registry calls).get = calls.foldl registeredBehind registry.get := by
  induction calls generalizing registry with
  | nil => rfl
  | cons call calls ih => rw [final_cons, List.foldl_cons, ih, get_step]

theorem exact_after : (after calls).Exact :=
  final_invariant step (fun _ call exact => exact.step call) new calls exact_new

theorem register_returns_none (object : Object) : (registry.register object).1 = none :=
  get_withdraw_self (objectIdentifier object)

/-- After any calls the indexes agree with the registered objects, and a registration returns the
object that had the identifier exactly if there was none. -/
theorem registry_indexes_exact (calls : List (Call Object)) : (after calls).get = registered calls ∧
    (∀ id, id ∈ (after calls).objectIds ↔ (registered calls id).isSome) ∧
    (∀ objectType, (after calls).countByType objectType =
      ((after calls).objectIds.filter fun id => id.objectType = objectType).length) ∧
    (after calls).len = (after calls).objectIds.toFinset.card ∧
    (∀ name id, (after calls).names.lookup name = some id →
      ∃ object, registered calls id = some object ∧ objectName object = name) ∧
    ∀ object : Object,
      ((after calls).register object).1 = registered calls (objectIdentifier object) ↔
        registered calls (objectIdentifier object) = none := by
  have same : (after calls).get = registered calls := get_final new calls
  have exact := exact_after calls
  rw [← same]
  refine ⟨rfl, mem_objectIds _, ?_, size_eq_card _, exact.named, ?_⟩
  · intro objectType
    rw [exact.counted, countKeys_eq_filter]
  · intro object
    rw [register_returns_none]
    exact eq_comm

/-- The old object is taken out before the new one is inserted. -/
theorem replaced_object_not_returned : let registry := after [.register (AnalogInput.new 1 "old")]
    (registry.get ⟨.analogInput, 1⟩).map objectName = some "old" ∧
      (registry.register (AnalogInput.new 1 "new")).1.map objectName = none := by
  decide

end

end Mabinogion.Bacnet.ObjectRegistry
