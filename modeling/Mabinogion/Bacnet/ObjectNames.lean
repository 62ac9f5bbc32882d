import Mabinogion.Bacnet.DynamicObjects
import Mabinogion.Bacnet.RegistryInvariant

/-!
# Names of dynamic objects

When the objects of a registry keep distinct names, and can be found by them,
while clients create and delete objects.
-/

namespace Mabinogion.Bacnet

open BACnetObject Server CreateObjectHandler ObjectId ObjectRegistry Transducer
open Or (inl inr)

variable {inst : UInt32} {name : String}

namespace ObjectRegistry

variable {id : ObjectId}

section

variable {Object : Type} {registry : ObjectRegistry Object}

theorem containsName_eq_false (name : String) :
    registry.containsName name = false ↔ registry.names.lookup name = none :=
  Option.isSome_eq_false_iff.trans Option.isNone_iff_eq_none

theorem lt_succMax {instances : List Nat} {used : Nat} (listed : used ∈ instances) :
    used < succMax instances := by
  unfold succMax
  split
  · rename_i largest found
    exact Nat.lt_succ_of_le ((List.max?_eq_some_iff.mp found).2 used listed)
  · rename_i empty
    rw [List.max?_eq_none_iff.mp empty] at listed
    cases listed

theorem mem_instancesOf (registered : (registry.get id).isSome) :
    id.instanceNumber.toNat ∈ registry.instancesOf id.objectType := by
  apply List.mem_map_of_mem
  rw [List.mem_filter, mem_objectIds]
  exact ⟨registered, decide_eq_true rfl⟩

theorem nextAvailableInstance_free {objectType : ObjectType}
    (next : registry.nextAvailableInstance objectType = some inst) :
    inst ≤ maxInstance ∧ registry.get ⟨objectType, inst⟩ = none := by
  have range : maxInstance.toNat < UInt32.size := by decide
  simp only [nextAvailableInstance] at next
  split at next
  · cases next
  · rename_i small
    have exactly : inst.toNat = succMax (registry.instancesOf objectType) := by
      rw [← Option.some.inj next, UInt32.toNat_ofNat_of_lt']
      omega
    constructor
    · rw [UInt32.le_iff_toNat_le]
      omega
    · rw [← Option.not_isSome_iff_eq_none]
      intro registered
      have smaller := lt_succMax (mem_instancesOf registered)
      exact absurd exactly (Nat.ne_of_lt smaller)

end

variable {Object : Type} [BACnetObject Object] (registry : ObjectRegistry Object)

def DistinctNames : Prop :=
  ∀ id object other another, registry.get id = some object → registry.get other = some another →
    objectName object = objectName another → id = other

def InstancesBounded : Prop :=
  ∀ id, (registry.get id).isSome → id.instanceNumber ≤ maxInstance

/-- Each registered object is what its name leads to. -/
def Findable : Prop :=
  ∀ id object, registry.get id = some object → registry.getByName (objectName object) = some object

structure Sound (registry : ObjectRegistry Object) : Prop where
  distinct : registry.DistinctNames
  bounded : registry.InstancesBounded
  findable : registry.Findable

theorem sound_new : (new : ObjectRegistry Object).Sound where
  distinct _ _ _ _ present := nomatch present
  bounded _ present := nomatch present
  findable _ _ present := nomatch present

section

variable {registry : ObjectRegistry Object}

theorem Exact.getByName_iff (exact : registry.Exact) {object : Object}
    (present : registry.get id = some object) (name : String) :
    registry.getByName name = some object ↔ registry.names.lookup name = some id := by
  rw [getByName, Option.bind_eq_some_iff]
  constructor
  · intro found
    obtain ⟨other, indexed, same⟩ := found
    rw [indexed, ← exact.keyed other object same, exact.keyed id object present]
  · intro indexed
    exact ⟨id, indexed, present⟩

theorem Findable.name_ne (findable : registry.Findable)
    (unused : registry.containsName name = false) {object : Object}
    (present : registry.get id = some object) : objectName object ≠ name := by
  intro same
  have found := findable id object present
  rw [same, getByName, (containsName_eq_false name).mp unused] at found
  cases found

end

section

variable {registry : ObjectRegistry Object}

theorem Sound.forget (sound : registry.Sound) (exact : registry.Exact) {old : Object}
    (present : registry.get id = some old) : (registry.forget id old).Sound where
  distinct := by
    intro first object second another found foundAnother same
    exact sound.distinct first object second another (get_of_get_forget found).2
      (get_of_get_forget foundAnother).2 same
  bounded := by
    intro other registered
    obtain ⟨object, found⟩ := Option.isSome_iff_exists.mp registered
    apply sound.bounded other
    rw [(get_of_get_forget found).2]
    rfl
  findable := by
    intro other object found
    have kept := get_of_get_forget found
    have indexed := (exact.getByName_iff kept.2 _).mp (sound.findable other object kept.2)
    rw [(exact.forget present).getByName_iff found, ObjectRegistry.forget,
      KeyedTable.lookup_erase_eq, if_neg, indexed]
    -- the name that is removed belongs to another object
    intro same
    exact kept.1 (sound.distinct other object id old kept.2 present same)

theorem Sound.unregister (sound : registry.Sound) (exact : registry.Exact) :
    (registry.unregister id).2.Sound := by
  unfold ObjectRegistry.unregister
  split
  · rename_i object present
    exact sound.forget exact present
  · exact sound

end

section

variable {registry : ObjectRegistry Object} {object : Object}

theorem register_absent (absent : registry.get (objectIdentifier object) = none) :
    (registry.register object).2 = registry.enter object := by
  have withdrawn : registry.withdraw (objectIdentifier object) = registry := by
    unfold withdraw
    split
    · rename_i old present
      rw [← get, absent] at present
      cases present
    · rfl
  rw [register, withdrawn]

theorem Sound.enter (sound : registry.Sound) (exact : registry.Exact)
    (absent : registry.get (objectIdentifier object) = none)
    (small : (objectIdentifier object).instanceNumber ≤ maxInstance)
    (unused : registry.containsName (objectName object) = false) :
    (registry.enter object).Sound where
  distinct := by
    intro first one second two found foundTwo same
    rcases get_of_get_enter found with ⟨isNew, rfl⟩ | present
    · rcases get_of_get_enter foundTwo with ⟨isNewToo, _⟩ | present
      · rw [isNew, isNewToo]
      · exact absurd same.symm (sound.findable.name_ne unused present)
    · rcases get_of_get_enter foundTwo with ⟨_, rfl⟩ | presentTwo
      · exact absurd same (sound.findable.name_ne unused present)
      · exact sound.distinct first one second two present presentTwo same
  bounded := by
    intro id registered
    obtain ⟨other, found⟩ := Option.isSome_iff_exists.mp registered
    rcases get_of_get_enter found with ⟨isNew, _⟩ | present
    · rw [isNew]
      exact small
    · apply sound.bounded id
      rw [present]
      rfl
  findable := by
    intro id other found
    rw [(exact.enter absent).getByName_iff found, ObjectRegistry.enter, KeyedTable.lookup_insert_eq]
    rcases get_of_get_enter found with ⟨isNew, rfl⟩ | present
    · rw [if_pos rfl, isNew]
    · rw [if_neg (sound.findable.name_ne unused present)]
      exact (exact.getByName_iff present _).mp (sound.findable id other present)

/-- Sound exactly if the instance is in range and the name is not in use. -/
theorem sound_enter_iff (sound : registry.Sound) (exact : registry.Exact)
    (absent : registry.get (objectIdentifier object) = none) :
    (registry.enter object).Sound ↔ (objectIdentifier object).instanceNumber ≤ maxInstance ∧
      registry.containsName (objectName object) = false := by
  constructor
  · intro after
    constructor
    · apply after.bounded
      rw [get_enter_self]
      rfl
    · rw [containsName_eq_false, Option.eq_none_iff_forall_ne_some]
      intro id indexed
      obtain ⟨other, present, same⟩ := exact.named _ id indexed
      have kept := get_enter_of_get absent present
      exact kept.1 (after.distinct id other _ object kept.2 (get_enter_self _ _) same)
  · intro fresh
    exact sound.enter exact absent fresh.1 fresh.2

end

end ObjectRegistry

namespace CreateObjectHandler

open ObjectRegistry

section

variable {Object : Type} {registry : ObjectRegistry Object} {request : CreateObjectRequest}

theorem chooseInstance_eq_ok : chooseInstance registry request = .ok inst ↔
    (request.objectInstance = some inst ∧ registry.contains ⟨request.objectType, inst⟩ = false) ∨
    (request.objectInstance = none ∧ registry.nextAvailableInstance request.objectType = some inst)
    := by
  unfold chooseInstance
  cases request.objectInstance with
  | some asked => by_cases taken : registry.contains ⟨request.objectType, asked⟩ <;> grind
  | none => cases registry.nextAvailableInstance request.objectType <;> grind

theorem chooseName_eq_ok : chooseName registry request inst = .ok name ↔
    (request.objectName = some name ∧ registry.containsName name = false) ∨
    (request.objectName = none ∧ numberedName (objectTypePrefix request.objectType) inst = name) :=
    by
  unfold chooseName
  cases request.objectName with
  | some asked => by_cases taken : registry.containsName asked <;> grind
  | none => grind

theorem chooseInstance_free (assigned : chooseInstance registry request = .ok inst) :
    registry.get ⟨request.objectType, inst⟩ = none := by
  rcases chooseInstance_eq_ok.mp assigned with ⟨_, free⟩ | ⟨_, next⟩
  · exact Option.isNone_iff_eq_none.mp (Option.isSome_eq_false_iff.mp free)
  · exact (nextAvailableInstance_free next).2

end

variable {Object : Type} [BACnetObject Object] {handler : CreateObjectHandler Object}
  {registry : ObjectRegistry Object} {request : CreateObjectRequest}

structure Accepted (handler : CreateObjectHandler Object) (registry : ObjectRegistry Object)
    (request : CreateObjectRequest) (inst : UInt32) (name : String) : Prop where
  supported : handler.factory.supports request.objectType = true
  assigned : chooseInstance registry request = .ok inst
  named : chooseName registry request inst = .ok name

theorem identity_applyInitialValues (handler : CreateObjectHandler Object) (object : Object)
    (initialValues : List (PropertyId × BACnetValue)) :
    identity (applyInitialValues object initialValues) = identity object := by
  unfold applyInitialValues
  induction initialValues generalizing object with
  | nil => rfl
  | cons initial initialValues ih =>
    rw [List.foldl_cons, ih]
    split
    · rfl
    · exact handler.steady object initial.1 initial.2

theorem createObject_accepted (accepted : handler.Accepted registry request inst name) :
    ∃ object : Object, objectIdentifier object = ⟨request.objectType, inst⟩ ∧ objectName object =
      name ∧ handler.createObject request registry =
      (.ok ⟨request.objectType, inst⟩, registry.enter object) := by
  have supported := accepted.supported
  rw [ObjectFactory.supports, Option.isSome_iff_exists] at supported
  obtain ⟨build, present⟩ := supported
  have built := handler.faithful request.objectType build present inst name
  have initialised := identity_applyInitialValues handler (build inst name) request.initialValues
  rw [built, identity_eq_iff] at initialised
  rw [identity_eq_iff] at built
  have free : registry.get
      (objectIdentifier (applyInitialValues (build inst name) request.initialValues)) = none := by
    rw [initialised.1]
    exact chooseInstance_free accepted.assigned
  refine ⟨applyInitialValues (build inst name) request.initialValues, initialised.1,
    initialised.2, ?_⟩
  simp only [createObject, accepted.supported, accepted.assigned, accepted.named,
    ObjectFactory.create, present, Option.map_some, register_absent free, built.1]
  rfl

theorem createObject_refused (refused : ∀ inst name, ¬handler.Accepted registry request inst name) :
    ∃ result, handler.createObject request registry = (.error result, registry) := by
  unfold createObject
  split
  · exact ⟨_, rfl⟩
  · rename_i supported
    split
    · exact ⟨_, rfl⟩
    · rename_i inst assigned
      split
      · exact ⟨_, rfl⟩
      · rename_i name named
        apply absurd _ (refused inst name)
        exact ⟨by simpa using supported, assigned, named⟩

/-- A creation is harmless if the instance asked for is in range and no made-up name is in use. So
is a request that fails. -/
def Harmless (handler : CreateObjectHandler Object) (registry : ObjectRegistry Object)
    (request : CreateObjectRequest) : Prop :=
  handler.factory.supports request.objectType = true →
    match request.objectInstance, request.objectName with
    | some inst, some name =>
      registry.contains ⟨request.objectType, inst⟩ = false →
        registry.containsName name = false → inst ≤ maxInstance
    | some inst, none =>
      registry.contains ⟨request.objectType, inst⟩ = false → inst ≤ maxInstance ∧
          registry.containsName (numberedName (objectTypePrefix request.objectType) inst) = false
    | none, some _ => True
    | none, none =>
      ∀ inst, registry.nextAvailableInstance request.objectType = some inst →
        registry.containsName (numberedName (objectTypePrefix request.objectType) inst) = false

theorem harmless_iff : handler.Harmless registry request ↔
      ∀ inst name, handler.Accepted registry request inst name →
      inst ≤ maxInstance ∧ registry.containsName name = false := by
  constructor
  · intro harmless inst name accepted
    have safe := harmless accepted.supported
    rcases chooseInstance_eq_ok.mp accepted.assigned with ⟨asked, free⟩ | ⟨automatic, next⟩
    · rcases chooseName_eq_ok.mp accepted.named with ⟨given, unused⟩ | ⟨absent, made⟩
      · rw [asked, given] at safe
        exact ⟨safe free unused, unused⟩
      · rw [asked, absent] at safe
        rw [← made]
        exact safe free
    · have small := (nextAvailableInstance_free next).1
      rcases chooseName_eq_ok.mp accepted.named with ⟨given, unused⟩ | ⟨absent, made⟩
      · exact ⟨small, unused⟩
      · rw [automatic, absent] at safe
        rw [← made]
        exact ⟨small, safe inst next⟩
  · intro fresh supported
    split
    · rename_i inst name asked given
      intro free unused
      have assigned := chooseInstance_eq_ok.mpr (inl ⟨asked, free⟩)
      exact (fresh inst name ⟨supported, assigned, chooseName_eq_ok.mpr (inl ⟨given, unused⟩)⟩).1
    · rename_i inst asked absent
      intro free
      have assigned := chooseInstance_eq_ok.mpr (inl ⟨asked, free⟩)
      exact fresh inst _ ⟨supported, assigned, chooseName_eq_ok.mpr (inr ⟨absent, rfl⟩)⟩
    · exact trivial
    · rename_i automatic absent
      intro inst next
      have assigned := chooseInstance_eq_ok.mpr (inr ⟨automatic, next⟩)
      exact (fresh inst _ ⟨supported, assigned, chooseName_eq_ok.mpr (inr ⟨absent, rfl⟩)⟩).2

end CreateObjectHandler

namespace ObjectRegistry

variable {Object : Type} [BACnetObject Object] (handler : CreateObjectHandler Object)

/-- No deletion and no malformed request does harm. -/
def Harmless (registry : ObjectRegistry Object) : ObjectRequest → Prop
  | .create (.ok request) => handler.Harmless registry request
  | .create (.error _) | .delete _ => True

section

variable {registry : ObjectRegistry Object}

theorem create_cases (request : CreateObjectRequest) :
    (∃ inst name object, handler.Accepted registry request inst name ∧
      objectIdentifier object = ⟨request.objectType, inst⟩ ∧ objectName object = name ∧
      registry.get (objectIdentifier object) = none ∧
      respond handler registry (.create (.ok request)) =
        (.complexAck (encodeCreateObjectAck ⟨request.objectType, inst⟩), registry.enter object)) ∨
    ((∀ inst name, ¬handler.Accepted registry request inst name) ∧
      (respond handler registry (.create (.ok request))).2 = registry) := by
  by_cases possible : ∃ inst name, handler.Accepted registry request inst name
  · obtain ⟨inst, name, accepted⟩ := possible
    obtain ⟨object, identified, called, created⟩ :=
      createObject_accepted accepted
    refine inl ⟨inst, name, object, accepted, identified, called, ?_, ?_⟩
    · rw [identified]
      exact chooseInstance_free accepted.assigned
    · rw [respond, handle]
      simp only [created]
  · simp only [not_exists] at possible
    obtain ⟨result, refused⟩ := createObject_refused possible
    refine inr ⟨possible, ?_⟩
    rw [respond, handle]
    simp only [refused]

theorem delete_cases (decoded : Except String ObjectId) :
    (∃ id, respond handler registry (.delete decoded) = (.simpleAck, (registry.unregister id).2)) ∨
    (respond handler registry (.delete decoded)).2 = registry := by
  rw [respond]
  unfold DeleteObjectHandler.handle
  split
  · exact inr rfl
  · split
    · exact inr rfl
    · split
      · exact inr rfl
      · exact inl ⟨_, rfl⟩

theorem Exact.respond (exact : registry.Exact) (request : ObjectRequest) :
    (respond handler registry request).2.Exact := by
  cases request with
  | create decoded =>
    cases decoded with
    | error => exact exact
    | ok request =>
      rcases create_cases handler request with ⟨_, _, object, _, _, _, free, created⟩ | ⟨_, same⟩
      · rw [created]
        exact exact.enter free
      · rw [same]
        exact exact
  | delete decoded =>
    rcases delete_cases handler decoded with ⟨id, deleted⟩ | same
    · rw [deleted]
      exact exact.unregister id
    · rw [same]
      exact exact

theorem sound_respond_iff (exact : registry.Exact) (sound : registry.Sound)
    (request : ObjectRequest) :
    (respond handler registry request).2.Sound ↔ Harmless handler registry request := by
  cases request with
  | create decoded =>
    cases decoded with
    | error => exact iff_of_true sound trivial
    | ok request =>
      rw [Harmless, harmless_iff]
      rcases create_cases handler request with
        ⟨inst, name, object, accepted, identified, called, free, created⟩ | ⟨refused, same⟩
      · rw [created, sound_enter_iff sound exact free, identified, called]
        constructor
        · intro fresh other another acceptedToo
          -- the request determines its instance, and both its name
          cases accepted.assigned.symm.trans acceptedToo.assigned
          cases accepted.named.symm.trans acceptedToo.named
          exact fresh
        · intro fresh
          exact fresh inst name accepted
      · rw [same]
        exact iff_of_true sound fun inst name accepted => absurd accepted (refused inst name)
  | delete decoded =>
    apply iff_of_true _ trivial
    rcases delete_cases handler decoded with ⟨id, deleted⟩ | same
    · rw [deleted]
      exact sound.unregister exact
    · rw [same]
      exact sound

/-- The results that tell the client that its request was not carried out. -/
def failed : ServiceResult → Bool
  | .error _ _ | .reject _ | .abort _ => true
  | _ => false

theorem respond_failed {request : ObjectRequest}
    (refused : failed (respond handler registry request).1) :
    (respond handler registry request).2 = registry := by
  cases request with
  | create decoded =>
    cases decoded with
    | error => rfl
    | ok request =>
      rcases create_cases handler request with ⟨_, _, _, _, _, _, _, created⟩ | ⟨_, same⟩
      · rw [created] at refused
        cases refused
      · exact same
  | delete decoded =>
    rcases delete_cases handler decoded with ⟨_, deleted⟩ | same
    · rw [deleted] at refused
      cases refused
    · exact same

end

/-- All requests keep the names distinct and every object found by its name exactly if this was so
at first and each request was harmless when it came. -/
theorem requests_keep_names_iff (calls : List (Call Object)) (requests : List ObjectRequest)
    (distinct : (after calls).DistinctNames) (bounded : (after calls).InstancesBounded) :
    ((∀ registry ∈ states (respond handler) (after calls) requests, registry.Sound) ↔
      (after calls).Findable ∧ ∀ arrival ∈ arrivals (respond handler) (after calls) requests,
          Harmless handler arrival.1 arrival.2) ∧
    ∀ arrival ∈ arrivals (respond handler) (after calls) requests,
      failed (respond handler arrival.1 arrival.2).1 →
        (respond handler arrival.1 arrival.2).2 = arrival.1 := by
  have start : (after calls).Sound ↔ (after calls).Findable :=
    ⟨fun sound => sound.findable, fun findable => ⟨distinct, bounded, findable⟩⟩
  constructor
  · rw [← start]
    exact states_hold_iff (respond handler) (fun _ request exact => exact.respond handler request)
      (fun _ request exact sound => sound_respond_iff handler exact sound request)
      (after calls) requests (exact_after calls)
  · intro arrival _ refused
    exact respond_failed handler refused

theorem names_kept_by_creation :
    (after [.register (.analogInput (.new 0 "Lobby"))] : ObjectRegistry ArcObject).DistinctNames ∧
      ∀ registry ∈ states (respond .new) (after [.register (.analogInput (.new 0 "Lobby"))])
        [.create (.ok ⟨.analogInput, none, none, []⟩)], registry.Sound := by
  have start :
      (after [.register (.analogInput (.new 0 "Lobby"))] : ObjectRegistry ArcObject).Sound :=
    sound_new.enter exact_new rfl (by decide) rfl
  refine ⟨start.distinct, ?_⟩
  apply (requests_keep_names_iff .new _ _ start.distinct start.bounded).1.mpr
  refine ⟨start.findable, ?_⟩
  intro arrival listed
  cases List.mem_singleton.mp listed
  intro _ inst next
  have second : inst = 1 := (Option.some.inj next).symm
  rw [second]
  rfl

/-- A name that the server makes up is not looked up. -/
theorem made_up_name_in_use : let requests : List ObjectRequest :=
      [.create (.ok ⟨.analogInput, some 0, some "AI_1", []⟩),
        .create (.ok ⟨.analogInput, none, none, []⟩)]
    let registry := final (respond .new) (after []) requests
    (registry.get ⟨.analogInput, 0⟩).map objectName = some "AI_1" ∧
      (registry.get ⟨.analogInput, 1⟩).map objectName = some "AI_1" ∧
      (registry.getByName "AI_1").map objectIdentifier = some ⟨.analogInput, 1⟩ := by
  decide

end ObjectRegistry

end Mabinogion.Bacnet
