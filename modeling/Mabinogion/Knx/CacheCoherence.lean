import Mabinogion.Knx.ChannelAllocation
import Mabinogion.Knx.SendEffects

/-!
# The cache and the group objects

The cache takes the value of a write that the object refuses and of any broadcast, and the
table takes a response that the cache does not see. A run in which no frame does this keeps
the two in agreement.
-/

namespace Mabinogion.Knx

open Checked KeyedTable GroupValueCache GroupObjectTable Transducer CacheEntry GroupValueCacheConfig
open Triple
open GroupObject
open Or (inl inr)

theorem CacheEntry.isExpired_earlier {entry : CacheEntry} {ttl now later : Nat}
    (passes : now ≤ later) (live : entry.isExpired ttl later = false) :
    entry.isExpired ttl now = false := by
  rw [isExpired] at live ⊢
  split_ifs at live ⊢
  · rfl
  · rw [decide_eq_false_iff_not] at live ⊢
    omega

variable (objects : GroupObjectTable)

def GroupObjectTable.stored (address : GroupAddress) (data : Bytes) : GroupObjectTable :=
  match objects.write address data with
  | .ok written => written
  | .error _ => objects

theorem GroupObjectTable.lookup_stored_other
    {address other : GroupAddress} (data : Bytes) (differs : other ≠ address) :
    (objects.stored address data).lookup other = objects.lookup other := by
  rw [stored, write]
  cases found : objects.lookup address with
  | none => rfl
  | some object =>
    dsimp only
    rw [writeRaw]
    cases object.flags.write with
    | false => rfl
    | true => exact AList.lookup_insert_ne differs

theorem GroupObjectTable.lookup_stored_self {objects : GroupObjectTable} {address : GroupAddress}
    {data : Bytes} {object : GroupObject}
    (found : (objects.stored address data).lookup address = some object) :
    ∃ old, objects.lookup address = some old ∧
      object.value = if old.flags.write = true then data else old.value := by
  cases present : objects.lookup address with
  | none =>
    simp only [stored, write, present] at found
    cases found
  | some old =>
    refine ⟨old, rfl, ?_⟩
    by_cases writable : old.flags.write = true
    · simp only [stored, write, present, writeRaw, writable, Bool.not_true,
        Bool.false_eq_true, if_false, AList.lookup_insert, Option.some.injEq] at found
      rw [if_pos writable, ← found]
    · simp only [stored, write, present, writeRaw, writable, Bool.not_false,
        if_true, Option.some.injEq] at found
      rw [if_neg writable, ← found]

def GroupValueCacheConfig.updatesOn (config : GroupValueCacheConfig) : UpdateSource → Bool
  | .write => config.enabled && config.autoUpdateOnWrite
  | .indication => config.enabled && config.autoUpdateOnIndication

namespace GroupValueCache

variable {cache : GroupValueCache} {address other : GroupAddress} {value : Bytes}
  {source : UpdateSource} {now : Nat} {entry : CacheEntry}

/-- An entry of the cache is one of the earlier cache, but for the time of its last access. -/
def Carries (earlier cache : GroupValueCache) (address : GroupAddress) : Prop :=
  ∀ entry, cache.entries.lookup address = some entry →
    ∃ old, earlier.entries.lookup address = some old ∧ old.value = entry.value ∧
      old.updatedAt = entry.updatedAt

theorem carries_of_lookup {earlier : GroupValueCache}
    (kept : ∀ entry, cache.entries.lookup address = some entry →
      earlier.entries.lookup address = some entry) : Carries earlier cache address := by
  intro entry found
  exact ⟨entry, kept entry found, rfl, rfl⟩

theorem lookup_of_erase (found : (cache.entries.erase address).lookup other = some entry) :
    cache.entries.lookup other = some entry := by
  rw [lookup_erase_eq] at found
  split_ifs at found
  exact found

theorem lookup_of_evictIfNeeded (found : cache.evictIfNeeded.entries.lookup other = some entry) :
    cache.entries.lookup other = some entry := by
  rw [evictIfNeeded] at found
  split_ifs at found
  · exact found
  · split at found
    · exact lookup_of_erase found
    · exact found

theorem config_evictIfNeeded : cache.evictIfNeeded.config = cache.config := by
  rw [evictIfNeeded]
  split_ifs
  · rfl
  · split <;> rfl

theorem config_get : (cache.get address now).2.config = cache.config := by
  rw [get]
  split_ifs
  · rfl
  · split
    · split_ifs <;> rfl
    · rfl

theorem carries_get : Carries cache (cache.get address now).2 other := by
  rw [get]
  split_ifs
  · exact carries_of_lookup fun _ found => found
  · cases present : cache.entries.lookup address with
    | none => exact carries_of_lookup fun _ found => found
    | some old =>
      dsimp only
      split_ifs
      · exact carries_of_lookup fun _ found => lookup_of_erase found
      · intro entry found
        have looked : (cache.entries.insert address { old with accessedAt := now }).lookup other =
            some entry := found
        rw [lookup_insert_eq] at looked
        split_ifs at looked with same
        · rw [same, ← Option.some.inj looked]
          exact ⟨old, present, rfl, rfl⟩
        · exact ⟨entry, looked, rfl, rfl⟩

theorem get_eq_some (returned : (cache.get address now).1 = some value) :
    ∃ entry, cache.entries.lookup address = some entry ∧
      entry.isExpired cache.config.ttl now = false ∧ entry.value = value := by
  rw [get] at returned
  split_ifs at returned
  cases present : cache.entries.lookup address with
  | none =>
    rw [present] at returned
    cases returned
  | some entry =>
    rw [present] at returned
    dsimp only at returned
    split_ifs at returned with expired
    exact ⟨entry, rfl, Bool.eq_false_of_not_eq_true expired, Option.some.inj returned⟩

theorem update_off (off : cache.config.updatesOn source = false) :
    cache.update address value source now = cache := by
  cases enabled : cache.config.enabled with
  | false => simp only [update, enabled, Bool.not_false, if_true]
  | true =>
    cases source <;>
      simp only [updatesOn, enabled, Bool.true_and] at off <;>
      simp only [update, off, Bool.not_false, if_true, ite_self]

theorem update_on (on : cache.config.updatesOn source = true) :
    cache.update address value source now =
      let room := if (cache.entries.lookup address).isSome then cache else cache.evictIfNeeded
      { room with entries := room.entries.insert address ⟨value, now, now⟩ } := by
  cases source <;>
    simp only [updatesOn, Bool.and_eq_true] at on <;>
    simp only [update, on, Bool.not_true, Bool.false_eq_true, if_false] <;>
    cases cache.entries.lookup address <;> rfl

theorem config_update : (cache.update address value source now).config = cache.config := by
  cases on : cache.config.updatesOn source with
  | false => rw [update_off on]
  | true =>
    rw [update_on on]
    split_ifs
    · rfl
    · exact config_evictIfNeeded

theorem lookup_update_self (on : cache.config.updatesOn source = true) :
    (cache.update address value source now).entries.lookup address = some ⟨value, now, now⟩ := by
  rw [update_on on]
  exact AList.lookup_insert _

theorem carries_update_other (differs : other ≠ address) :
    Carries cache (cache.update address value source now) other := by
  apply carries_of_lookup
  intro entry found
  cases on : cache.config.updatesOn source with
  | false =>
    rw [update_off on] at found
    exact found
  | true =>
    rw [update_on on] at found
    rw [AList.lookup_insert_ne differs] at found
    split_ifs at found
    · exact found
    · exact lookup_of_evictIfNeeded found

end GroupValueCache

namespace World

/-- What the cache would return for the address is the value of its object. -/
def AgreesAt (world : World) (address : GroupAddress) : Prop :=
  ∀ entry object, world.server.groupValueCache.entries.lookup address = some entry →
    entry.isExpired world.server.groupValueCache.config.ttl world.clock = false →
    world.server.groupObjects.lookup address = some object → entry.value = object.value

variable {Value : Type} {handler : Handler Value} {before after : World} {address : GroupAddress}

theorem AgreesAt.carry (agrees : before.AgreesAt address) (clock : before.clock ≤ after.clock)
    (config : after.server.groupValueCache.config = before.server.groupValueCache.config)
    (carries : Carries before.server.groupValueCache after.server.groupValueCache
      address)
    (objects : ∀ object, after.server.groupObjects.lookup address = some object →
      ∃ old, before.server.groupObjects.lookup address = some old ∧ old.value = object.value) :
    after.AgreesAt address := by
  intro entry object cached live found
  rcases carries entry cached with ⟨earlier, earlierCached, sameValue, sameTime⟩
  rcases objects object found with ⟨old, earlierFound, sameObject⟩
  have earlierLive : earlier.isExpired before.server.groupValueCache.config.ttl before.clock =
      false := by
    apply isExpired_earlier clock
    rw [isExpired, sameTime, ← config]
    exact live
  rw [← sameValue, ← sameObject]
  exact agrees earlier old earlierCached earlierLive earlierFound

theorem AgreesAt.aside (agrees : before.AgreesAt address) (aside : Aside before after) :
    after.AgreesAt address := by
  apply agrees.carry aside.clock aside.cacheConfig
  · rw [aside.cache]
    exact carries_of_lookup fun _ found => found
  · rw [aside.objects]
    exact fun object found => ⟨object, found, rfl⟩

def Valued (world : World) (address : GroupAddress) (data : Bytes) : Prop :=
  ∀ object, world.server.groupObjects.lookup address = some object → object.value = data

structure Coherent (world : World) : Prop where
  keyed : Keyed TunnelConnection.channelId world.server.connections.connections
  agrees : ∀ address, world.AgreesAt address

theorem Coherent.aside (coherent : before.Coherent) (aside : Aside before after) :
    after.Coherent where
  keyed := aside.keyed coherent.keyed
  agrees := fun address => (coherent.agrees address).aside aside

theorem Coherent.idle (start : before.Coherent) (idle : Idle handler) :
    Leads (Aside before) handler Coherent :=
  (idle before).weaken (fun _ aside => aside) (fun _ _ aside => start.aside aside)
    (fun _ failed => start.aside failed.1)

theorem Coherent.ofIdle (idle : Idle handler) : Keeps Coherent handler := by
  intro world coherent
  exact coherent.idle idle world (Aside.refl world)

end World

/-- The frame writes its data to the object, where the object allows it. -/
def CemiFrame.Stores (cemi : CemiFrame) : Prop :=
  cemi.apci = .groupValueWrite ∨ cemi.apci = .groupValueResponse

instance (cemi : CemiFrame) : Decidable cemi.Stores := inferInstanceAs (Decidable (_ ∨ _))

/-- The object has the frame's data for its value, or takes it. -/
def GroupObject.Takes (object : GroupObject) (cemi : CemiFrame) : Prop :=
  object.value = cemi.data ∨ object.flags.write = true ∧ cemi.Stores

instance (object : GroupObject) (cemi : CemiFrame) : Decidable (object.Takes cemi) :=
  inferInstanceAs (Decidable (_ ∨ _))

namespace World

variable (world : World)

def remembers (address : GroupAddress) : Bool :=
  match world.server.groupValueCache.entries.lookup address with
  | some entry => !entry.isExpired world.server.groupValueCache.config.ttl world.clock
  | none => false

def CachesWrite (cemi : CemiFrame) : Prop :=
  cemi.apci = .groupValueWrite ∧ world.server.groupValueCache.config.updatesOn .write = true

/-- The frame is for the other channels as well, there are others, and the cache follows
indications. -/
def Indicates (cemi : CemiFrame) (source : UInt8) : Prop :=
  cemi.messageCode = .lDataReq ∧ world.server.config.ldataIndBroadcastEnabled = true ∧
    world.server.groupValueCache.config.updatesOn .indication = true ∧
    ∃ other ∈ world.server.connections.connections.keys, other ≠ source

variable (world : World) (cemi : CemiFrame) (source : UInt8)

instance : Decidable (world.CachesWrite cemi) := inferInstanceAs (Decidable (_ ∧ _))

instance : Decidable (world.Indicates cemi source) :=
  inferInstanceAs (Decidable (_ ∧ _ ∧ _ ∧ _))

/-- The object takes the data that may be cached, and what it takes replaces the cached data. -/
def Follows (world : World) (cemi : CemiFrame) (source : UInt8) (address : GroupAddress)
    (object : GroupObject) : Prop :=
  (world.CachesWrite cemi ∨ world.Indicates cemi source → object.Takes cemi) ∧
    (object.flags.write = true ∧ cemi.Stores ∧ object.value ≠ cemi.data →
      world.remembers address = false ∨ world.CachesWrite cemi ∨
        world.Indicates cemi source ∧ world.Delivers)

instance (address : GroupAddress) (object : GroupObject) :
    Decidable (world.Follows cemi source address object) :=
  inferInstanceAs (Decidable (_ ∧ _))

/-- What is asked of a frame with a group value that is processed. -/
def Consistent (world : World) (cemi : CemiFrame) (source : UInt8) : Prop :=
  cemi.messageCode = .lDataReq ∨ cemi.messageCode = .lDataInd →
    ∀ address ∈ cemi.destinationGroup, ∀ object ∈ world.server.groupObjects.lookup address,
      world.Follows cemi source address object

instance : Decidable (world.Consistent cemi source) := inferInstanceAs (Decidable (_ → _))

end World

section

open World

/-- The cache may be behind for this address only, where it is sure to be updated. -/
structure Stage (before : World) (address : GroupAddress) (data : Bytes) (may sure : Prop)
    (world : World) : Prop where
  onward : Onward before world
  off : ∀ other, other ≠ address → world.AgreesAt other
  settled : world.AgreesAt address ∨ sure
  valued : may → world.Valued address data

namespace Stage

variable {before world after : World} {address : GroupAddress} {data : Bytes}
  {may sure : Prop}

section

variable (stage : Stage before address data may sure world)

include stage

theorem weaken {maybe surely : Prop} (less : maybe → may) (more : sure → surely) :
    Stage before address data maybe surely world :=
  ⟨stage.onward, stage.off, stage.settled.imp_right more, fun holds => stage.valued (less holds)⟩

theorem coherent (start : before.Coherent) (unsure : ¬sure) : world.Coherent where
  keyed := stage.onward.keyed start.keyed
  agrees := by
    intro other
    by_cases same : other = address
    · rw [same]
      exact stage.settled.resolve_right unsure
    · exact stage.off other same

theorem aside (aside : Aside world after) : Stage before address data may sure after where
  onward := stage.onward.trans aside.toOnward
  off := fun other differs => (stage.off other differs).aside aside
  settled := stage.settled.imp_left fun agrees => agrees.aside aside
  valued := by
    intro holds
    rw [World.Valued, aside.objects]
    exact stage.valued holds

theorem update {source : UpdateSource}
    (valued : world.server.groupValueCache.config.updatesOn source = true →
      world.Valued address data) :
    Stage before address data may
      (sure ∧ ¬world.server.groupValueCache.config.updatesOn source = true)
      (world.updateCache fun cache => cache.update address data source world.clock) where
  onward :=
    ⟨stage.onward.config, config_update.trans stage.onward.cacheConfig,
      stage.onward.keyed, stage.onward.channels, stage.onward.clock, stage.onward.delivers⟩
  off := by
    intro other differs
    exact (stage.off other differs).carry le_rfl config_update
      (carries_update_other differs) fun object found => ⟨object, found, rfl⟩
  settled := by
    cases on : world.server.groupValueCache.config.updatesOn source with
    | true =>
      apply inl
      intro entry object cached live found
      have updated := @lookup_update_self world.server.groupValueCache address
        data source world.clock on
      have same := Option.some.inj (updated.symm.trans cached)
      rw [← same]
      exact (valued on object found).symm
    | false =>
      have same : (world.updateCache fun cache =>
          cache.update address data source world.clock) = world := by
        rw [updateCache, updateServer, update_off on]
      rw [same]
      exact stage.settled.imp_right fun holds => ⟨holds, Bool.false_ne_true⟩
  valued := stage.valued

end

theorem idle {Value : Type} {handler : Handler Value} (idle : Idle handler)
    (start : before.Coherent) (delivers : sure → before.Delivers) :
    Triple (Stage before address data may sure) handler
      (fun _ => Stage before address data may sure) Coherent := by
  intro world stage
  apply (idle world).weaken _ _ _ world (Aside.refl world)
  · intro _ aside
    exact aside
  · intro _ after aside
    exact stage.aside aside
  · intro after failed
    apply (stage.aside failed.1).coherent start
    intro holds
    exact failed.2 (stage.onward.delivers (delivers holds))

end Stage

variable {before world : World} {cemi : CemiFrame} {source : UInt8} {address : GroupAddress}

/-- The promise of the condition for the whole frame, and what is left of it behind the write. -/
abbrev MayCache (before : World) (cemi : CemiFrame) (source : UInt8) : Prop :=
  before.CachesWrite cemi ∨ before.Indicates cemi source

abbrev SureCached (before : World) (cemi : CemiFrame) (source : UInt8) : Prop :=
  before.CachesWrite cemi ∨ before.Indicates cemi source ∧ before.Delivers

def World.withObjects (world : World) (groupObjects : GroupObjectTable) : World :=
  world.updateServer fun server => { server with groupObjects }

def World.store (world : World) (address : GroupAddress) (data : Bytes) : World :=
  world.withObjects (world.server.groupObjects.stored address data)

theorem World.AgreesAt.withObjects (agrees : world.AgreesAt address) {objects : GroupObjectTable}
    (same : ∀ object, objects.lookup address = some object →
      ∃ old, world.server.groupObjects.lookup address = some old ∧ old.value = object.value) :
    (world.withObjects objects).AgreesAt address :=
  agrees.carry le_rfl rfl (carries_of_lookup fun _ found => found) same

theorem not_remembers_expired {entry : CacheEntry} (forgotten : world.remembers address = false)
    (cached : world.server.groupValueCache.entries.lookup address = some entry) :
    entry.isExpired world.server.groupValueCache.config.ttl world.clock = true := by
  rw [remembers, cached, Bool.not_eq_false'] at forgotten
  exact forgotten

theorem World.AgreesAt.ofForgotten (aside : Aside before world)
    (forgotten : before.remembers address = false) (objects : GroupObjectTable) :
    (world.withObjects objects).AgreesAt address := by
  intro entry object cached live found
  have earlier : before.server.groupValueCache.entries.lookup address = some entry := by
    rw [← aside.cache]
    exact cached
  have expired := not_remembers_expired forgotten earlier
  have alive := isExpired_earlier aside.clock live
  have ttl : world.server.groupValueCache.config = before.server.groupValueCache.config :=
    aside.cacheConfig
  rw [← ttl] at expired
  exact absurd (expired.symm.trans alive) Bool.true_eq_false.mp

section

variable (start : before.Coherent) (aside : Aside before world)
  (follows : ∀ object ∈ before.server.groupObjects.lookup address,
    before.Follows cemi source address object)

include start aside follows

theorem Stage.ofUnwritten (unwritten : ¬cemi.Stores) :
    Stage before address cemi.data (MayCache before cemi source) (SureCached before cemi source)
      world where
  onward := aside.toOnward
  off := fun other _ => (start.agrees other).aside aside
  settled := inl ((start.agrees address).aside aside)
  valued := by
    intro may object found
    rw [aside.objects] at found
    rcases (follows object found).1 may with same | taken
    · exact same
    · exact absurd taken.2 unwritten

theorem Stage.ofWritten (stores : cemi.Stores) :
    Stage before address cemi.data (MayCache before cemi source) (SureCached before cemi source)
      (world.store address cemi.data) where
  onward := ⟨aside.config, aside.cacheConfig, aside.keyed, aside.channels, aside.clock,
    aside.delivers⟩
  off := by
    intro other differs
    apply ((start.agrees other).aside aside).withObjects
    intro object found
    rw [lookup_stored_other _ _ differs] at found
    exact ⟨object, found, rfl⟩
  settled := by
    by_cases changes : ∃ object, before.server.groupObjects.lookup address = some object ∧
        object.flags.write = true ∧ object.value ≠ cemi.data
    · rcases changes with ⟨object, found, writable, differs⟩
      rcases (follows object found).2 ⟨writable, stores, differs⟩ with forgotten | sure
      · exact inl (AgreesAt.ofForgotten aside forgotten _)
      · exact inr sure
    · apply inl
      apply ((start.agrees address).aside aside).withObjects
      intro object found
      rcases lookup_stored_self found with ⟨old, present, value⟩
      refine ⟨old, present, ?_⟩
      rw [value]
      split_ifs with writable
      · by_contra differs
        rw [aside.objects] at present
        exact changes ⟨old, present, writable, differs⟩
      · rfl
  valued := by
    intro may object found
    rcases lookup_stored_self found with ⟨old, present, value⟩
    rw [aside.objects] at present
    rw [value]
    rcases (follows old present).1 may with same | taken
    · rw [same, ite_self]
    · rw [if_pos taken.1]

end

theorem writeGroupObject_apply (address : GroupAddress) (data : Bytes) (world : World) :
    ∃ written, writeGroupObject address data world = .ok written (world.store address data) := by
  cases outcome : world.server.groupObjects.write address data with
  | ok =>
    refine ⟨true, ?_⟩
    simp only [writeGroupObject, Checked.modifyGet, World.store, stored, outcome]
    rfl
  | error =>
    refine ⟨false, ?_⟩
    simp only [writeGroupObject, Checked.modifyGet, World.store, stored, outcome]
    rfl

end

section

open World

variable {before : World} {cemi : CemiFrame} {source : UInt8} {address : GroupAddress}
  (clientAddr : SocketAddr) (connection : TunnelConnection)

theorem stage_handleLdataData (start : before.Coherent)
    (destination : cemi.destinationGroup = some address)
    (follows : ∀ object ∈ before.server.groupObjects.lookup address,
      before.Follows cemi source address object) :
    Triple (Aside before) (handleLdataData clientAddr cemi connection)
      (fun _ => Stage before address cemi.data (before.Indicates cemi source)
        (before.Indicates cemi source ∧ before.Delivers)) Coherent := by
  have unwritten {handler : Handler Bool} (idle : Idle handler) (stores : ¬cemi.Stores) :
      Triple (Aside before) handler
        (fun _ => Stage before address cemi.data (before.Indicates cemi source)
          (before.Indicates cemi source ∧ before.Delivers)) Coherent := by
    apply (idle before).weaken
    · intro world aside
      exact aside
    · intro value world aside
      apply (Stage.ofUnwritten start aside follows stores).weaken inr
      intro sure
      exact sure.resolve_left fun caches => stores (inl caches.1)
    · intro world failed
      exact start.aside failed.1
  rw [handleLdataData]
  split_ifs with other
  · apply unwritten (Idle.pure true)
    intro stores
    rcases stores with service | service <;> simp [service, Apci.isGroupValue] at other
  · rw [destination]
    cases service : cemi.apci
    case groupValueWrite =>
      intro world aside
      rcases writeGroupObject_apply address cemi.data world with ⟨written, ran⟩
      dsimp only
      rw [bind_ok ran]
      have stage := Stage.ofWritten start aside follows (inl service)
      have config := stage.onward.cacheConfig
      have cached := @Stage.update _ _ _ _ _ _ stage .write fun updates =>
        stage.valued (inl ⟨service, config ▸ updates⟩)
      apply cached.weaken inr
      intro sure
      exact sure.1.resolve_left fun caches => sure.2 (config ▸ caches.2)
    case groupValueResponse =>
      intro world aside
      rcases writeGroupObject_apply address cemi.data world with ⟨written, ran⟩
      dsimp only
      rw [bind_ok ran]
      apply (Stage.ofWritten start aside follows (inr service)).weaken inr
      intro sure
      apply sure.resolve_left
      intro caches
      exact absurd (service.symm.trans caches.1) (by decide)
    case groupValueRead =>
      apply unwritten
      · apply (Idle.gets _).bind
        intro response
        apply (idle_sendTunnellingRequest clientAddr connection response).bind
        intro _
        exact Idle.pure true
      · rw [CemiFrame.Stores, service]
        decide
    all_goals
      apply unwritten (Idle.pure true)
      rw [CemiFrame.Stores, service]
      simp

theorem others_iff {world : World} (onward : Onward before world)
    (keyed : Keyed TunnelConnection.channelId before.server.connections.connections) :
    (∃ other ∈ values world.server.connections.connections, other.channelId ≠ source) ↔
      ∃ other ∈ before.server.connections.connections.keys, other ≠ source := by
  have now := onward.keyed keyed
  have same (channelId : UInt8) : channelId ∈ world.server.connections.connections.keys ↔
      channelId ∈ before.server.connections.connections.keys := by
    rw [← List.mem_toFinset, mem_keys_iff, onward.channels keyed, ← mem_keys_iff, List.mem_toFinset]
  have mapped : (∃ other ∈ values world.server.connections.connections, other.channelId ≠ source) ↔
        ∃ other ∈ world.server.connections.connections.keys, other ≠ source := by
    rw [← now.map_values]
    simp only [List.mem_map, exists_exists_and_eq_and]
  rw [mapped]
  simp only [same]

theorem coherent_broadcastLdataInd (start : before.Coherent)
    (request : cemi.messageCode = .lDataReq)
    (enabled : before.server.config.ldataIndBroadcastEnabled = true) :
    Leads (Stage before address cemi.data (before.Indicates cemi connection.channelId)
        (before.Indicates cemi connection.channelId ∧ before.Delivers))
      (broadcastLdataInd cemi connection address) Coherent := by
  intro world stage
  have read : allConnections world = .ok (values world.server.connections.connections) world := rfl
  rw [broadcastLdataInd, bind_ok read]
  have visits (other : TunnelConnection) : Triple (Aside world) (broadcastTo cemi connection other)
      (fun reached after => Aside world after ∧
        Reaches connection world.Delivers other reached) Coherent :=
    aside_broadcastTo cemi other connection world
  apply bind (visitAll _ fun other _ => visits other) _ world (Aside.refl world)
  intro reached after both
  have later := stage.aside both.1
  have config := later.onward.cacheConfig
  have counts := Reaches.count_pos both.2
  have others := @others_iff before connection.channelId world stage.onward start.keyed
  by_cases counted : reached.count true > 0
  · rw [onlyIf, if_pos (decide_eq_true counted)]
    have cached := @Stage.update _ _ _ _ _ _ later .indication fun updates =>
      later.valued ⟨request, enabled, config ▸ updates, others.mp (counts.1 counted)⟩
    apply cached.coherent start
    intro sure
    exact sure.2 (config ▸ sure.1.1.2.2.1)
  · rw [onlyIf, if_neg (by rw [decide_eq_true_eq]; exact counted)]
    apply later.coherent start
    intro sure
    exact counted (counts.2 (stage.onward.delivers sure.2) (others.mpr sure.1.2.2.2))

theorem coherent_handleLdataReq (start : before.Coherent) (request : cemi.messageCode = .lDataReq)
    (destination : cemi.destinationGroup = some address)
    (follows : ∀ object ∈ before.server.groupObjects.lookup address,
      before.Follows cemi connection.channelId address object) :
    Leads (Aside before) (handleLdataReq clientAddr cemi connection) Coherent := by
  apply Triple.bind (stage_handleLdataData clientAddr connection start destination follows)
  intro busSuccess world stage
  have read : (gets fun world : World => world.server.config : Handler ServerConfig) world =
      .ok before.server.config world := by
    rw [gets_apply, stage.onward.config]
  rw [bind_ok read]
  have confirms := Idle.onlyIf before.server.config.ldataConEnabled
    (idle_confirmLdata clientAddr cemi connection busSuccess)
  apply Triple.bind (Stage.idle confirms start And.right) _ world stage
  intro _
  rw [destination]
  cases enabled : before.server.config.ldataIndBroadcastEnabled with
  | true => exact coherent_broadcastLdataInd connection start request enabled
  | false =>
    apply Triple.pure
    intro after later
    apply later.coherent start
    intro sure
    exact absurd (enabled.symm.trans sure.1.2.1) Bool.false_ne_true

theorem idle_handleLdataData (destination : cemi.destinationGroup = none) :
    Idle (handleLdataData clientAddr cemi connection) := by
  rw [handleLdataData, destination, ite_self]
  exact Idle.pure true

theorem idle_handleLdataReq (destination : cemi.destinationGroup = none) :
    Idle (handleLdataReq clientAddr cemi connection) := by
  apply (idle_handleLdataData clientAddr connection destination).bind
  intro busSuccess
  apply (Idle.gets _).bind
  intro config
  apply (Idle.onlyIf _ (idle_confirmLdata clientAddr cemi connection busSuccess)).bind
  intro _
  rw [destination]
  exact Idle.onlyIf _ (Idle.pure ())

theorem coherent_dispatchCemi (start : before.Coherent)
    (consistent : before.Consistent cemi connection.channelId) :
    Leads (Aside before) (dispatchCemi clientAddr cemi connection) Coherent := by
  apply @Triple.bind _ _ _ _ _ _ (fun _ => Aside before)
  · exact gets fun _ aside => aside
  · intro config
    cases code : cemi.messageCode
    case lDataReq =>
      cases destination : cemi.destinationGroup with
      | none => exact start.idle (idle_handleLdataReq clientAddr connection destination)
      | some address =>
        exact coherent_handleLdataReq clientAddr connection start code destination
          (consistent (inl code) address destination)
    case lDataInd =>
      cases destination : cemi.destinationGroup with
      | none =>
        apply start.idle
        apply (idle_handleLdataData clientAddr connection destination).bind
        intro _
        exact Idle.pure ()
      | some address =>
        apply Triple.bind (stage_handleLdataData clientAddr connection start destination
          (consistent (inr code) address destination))
        intro _
        apply Triple.pure
        intro world stage
        apply stage.coherent start
        intro sure
        exact absurd (code.symm.trans sure.1.1) (by decide)
    case mPropReadReq =>
      exact start.idle (Idle.onlyIf _ (idle_handlePropReadReq clientAddr cemi connection))
    case mPropWriteReq =>
      exact start.idle (Idle.onlyIf _ (idle_handlePropWriteReq clientAddr cemi connection))
    case mResetReq =>
      exact start.idle (Idle.onlyIf _ (idle_sendTunnellingRequest clientAddr connection _))
    case lRawReq => exact start.idle (idle_sendTunnellingRequest clientAddr connection _)
    all_goals exact start.idle (Idle.pure ())

theorem coherent_processCemi (start : before.Coherent)
    (consistent : before.Consistent cemi connection.channelId) :
    Leads (Aside before) (processCemi clientAddr cemi connection) Coherent := by
  apply bind (coherent_dispatchCemi clientAddr connection start consistent)
  intro _
  apply Coherent.ofIdle
  apply (Idle.gets _).bind
  intro config
  exact Idle.onlyIf _ (idle_emitBusMonitorFrame cemi)

theorem coherent_closeChannel (channelId : UInt8) : Keeps Coherent (closeChannel channelId) := by
  apply Triple.modify
  intro world coherent
  exact ⟨coherent.keyed.erase channelId, coherent.agrees⟩

theorem coherent_handleConnectRequest (request : ConnectRequest) (addr : SocketAddr) :
    Keeps Coherent (handleConnectRequest request addr) := by
  apply @Triple.bind _ _ _ _ _ _ (fun _ => Coherent)
  · apply Triple.modifyGet
    intro world coherent
    have same := @ConnectionManager.connections_allocateChannel world.server.connections
    have kept : Keyed TunnelConnection.channelId
        world.server.connections.allocateChannel.2.connections := by
      rw [same]
      exact coherent.keyed
    exact ⟨kept, coherent.agrees⟩
  · intro channelId
    cases channelId with
    | none => exact Coherent.ofIdle idle_sendDatagram
    | some channelId =>
      apply @Triple.bind _ _ _ _ _ _ (fun _ => Coherent)
      · apply Triple.modify
        intro world coherent
        have kept : Keyed TunnelConnection.channelId
            (world.server.connections.createConnection channelId addr
              (if request.dataEndpoint.isNat then addr
              else request.dataEndpoint.toSocketAddr)).connections :=
          coherent.keyed.insert rfl
        exact ⟨kept, coherent.agrees⟩
      · intro _
        exact Coherent.ofIdle idle_sendDatagram

theorem coherent_handleTunnelling {request : TunnellingRequest} (addr : SocketAddr)
    (start : before.Coherent)
    (consistent : before.Processes request → before.Consistent request.cemi request.channelId) :
    (handleTunnelling request addr before).Ends (fun _ => Coherent) Coherent := by
  have found : findConnection request.channelId before =
      .ok (before.server.connections.connections.lookup request.channelId) before := rfl
  rw [handleTunnelling, bind_ok found]
  cases lookup : before.server.connections.connections.lookup request.channelId with
  | none => exact Coherent.ofIdle idle_sendDatagram before start
  | some connection =>
    have own := start.keyed _ _ lookup
    let answered := handleTunnellingRequest (some connection.sequence) request.sequenceCounter
    let renewed := { connection with sequence := answered.2.getD connection.sequence }
    have moved : Triple (fun world => world = before)
        (setSequence connection (answered.2.getD connection.sequence))
        (fun _ => Aside before) Coherent := by
      apply Triple.modify
      intro world same
      rw [same]
      have present : before.server.connections.connections.lookup renewed.channelId =
          some connection := own ▸ lookup
      exact Aside.ofReplace before present
    have acks : Triple (Aside before) (onlyIf answered.1.ack.isSome sendDatagram)
        (fun _ => Aside before) Coherent :=
      (Idle.onlyIf _ idle_sendDatagram before).weaken (fun _ aside => aside)
        (fun _ _ aside => aside) (fun _ failed => start.aside failed.1)
    have processes : Leads (Aside before)
        (onlyIf answered.1.processes (processCemi addr request.cemi connection)) Coherent := by
      apply Triple.ite
      · intro processed
        apply coherent_processCemi addr connection start
        rw [own]
        exact consistent ⟨connection, lookup, processed⟩
      · intro _
        exact Triple.pure fun _ aside => start.aside aside
    have closes : Keeps Coherent (onlyIf answered.2.isNone (closeChannel request.channelId)) := by
      apply Triple.ite
      · intro _
        exact coherent_closeChannel request.channelId
      · intro _
        exact Triple.pure fun _ coherent => coherent
    exact Triple.bind moved (fun _ => Triple.bind acks fun _ => Triple.bind processes
      fun _ => closes) before rfl

end

namespace World

def arrive (world : World) (wait : Nat) (outcomes : List SendOutcome) (draws : List Bool) : World :=
  { world with clock := world.clock + wait, outcomes, draws }

/-- A tunnelling request that is processed leaves cache and object in agreement. -/
def Truthful (world : World) : ServerInput → Prop
  | .packet wait (.tunnellingRequest request) _ outcomes draws =>
    world.Processes request →
      (world.arrive wait outcomes draws).Consistent request.cemi request.channelId
  | _ => True

instance decidableTruthful (world : World) (input : ServerInput) :
    Decidable (world.Truthful input) := by
  cases input with
  | packet _ packet =>
    cases packet with
    | tunnellingRequest => exact inferInstanceAs (Decidable (_ → _))
    | _ => exact instDecidableTrue
  | cacheGet => exact instDecidableTrue

variable {world : World}

theorem Coherent.arrive (coherent : world.Coherent) (wait : Nat) (outcomes : List SendOutcome)
    (draws : List Bool) : (world.arrive wait outcomes draws).Coherent where
  keyed := coherent.keyed
  agrees := fun address => (coherent.agrees address).carry (Nat.le_add_right _ _) rfl
    (carries_of_lookup fun _ found => found) fun object found =>
      ⟨object, found, rfl⟩

theorem Coherent.packet (coherent : world.Coherent) (wait : Nat) (packet : Packet)
    (addr : SocketAddr) (outcomes : List SendOutcome) (draws : List Bool)
    (truthful : world.Truthful (.packet wait packet addr outcomes draws)) :
    (world.step (.packet wait packet addr outcomes draws)).2.Coherent := by
  have start := coherent.arrive wait outcomes draws
  apply Outcome.Ends.final
  cases packet with
  | connectRequest request => exact coherent_handleConnectRequest request addr _ start
  | disconnectRequest request =>
    exact bind (coherent_closeChannel request.channelId)
      (fun _ => Coherent.ofIdle idle_sendDatagram) _ start
  | tunnellingRequest request => exact coherent_handleTunnelling addr start truthful
  | tunnellingAck ack => exact Coherent.ofIdle (idle_handleTunnellingAck ack) _ start
  | searchRequest | descriptionRequest | connectionStateRequest | unhandled => exact start

theorem Coherent.step (coherent : world.Coherent) (input : ServerInput)
    (truthful : world.Truthful input) : (world.step input).2.Coherent := by
  cases input with
  | packet wait packet addr outcomes draws =>
    exact coherent.packet wait packet addr outcomes draws truthful
  | cacheGet =>
    constructor
    · exact coherent.keyed
    · intro other
      exact (coherent.agrees other).carry (Nat.le_add_right _ _) config_get
        carries_get fun object found => ⟨object, found, rfl⟩

/-- Until the next packet the cache answers with the value of the object. -/
def CacheAgrees (world : World) : Prop :=
  ∀ address later value object, world.clock ≤ later →
    (world.server.groupValueCache.get address later).1 = some value →
    world.server.groupObjects.lookup address = some object → value = object.value

theorem Coherent.cacheAgrees (coherent : world.Coherent) : world.CacheAgrees := by
  intro address later value object passes returned found
  rcases get_eq_some returned with ⟨entry, cached, live, same⟩
  rw [← same]
  exact coherent.agrees address entry object cached (isExpired_earlier passes live) found

/-- In every run of truthful packets the cache agrees with the group objects. -/
theorem cached_values_agree (config : ServerConfig) (groupObjects : GroupObjectTable)
    (inputs : List ServerInput)
    (truthful : ∀ arrival ∈ Transducer.arrivals step (start (.new config groupObjects)) inputs,
      arrival.1.Truthful arrival.2) :
    ∀ visited ∈ Transducer.states step (start (.new config groupObjects)) inputs,
      visited.CacheAgrees := by
  have initial : Coherent (start (.new config groupObjects)) := by
    constructor
    · exact Keyed.empty
    · intro address entry object cached
      cases cached
  have preserved (world : World) (input : ServerInput) (coherent : world.Coherent)
      (truthful : world.Truthful input) : (world.step input).2.Coherent :=
    coherent.step input truthful
  have visits := states_invariant_of_harmless step preserved _ inputs initial truthful
  intro visited listed
  exact (visits visited listed).cacheAgrees

def singleObject (write : Bool) : GroupObjectTable :=
  (∅ : GroupObjectTable).insert ⟨0x0A03⟩ ⟨"switch", ⟨true, true, write⟩, [0]⟩

def connectsFrom (port : UInt16) : ServerInput :=
  .packet 0 (.connectRequest ⟨⟨.udp4, ⟨10, 0, 0, 2⟩, port⟩, ⟨.udp4, ⟨10, 0, 0, 2⟩, port⟩,
    ⟨.tunnel, .linkLayer⟩⟩) ⟨⟨10, 0, 0, 2⟩, port⟩ [] []

def sendsValue (sequenceCounter : UInt8) (messageCode : MessageCode) (apci : Apci)
    (data : Bytes) : ServerInput :=
  let cemi :=
    { CemiFrame.groupValueResponse (.decode 0x1165) ⟨0x0A03⟩ data with
      messageCode, apci }
  .packet 0 (.tunnellingRequest ⟨1, sequenceCounter, cemi⟩) ⟨⟨10, 0, 0, 2⟩, 3671⟩ [] []

/-- What the cache returns for the object's address, and the object's value. -/
def cachedAndHeld (world : World) : Option Bytes × Option GroupObject :=
  ((world.server.groupValueCache.get ⟨0x0A03⟩ world.clock).1,
    world.server.groupObjects.lookup ⟨0x0A03⟩)

theorem not_cacheAgrees {value : Bytes} {object : GroupObject}
    (both : world.cachedAndHeld = (some value, some object)) (differ : value ≠ object.value) :
    ¬world.CacheAgrees := by
  intro agrees
  exact differ (agrees _ _ _ _ le_rfl (congrArg Prod.fst both) (congrArg Prod.snd both))

theorem written_values_cached :
    let first := start (.new .default (singleObject true))
    let inputs := [connectsFrom 3671, connectsFrom 3672,
      sendsValue 0 .lDataReq .groupValueWrite [1], sendsValue 1 .lDataReq .groupValueResponse [2]]
    (final step first inputs).cachedAndHeld = (some [2], some ⟨"switch", ⟨true, true, true⟩, [2]⟩) ∧
      (∀ arrival ∈ arrivals step first inputs, arrival.1.Truthful arrival.2) ∧
      ∀ visited ∈ states step first inputs, visited.CacheAgrees := by
  have truthful : ∀ arrival ∈ arrivals step (start (.new .default (singleObject true)))
      [connectsFrom 3671, connectsFrom 3672, sendsValue 0 .lDataReq .groupValueWrite [1],
        sendsValue 1 .lDataReq .groupValueResponse [2]], arrival.1.Truthful arrival.2 := by
    decide +kernel
  exact ⟨by decide +kernel, truthful, cached_values_agree .default (singleObject true) _ truthful⟩

theorem cached_values_stray :
    let refused := final step (start (.new .default (singleObject false)))
      [connectsFrom 3671, sendsValue 0 .lDataReq .groupValueWrite [1]]
    let answered := final step (start (.new .default (singleObject true)))
      [connectsFrom 3671, sendsValue 0 .lDataReq .groupValueWrite [1],
        sendsValue 1 .lDataInd .groupValueResponse [2]]
    let asked := final step (start (.new .default (singleObject true)))
      [connectsFrom 3671, connectsFrom 3672, sendsValue 0 .lDataReq .groupValueRead []]
    ¬refused.CacheAgrees ∧ ¬answered.CacheAgrees ∧ ¬asked.CacheAgrees := by
  intro refused answered asked
  have refusedBoth : refused.cachedAndHeld =
      (some [1], some ⟨"switch", ⟨true, true, false⟩, [0]⟩) := by decide +kernel
  have answeredBoth : answered.cachedAndHeld =
      (some [1], some ⟨"switch", ⟨true, true, true⟩, [2]⟩) := by decide +kernel
  have askedBoth : asked.cachedAndHeld =
      (some [], some ⟨"switch", ⟨true, true, true⟩, [0]⟩) := by decide +kernel
  exact ⟨not_cacheAgrees refusedBoth (by decide), not_cacheAgrees answeredBoth (by decide),
    not_cacheAgrees askedBoth (by decide)⟩

end World

end Mabinogion.Knx
