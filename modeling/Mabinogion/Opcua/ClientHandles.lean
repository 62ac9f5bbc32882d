import Mabinogion.Opcua.Publishing

/-!
# Client handles

A client names each monitored item by a handle of its own, in the requests that
create and modify the item. The handlers read the handle and drop it: an item keeps
the id that the server gave it for a handle.
-/

namespace Mabinogion.Opcua

open List Transducer

/-- The parts of a create request that the handler reads, with the filter as it was parsed. -/
structure MonitoredItemCreateRequest where
  nodeId : NodeId
  eventNotifier : Bool
  clientHandle : UInt32
  eventFilter : Option EventFilter
  queueSize : UInt32
  discardOldest : Bool

structure EventData where
  evaluateWhereClause : List ContentFilterElement → Bool
  resolveField : SimpleAttributeOperand → Variant

structure Notified where
  item : UInt32
  handle : UInt32

namespace Subscription

def createMonitoredItem (maxItems : Nat) (request : MonitoredItemCreateRequest)
    (self : Subscription) : Option UInt32 × Subscription :=
  if self.monitoredItems.length ≥ maxItems then (none, self)
  else
    let id := self.stateData.nextItemId
    let kind : MonitoredItemKind :=
      if request.eventFilter.isSome || request.eventNotifier then .event else .dataChange
    let item := MonitoredItem.new id
      ⟨request.nodeId, request.queueSize, request.discardOldest, none, kind, request.eventFilter⟩
    (some id, { self with
      stateData := { self.stateData with nextItemId := id + 1 }
      monitoredItems := (self.monitoredItems.filter fun item => item.id != id) ++ [item] })

def modifyMonitoredItem (id queueSize : UInt32) (discardOldest : Bool) (self : Subscription) :
    Bool × Subscription :=
  let modify (item : MonitoredItem) : MonitoredItem :=
    if item.id = id then { item with config := { item.config with
      queueSize := queueSize, discardOldest, filter := none } }
    else item
  (self.monitoredItems.any fun item => item.id = id,
    { self with monitoredItems := self.monitoredItems.map modify })

def deleteMonitoredItem (id : UInt32) (self : Subscription) : Subscription :=
  { self with monitoredItems := self.monitoredItems.filter fun item => item.id != id }

/-- `distribute_to_subscription`, with the notifications that the queue took. -/
def distribute (event : EventData) :
    List MonitoredItem → Subscription → List Notified × Subscription
  | [], self => ([], self)
  | item :: items, self =>
    match item.config.kind, item.config.eventFilter with
    | .event, some filter =>
      if event.evaluateWhereClause filter.whereClause then
        let fieldList : EventFieldList :=
          ⟨item.clientHandle, filter.selectClauses.map event.resolveField⟩
        let others := distribute event items (self.pushEventNotification fieldList)
        (((QueueCall.event fieldList).accepted self).map (fun sent => ⟨item.id, sent.clientHandle⟩)
          ++ others.1, others.2)
      else distribute event items self
    | _, _ => distribute event items self

end Subscription

inductive ItemCall where
  | create (request : MonitoredItemCreateRequest)
  | modify (id clientHandle queueSize : UInt32) (discardOldest : Bool)
  | delete (id : UInt32)
  | valueChange (nodeId : NodeId) (value : DataValue)
  | event (data : EventData)
  | publish

def ItemCall.isPublish : ItemCall → Bool
  | publish => true
  | _ => false

/-- A subscription, the handle that the client last gave for each item, and the items that the
pending events are for. -/
structure Monitored where
  subscription : Subscription
  requested : UInt32 → UInt32
  eventItems : List UInt32

namespace Monitored

variable (maxItems : Nat) (differs : Variant → Variant → Bool)

def start (config : SubscriptionConfig) (owner : Option NodeId) (requested : UInt32 → UInt32) :
    Monitored := ⟨.new config owner, requested, []⟩

def ofData (sent : MonitoredItemNotification) :
    Notified := ⟨sent.monitoredItemId, sent.clientHandle⟩

def ofEvent (item : UInt32) (sent : EventFieldList) : Notified := ⟨item, sent.clientHandle⟩

/-- The notifications that are queued, and those of the message that is published. -/
def step (self : Monitored) : ItemCall → List Notified × Monitored
  | .create request =>
    match self.subscription.createMonitoredItem maxItems request with
    | (none, after) => ([], { self with subscription := after })
    | (some id, after) => ([], { self with
        subscription := after
        requested := Function.update self.requested id request.clientHandle })
  | .modify id clientHandle queueSize discardOldest =>
    match self.subscription.modifyMonitoredItem id queueSize discardOldest with
    | (false, after) => ([], { self with subscription := after })
    | (true, after) => ([], { self with
        subscription := after, requested := Function.update self.requested id clientHandle })
  | .delete id => ([], { self with subscription := self.subscription.deleteMonitoredItem id })
  | .valueChange nodeId value =>
    let after := (self.subscription.onValueChange differs nodeId value).2
    ((after.data.drop self.subscription.data.length).map ofData, { self with subscription := after })
  | .event data =>
    let told := self.subscription.distribute data self.subscription.monitoredItems
    (told.1, { self with
      subscription := told.2, eventItems := self.eventItems ++ told.1.map Notified.item })
  | .publish =>
    let (message, after) := self.subscription.processPublish
    let events := QueueCall.toldEvents message
    ((QueueCall.told message).map ofData ++ zipWith ofEvent self.eventItems events,
      { self with subscription := after, eventItems := self.eventItems.drop events.length })

/-- Every item still has the handle that it was made with, and so have the pending notifications. -/
structure OwnHandles (monitored : Monitored) : Prop where
  items : ∀ item ∈ monitored.subscription.monitoredItems, item.clientHandle = item.id
  data : ∀ sent ∈ monitored.subscription.data, sent.clientHandle = sent.monitoredItemId
  events : monitored.subscription.events.map EventFieldList.clientHandle = monitored.eventItems

end Monitored

theorem Subscription.distribute_spec (event : EventData) (items : List MonitoredItem)
    (self : Subscription) :
    (self.distribute event items).2.monitoredItems = self.monitoredItems ∧
      (self.distribute event items).2.data = self.data ∧
      (self.distribute event items).2.events.map EventFieldList.clientHandle =
        self.events.map EventFieldList.clientHandle ++
          (self.distribute event items).1.map Notified.handle ∧
      ∀ told ∈ (self.distribute event items).1,
        ∃ item ∈ items, told = ⟨item.id, item.clientHandle⟩ := by
  induction items generalizing self with
  | nil => exact ⟨rfl, rfl, (append_nil _).symm, forall_mem_nil _⟩
  | cons item items ih =>
    have skipped := ih self
    have widen {others : List Notified}
        (found : ∀ told ∈ others, ∃ other ∈ items, told = ⟨other.id, other.clientHandle⟩) :
        ∀ told ∈ others, ∃ other ∈ item :: items, told = ⟨other.id, other.clientHandle⟩ :=
      fun told listed => exists_mem_cons_of_exists (found told listed)
    rw [distribute]
    split
    · rename_i filter _ _
      split
      · let fieldList : EventFieldList :=
          ⟨item.clientHandle, filter.selectClauses.map event.resolveField⟩
        obtain ⟨kept, same, grown, sent⟩ := ih (self.pushEventNotification fieldList)
        refine ⟨kept, same.trans ?_, ?_, ?_⟩
        · exact (QueueCall.step_data self (.event fieldList)).symm.trans (append_nil _)
        · have pushed : self.events ++ (QueueCall.event fieldList).accepted self =
              (self.pushEventNotification fieldList).events :=
            QueueCall.step_events self (.event fieldList)
          rw [grown, ← pushed, map_append, append_assoc]
          dsimp only
          rw [map_append, map_map]
          rfl
        · intro told listed
          rcases mem_append.mp listed with here | later
          · obtain ⟨taken, accepted, rfl⟩ := mem_map.mp here
            refine ⟨item, mem_cons_self, ?_⟩
            rw [QueueCall.accepted] at accepted
            split at accepted
            · rw [mem_singleton.mp accepted]
            · cases accepted
          · exact widen sent told later
      · exact ⟨skipped.1, skipped.2.1, skipped.2.2.1, widen skipped.2.2.2⟩
    · exact ⟨skipped.1, skipped.2.1, skipped.2.2.1, widen skipped.2.2.2⟩

namespace Monitored

variable (maxItems : Nat) (differs : Variant → Variant → Bool) {self : Monitored} (call : ItemCall)

theorem zip_own {sent : List EventFieldList} (later : List UInt32) :
    ∀ told ∈ zipWith ofEvent (sent.map EventFieldList.clientHandle ++ later) sent,
      told.handle = told.item := by
  induction sent with
  | nil =>
    rw [zipWith_nil_right]
    exact forall_mem_nil _
  | cons first sent ih => exact forall_mem_cons.mpr ⟨rfl, ih⟩

theorem step_handles (own : self.OwnHandles) :
    ∀ told ∈ (self.step maxItems differs call).1, told.handle = told.item := by
  intro told listed
  cases call with
  | create request | modify =>
    rw [step] at listed
    split at listed <;> cases listed
  | delete => cases listed
  | valueChange nodeId value =>
    obtain ⟨_, new, grown, sent⟩ := Subscription.sampleItems_appends differs nodeId value
      self.subscription.monitoredItems self.subscription.notificationQueue
    obtain ⟨notification, there, rfl⟩ := mem_map.mp listed
    have fresh : notification ∈ new := by
      rw [← @drop_left _ self.subscription.data new]
      exact grown ▸ there
    obtain ⟨item, known, same⟩ := sent notification fresh
    rw [ofData, same.1, same.2]
    exact own.items item known
  | event data =>
    obtain ⟨item, known, rfl⟩ := (Subscription.distribute_spec data _ _).2.2.2 told listed
    exact own.items item known
  | publish =>
    have publishes := self.subscription.processPublish_publishes
    rcases mem_append.mp listed with data | event
    · obtain ⟨notification, there, rfl⟩ := mem_map.mp data
      apply own.data notification
      rw [publishes.data]
      exact mem_append_left _ there
    · rw [← own.events, publishes.events, map_append] at event
      exact zip_own _ told event

theorem step_ownHandles (own : self.OwnHandles) :
    (self.step maxItems differs call).2.OwnHandles := by
  have handles := step_handles maxItems differs call own
  cases call with
  | create request =>
    rw [step, Subscription.createMonitoredItem]
    by_cases full : self.subscription.monitoredItems.length ≥ maxItems
    · rw [if_pos full]
      exact own
    · rw [if_neg full]
      refine ⟨?_, own.data, own.events⟩
      intro item listed
      rcases mem_append.mp listed with old | new
      · exact own.items item (mem_filter.mp old).1
      · rw [mem_singleton.mp new]
        rfl
  | modify id clientHandle queueSize discardOldest =>
    have kept : ∀ item ∈ (self.subscription.modifyMonitoredItem id queueSize
        discardOldest).2.monitoredItems, item.clientHandle = item.id := by
      intro item listed
      obtain ⟨old, there, rfl⟩ := mem_map.mp listed
      split <;> exact own.items old there
    have after : OwnHandles { self with subscription :=
        (self.subscription.modifyMonitoredItem id queueSize discardOldest).2 } :=
      ⟨kept, own.data, own.events⟩
    rw [step]
    split
    all_goals
      rename_i modified
      rw [modified] at after
      exact ⟨after.items, after.data, after.events⟩
  | delete =>
    exact ⟨fun item listed => own.items item (mem_filter.mp listed).1, own.data, own.events⟩
  | valueChange nodeId value =>
    obtain ⟨items, new, grown, sent⟩ := Subscription.sampleItems_appends differs nodeId value _
      self.subscription.notificationQueue
    refine ⟨?_, ?_, ?_⟩
    · intro item listed
      obtain ⟨old, there, same⟩ := items item listed
      rw [same.1, same.2]
      exact own.items old there
    · intro notification listed
      have pending : notification ∈ self.subscription.data ++ new := grown ▸ listed
      rcases mem_append.mp pending with old | fresh
      · exact own.data notification old
      · obtain ⟨item, known, same⟩ := sent notification fresh
        rw [same.1, same.2]
        exact own.items item known
    · exact (congrArg (map _) (Subscription.sampleItems_events differs nodeId value _ _)).trans
        own.events
  | event data =>
    obtain ⟨items, same, grown, _⟩ := self.subscription.distribute_spec data
      self.subscription.monitoredItems
    refine ⟨?_, ?_, ?_⟩
    · intro item listed
      rw [step, items] at listed
      exact own.items item listed
    · intro notification listed
      rw [step, same] at listed
      exact own.data notification listed
    · rw [step, grown, own.events]
      exact congrArg _ (map_congr_left handles)
  | publish =>
    have publishes := self.subscription.processPublish_publishes
    refine ⟨?_, ?_, ?_⟩
    · intro item listed
      rw [step, Subscription.monitoredItems_processPublish] at listed
      exact own.items item listed
    · intro notification listed
      apply own.data notification
      rw [publishes.data]
      exact mem_append_right _ listed
    · show map _ _ = drop _ self.eventItems
      rw [← own.events, publishes.events, map_append]
      exact (drop_left' (length_map _)).symm

/-- The handles are the client's exactly if it asked, for each item that notifies, for the id that
the server gave it: those that it has last asked for when the notification is queued, and likewise
when it is published. -/
theorem carries_requested_iff (config : SubscriptionConfig) (owner : Option NodeId)
    (requested : UInt32 → UInt32) (calls : List ItemCall) (published : Bool) :
    (∀ arrival ∈ arrivals (step maxItems differs) (start config owner requested) calls,
        arrival.2.isPublish = published → ∀ told ∈ (arrival.1.step maxItems differs arrival.2).1,
          told.handle = arrival.1.requested told.item) ↔
      ∀ arrival ∈ arrivals (step maxItems differs) (start config owner requested) calls,
        arrival.2.isPublish = published → ∀ told ∈ (arrival.1.step maxItems differs arrival.2).1,
          arrival.1.requested told.item = told.item := by
  have fresh : OwnHandles (start config owner requested) :=
    ⟨forall_mem_nil _, forall_mem_nil _, rfl⟩
  have own := arrivals_invariant (step maxItems differs)
    (fun _ call => step_ownHandles maxItems differs call) _ calls fresh
  apply forall₂_congr
  intro arrival listed
  apply forall₃_congr
  intro _ told sent
  rw [step_handles maxItems differs arrival.2 (own arrival listed) told sent, eq_comm]

/-- The handle is decoded and dropped. -/
theorem handle_dropped : ¬∀ arrival ∈ arrivals (step 10 fun _ _ => true)
        (start ⟨1, 10, 3, 1, true⟩ none fun _ => 0)
        [.create ⟨.numeric 1 7, false, 7, none, 1, true⟩,
          .valueChange (.numeric 1 7) (.withStatus .unixEpoch (.byte 1) .good), .publish],
      arrival.2.isPublish = true → ∀ told ∈ (arrival.1.step 10 (fun _ _ => true) arrival.2).1,
        told.handle = arrival.1.requested told.item := by
  intro carried
  have sent := carried _ (mem_cons_of_mem _ (mem_cons_of_mem _ mem_cons_self)) rfl _ mem_cons_self
  exact absurd sent (by decide)

end Monitored

end Mabinogion.Opcua
