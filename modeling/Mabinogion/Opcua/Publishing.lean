import Mabinogion.Library.Transducer
import Mabinogion.Opcua.Subscription

/-!
# What publishing conserves

The publish engine takes from the front of two queues that share one budget. The published
notifications and the pending ones together are those that were queued.
-/

namespace Mabinogion.Opcua

open List Transducer Subscription

theorem drainUpTo_eq {Item : Type} (count : Nat) (pending : List Item) :
    drainUpTo count pending = (pending.take count, pending.drop count) := by
  rw [drainUpTo]
  split
  · rfl
  · rename_i short
    have whole : pending.length ≤ count := Nat.not_lt.mp short
    rw [take_of_length_le whole, drop_of_length_le whole]

theorem MonitoredItem.onValueChange_keeps (differs : Variant → Variant → Bool)
    (item : MonitoredItem) (value : DataValue) :
    (item.onValueChange differs value).item.clientHandle = item.clientHandle ∧
      (item.onValueChange differs value).item.id = item.id ∧
      ∀ sent ∈ (item.onValueChange differs value).notification,
        sent.clientHandle = item.clientHandle ∧ sent.monitoredItemId = item.id := by
  rw [onValueChange]
  split_ifs <;> try split
  all_goals simp

theorem drainBudget_eq {Item : Type} (budget : Nat) (pending : List Item) :
    drainBudget budget pending = (pending.take budget, pending.drop budget) := by
  rw [drainBudget]
  split
  · rename_i spent
    rw [spent, take_zero, drop_zero]
  · exact drainUpTo_eq budget pending

namespace Subscription

variable (self : Subscription)

def limit : Nat := self.stateData.config.maxNotificationsPerPublish.toNat

def data : List MonitoredItemNotification :=
  self.notificationQueue.pendingNotifications

def events : List EventFieldList :=
  self.notificationQueue.pendingEventNotifications

def hasPending : Bool := self.notificationQueue.hasPending

theorem hasPending_eq_false {self : Subscription} :
    self.hasPending = false ↔ self.data = [] ∧ self.events = [] := by
  simp [hasPending, NotificationQueue.hasPending, data, events]

structure Active (subscription : Subscription) : Prop where
  publishable : subscription.isPublishable = true
  enabled : subscription.stateData.config.publishingEnabled = true

/-- What a publish takes off the two queues, and what it says about the rest. -/
structure Publishes (before : Subscription) (message : Option NotificationMessage)
    (after : Subscription) : Prop where
  data : before.data = message.elim [] (·.notifications) ++ after.data
  events : before.events = message.elim [] (·.eventNotifications) ++ after.events
  bounded : ∀ sent ∈ message,
    sent.notifications.length + sent.eventNotifications.length ≤ before.limit
  more : ∀ sent ∈ message, sent.moreNotifications = after.hasPending
  shrinks : 1 ≤ before.limit → before.Active →
    after.data.length + after.events.length ≤ before.data.length + before.events.length - 1
  config : after.stateData.config = before.stateData.config
  detached : after.detachedRestored = before.detachedRestored

variable {message : Option NotificationMessage}

theorem Publishes.active {before after : Subscription}
    (publishes : before.Publishes message after) (active : before.Active) : after.Active := by
  refine ⟨?_, ?_⟩
  · rw [isPublishable, publishes.detached]
    exact active.publishable
  · rw [publishes.config]
    exact active.enabled

theorem publishes_pending {self : Subscription} (pending : self.hasPending = true) :
    self.Publishes (some self.publishPending.1) self.publishPending.2 := by
  have taken : self.publishPending.1.notifications = self.data.take self.limit := by
    rw [publishPending, drainUpTo_eq]
    rfl
  have left : self.publishPending.2.data = self.data.drop self.limit := by
    rw [publishPending, drainUpTo_eq]
    rfl
  have told : self.publishPending.1.eventNotifications =
      self.events.take (self.limit - (self.data.take self.limit).length) := by
    simp only [publishPending, drainUpTo_eq, drainBudget_eq]
    rfl
  have untold : self.publishPending.2.events =
      self.events.drop (self.limit - (self.data.take self.limit).length) := by
    simp only [publishPending, drainUpTo_eq, drainBudget_eq]
    rfl
  have some : ¬(self.data.length = 0 ∧ self.events.length = 0) := by
    rw [length_eq_zero_iff, length_eq_zero_iff, ← hasPending_eq_false, pending]
    exact Bool.noConfusion
  refine ⟨?_, ?_, ?_, ?_, ?_, rfl, rfl⟩
  · rw [Option.elim_some, taken, left, take_append_drop]
  · rw [Option.elim_some, told, untold, take_append_drop]
  · simp only [Option.mem_some_iff, forall_eq', taken, told, length_take]
    omega
  · simp only [Option.mem_some_iff, forall_eq']
    rfl
  · intro positive _
    rw [left, untold]
    simp only [length_drop, length_take]
    omega

theorem publishes_blank {self after : Subscription}
    (queue : after.notificationQueue = self.notificationQueue)
    (config : after.stateData.config = self.stateData.config)
    (detached : after.detachedRestored = self.detachedRestored)
    (blank : ∀ sent ∈ message, sent.notifications = [] ∧ sent.eventNotifications = [] ∧
      sent.moreNotifications = self.hasPending)
    (empty : self.Active → self.hasPending = false) : self.Publishes message after := by
  have same : after.data = self.data ∧ after.events = self.events ∧
      after.hasPending = self.hasPending := by simp [data, events, hasPending, queue]
  refine ⟨?_, ?_, ?_, ?_, ?_, config, detached⟩
  · cases message with
    | none => exact same.1.symm
    | some sent => simp [blank sent rfl, same]
  · cases message with
    | none => exact same.2.1.symm
    | some sent => simp [blank sent rfl, same]
  · intro sent given
    simp [blank sent given]
  · intro sent given
    rw [(blank sent given).2.2, same.2.2]
  · intro _ active
    simp [same, hasPending_eq_false.mp (empty active)]

theorem processPublish_publishes (self : Subscription) :
    self.Publishes self.processPublish.1 self.processPublish.2 := by
  rw [processPublish]
  split
  · rename_i detached
    apply publishes_blank rfl rfl rfl (by simp)
    intro active
    rw [active.publishable] at detached
    cases detached
  · split
    · rename_i disabled
      apply publishes_blank rfl rfl rfl (by simp)
      intro active
      rw [active.enabled] at disabled
      cases disabled
    · split
      · rename_i pending
        have alive : hasPending
          { self with stateData := self.stateData.resetLifetime } = true := pending
        have sent := publishes_pending alive
        exact ⟨sent.data, sent.events, sent.bounded, sent.more, fun positive active =>
          sent.shrinks positive ⟨active.publishable, active.enabled⟩, sent.config, sent.detached⟩
      · rename_i empty
        have none : self.hasPending = false := Bool.not_eq_true _ ▸ empty
        dsimp only
        split
        · apply publishes_blank
          · rfl
          · rfl
          · rfl
          on_goal 2 => exact fun _ => none
          intro sent given
          cases given
          exact ⟨rfl, rfl, none.symm⟩
        · exact publishes_blank rfl rfl rfl (by simp) fun _ => none

theorem monitoredItems_processPublish (self : Subscription) :
    self.processPublish.2.monitoredItems = self.monitoredItems := by
  rw [processPublish]
  iterate 3
    split
    · rfl
  dsimp only
  split <;> rfl

theorem sampleItems_appends (differs : Variant → Variant → Bool) (nodeId : NodeId)
    (value : DataValue) (items : List MonitoredItem) (queue : NotificationQueue) :
    (∀ item ∈ (sampleItems differs nodeId value items queue).1, ∃ old ∈ items,
        item.clientHandle = old.clientHandle ∧ item.id = old.id) ∧
      ∃ new, (sampleItems differs nodeId value items queue).2.1.pendingNotifications =
        queue.pendingNotifications ++ new ∧ ∀ sent ∈ new, ∃ item ∈ items,
          sent.clientHandle = item.clientHandle ∧ sent.monitoredItemId = item.id := by
  induction items generalizing queue with
  | nil => exact ⟨forall_mem_nil _, [], (append_nil _).symm, forall_mem_nil _⟩
  | cons item items ih =>
    have widen {handle id : UInt32}
        (found : ∃ old ∈ items, handle = old.clientHandle ∧ id = old.id) :
        ∃ old ∈ item :: items, handle = old.clientHandle ∧ id = old.id :=
      exists_mem_cons_of_exists found
    obtain ⟨handle, same, carries⟩ := item.onValueChange_keeps differs value
    have here : ∃ old ∈ item :: items, (item.onValueChange differs value).item.clientHandle =
        old.clientHandle ∧ (item.onValueChange differs value).item.id = old.id :=
      ⟨item, mem_cons_self, handle, same⟩
    rw [sampleItems]
    split
    · dsimp only
      split
      · exact ⟨forall_mem_cons.mpr ⟨here, fun other listed =>
          ⟨other, mem_cons_of_mem _ listed, rfl, rfl⟩⟩, [],
          (append_nil _).symm, forall_mem_nil _⟩
      · obtain ⟨kept, new, grown, sent⟩ := ih
          ((item.onValueChange differs value).notification.elim queue queue.pushDataChange)
        refine ⟨forall_mem_cons.mpr ⟨here, fun other listed => widen (kept other listed)⟩,
          (item.onValueChange differs value).notification.toList ++ new, ?_, ?_⟩
        · rw [grown]
          cases (item.onValueChange differs value).notification with
          | none => rfl
          | some => exact append_assoc _ _ _
        · intro notification listed
          rcases mem_append.mp listed with own | other
          · exact ⟨item, mem_cons_self, carries notification (Option.mem_toList.mp own)⟩
          · exact widen (sent notification other)
    · obtain ⟨kept, new, grown, sent⟩ := ih queue
      exact ⟨forall_mem_cons.mpr ⟨⟨item, mem_cons_self, rfl, rfl⟩, fun other listed =>
        widen (kept other listed)⟩, new, grown, fun notification listed =>
          widen (sent notification listed)⟩

theorem sampleItems_events (differs : Variant → Variant → Bool) (nodeId : NodeId)
    (value : DataValue) (items : List MonitoredItem) (queue : NotificationQueue) :
    (sampleItems differs nodeId value items queue).2.1.pendingEventNotifications =
      queue.pendingEventNotifications := by
  induction items generalizing queue with
  | nil => rfl
  | cons item items ih =>
    rw [sampleItems]
    split
    · dsimp only
      split
      · rfl
      · rw [ih]
        cases (item.onValueChange differs value).notification <;> rfl
    · exact ih queue

end Subscription

inductive QueueCall where
  | dataChange (notification : MonitoredItemNotification)
  | event (fieldList : EventFieldList)
  | publish

namespace QueueCall

variable (subscription : Subscription)

def step : QueueCall → Option NotificationMessage × Subscription
  | dataChange notification => (none, { subscription with
      notificationQueue := subscription.notificationQueue.pushDataChange notification })
  | event fieldList => (none, subscription.pushEventNotification fieldList)
  | publish => subscription.processPublish

def queued : QueueCall → List MonitoredItemNotification
  | dataChange notification => [notification]
  | _ => []

/-- The event queue takes twice what one message does. -/
def accepted : QueueCall → List EventFieldList
  | event fieldList => if subscription.events.length < subscription.limit * 2 then [fieldList] else []
  | _ => []

variable (message : Option NotificationMessage)

def told : List MonitoredItemNotification :=
  message.elim [] (·.notifications)

def toldEvents : List EventFieldList :=
  message.elim [] (·.eventNotifications)

variable (call : QueueCall)

theorem step_data : subscription.data ++ call.queued =
      told (step subscription call).1 ++ (step subscription call).2.data := by
  cases call with
  | dataChange => rfl
  | event =>
    simp only [step, pushEventNotification, NotificationQueue.pushEventNotification]
    split <;> exact append_nil _
  | publish => exact (append_nil _).trans subscription.processPublish_publishes.data

theorem step_events : subscription.events ++ call.accepted subscription =
      toldEvents (step subscription call).1 ++ (step subscription call).2.events := by
  cases call with
  | dataChange => exact append_nil _
  | event fieldList =>
    have pushed : (step subscription (event fieldList)).2.events =
        if subscription.events.length < subscription.limit * 2 then subscription.events ++ [fieldList]
        else subscription.events := apply_ite NotificationQueue.pendingEventNotifications _ _ _
    rw [pushed, accepted]
    split
    · rfl
    · exact append_nil _
  | publish => exact (append_nil _).trans subscription.processPublish_publishes.events

theorem step_message {subscription : Subscription} {call : QueueCall} {sent : NotificationMessage}
    (given : (step subscription call).1 = some sent) :
    sent.notifications.length + sent.eventNotifications.length ≤ subscription.limit ∧
      sent.moreNotifications = (step subscription call).2.hasPending := by
  cases call with
  | dataChange | event => cases given
  | publish =>
    have publishes := subscription.processPublish_publishes
    exact ⟨publishes.bounded sent given, publishes.more sent given⟩

theorem step_steady : (step subscription call).2.limit =
      subscription.limit ∧ (subscription.Active → (step subscription call).2.Active) := by
  cases call with
  | dataChange | event => exact ⟨rfl, fun active => ⟨active.publishable, active.enabled⟩⟩
  | publish =>
    have publishes := subscription.processPublish_publishes
    refine ⟨?_, publishes.active⟩
    rw [Subscription.limit, step, publishes.config]
    rfl

theorem drained_publishes (count : Nat) (subscription : Subscription) (active : subscription.Active)
    (positive : 1 ≤ subscription.limit)
    (enough : subscription.data.length + subscription.events.length ≤ count) :
    (final step subscription (replicate count publish)).hasPending = false := by
  induction count generalizing subscription with
  | zero =>
    rw [hasPending_eq_false]
    simpa using enough
  | succ count ih =>
    have steady := step_steady subscription publish
    have shrinks := subscription.processPublish_publishes.shrinks positive active
    exact ih _ (steady.2 active) (steady.1.symm ▸ positive) (shrinks.trans (by omega))

end QueueCall

open QueueCall in
/-- What the messages of a run and the queues behind it say about what was queued. -/
structure Conserves (subscription : Subscription) (calls : List QueueCall) : Prop where
  data : subscription.data ++ calls.flatMap queued =
    (outputs step subscription calls).flatMap told ++ (final step subscription calls).data
  events : subscription.events ++ (arrivals step subscription calls).flatMap
      (fun arrival => arrival.2.accepted arrival.1) =
    (outputs step subscription calls).flatMap toldEvents ++ (final step subscription calls).events
  messages : ∀ arrival ∈ arrivals step subscription calls,
    ∀ sent, (step arrival.1 arrival.2).1 = some sent →
      sent.notifications.length + sent.eventNotifications.length ≤ subscription.limit ∧
        (sent.moreNotifications = true ↔ (step arrival.1 arrival.2).2.hasPending = true)
  drained : ∃ count, (final step (final step subscription calls)
    (replicate count .publish)).hasPending = false

open QueueCall in
/-- However the calls mix, what was queued is published once and in order or still pending. -/
theorem publishing_conserves_notifications (subscription : Subscription)
    (active : subscription.Active) (positive : 1 ≤ subscription.limit) (calls : List QueueCall) :
    Conserves subscription calls := by
  have preserved (state : Subscription) (call : QueueCall)
      (steady : state.limit = subscription.limit ∧ state.Active) :
      (step state call).2.limit = subscription.limit ∧ (step state call).2.Active :=
    ⟨(step_steady state call).1.trans steady.1, (step_steady state call).2 steady.2⟩
  have last := final_invariant step preserved subscription calls ⟨rfl, active⟩
  refine ⟨?_, conserved step step_events subscription calls, ?_, _,
    drained_publishes _ _ last.2 (last.1.symm ▸ positive) le_rfl⟩
  · have data := conserved step step_data subscription calls
    rw [← flatMap_map Prod.snd queued, map_snd_arrivals] at data
    exact data
  · intro arrival listed sent given
    have steady := arrivals_invariant step preserved subscription calls ⟨rfl, active⟩ arrival listed
    have message := step_message given
    exact ⟨steady.1 ▸ message.1, iff_of_eq (congrArg (· = true) message.2)⟩

theorem conserved_one_at_a_time : (new ⟨1, 10, 3, 1, true⟩ none).Active ∧
      Conserves (new ⟨1, 10, 3, 1, true⟩ none)
        [.event ⟨7, []⟩, .dataChange ⟨5, 5, .withStatus .unixEpoch (.byte 1) .good⟩, .publish,
          .publish] :=
  ⟨⟨rfl, rfl⟩, publishing_conserves_notifications _ ⟨rfl, rfl⟩ (by decide) _⟩

end Mabinogion.Opcua
