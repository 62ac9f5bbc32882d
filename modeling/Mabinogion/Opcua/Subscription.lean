import Mabinogion.Opcua.Types

/-!
# Subscriptions

The monitored items of a subscription, the queue that they notify into and the
engine that publishes from it. Times are left out: what is modelled here writes
them and never reads one back.
-/

namespace Mabinogion.Opcua

structure SimpleAttributeOperand where
  typeDefinitionId : NodeId
  browsePath : List QualifiedName
  attributeId : AttributeId
  indexRange : String

inductive FilterOperand where
  | literal (value : Variant)
  | simpleAttribute (operand : SimpleAttributeOperand)
  | element (index : UInt32)

inductive FilterOperator where
  | equals | isNull | greaterThan | lessThan | greaterThanOrEqual | lessThanOrEqual | like | not
  | between | inList | and | or | cast | inView | ofType | relatedTo | bitwiseAnd | bitwiseOr

structure ContentFilterElement where
  filterOperator : FilterOperator
  filterOperands : List FilterOperand

structure EventFilter where
  selectClauses : List SimpleAttributeOperand
  whereClause : List ContentFilterElement

inductive MonitoredItemKind where
  | dataChange | event

inductive MonitoringMode where
  | disabled | sampling | reporting
deriving DecidableEq

structure MonitoredItemConfig where
  nodeId : NodeId
  queueSize : UInt32
  discardOldest : Bool
  /-- What the filter decides about the last and the new value; its dead band is floating-point. -/
  filter : Option (DataValue → DataValue → Bool)
  kind : MonitoredItemKind
  eventFilter : Option EventFilter

structure MonitoredItemNotification where
  clientHandle : UInt32
  monitoredItemId : UInt32
  value : DataValue
deriving DecidableEq

structure EventFieldList where
  clientHandle : UInt32
  eventFields : List Variant
deriving DecidableEq

structure MonitoredItem where
  id : UInt32
  config : MonitoredItemConfig
  clientHandle : UInt32
  monitoringMode : MonitoringMode
  lastValue : Option DataValue
  notificationQueue : List MonitoredItemNotification

namespace MonitoredItem

def new (id : UInt32) (config : MonitoredItemConfig) : MonitoredItem where
  id
  config
  clientHandle := id
  monitoringMode := .reporting
  lastValue := none
  notificationQueue := []

/-- `differs` is the source's `!=` of two variants, which is not that of the bit patterns. -/
def shouldNotify (differs : Variant → Variant → Bool) (self : MonitoredItem)
    (newValue : DataValue) : Bool :=
  match self.lastValue, self.config.filter with
  | none, _ => true
  | some last, some passes => passes last newValue
  | some last, none =>
    match last.value, newValue.value with
    | some last, some new => differs last new
    | none, none => false
    | _, _ => true

/-- A sample: its notification, the item behind it, and whether `remove(0)` found no element. -/
structure Sample where
  notification : Option MonitoredItemNotification
  item : MonitoredItem
  panicked : Bool

def onValueChange (differs : Variant → Variant → Bool) (self : MonitoredItem)
    (newValue : DataValue) : Sample :=
  if self.monitoringMode = .disabled then ⟨none, self, false⟩
  else if !self.shouldNotify differs newValue then ⟨none, self, false⟩
  else
    let sampled := { self with lastValue := some newValue }
    if self.monitoringMode = .sampling then ⟨none, sampled, false⟩
    else
      let notification : MonitoredItemNotification := ⟨self.clientHandle, self.id, newValue⟩
      let queued (queue : List MonitoredItemNotification) : Sample :=
        ⟨some notification, { sampled with notificationQueue := queue ++ [notification] }, false⟩
      if self.notificationQueue.length ≥ self.config.queueSize.toNat then
        if self.config.discardOldest then
          match self.notificationQueue with
          | [] => ⟨none, sampled, true⟩
          | _ :: queue => queued queue
        else ⟨none, sampled, false⟩
      else queued self.notificationQueue

end MonitoredItem

structure SubscriptionConfig where
  subscriptionId : UInt32
  lifetimeCount : UInt32
  maxKeepAliveCount : UInt32
  maxNotificationsPerPublish : UInt32
  publishingEnabled : Bool

inductive SubscriptionState where
  | creating | normal | late | keepAlive | closed
deriving DecidableEq

structure SubscriptionStateData where
  config : SubscriptionConfig
  state : SubscriptionState
  nextItemId : UInt32
  sequenceNumber : UInt32
  keepAliveCounter : Nat
  lifetimeCounter : Nat

namespace SubscriptionStateData

def new (config : SubscriptionConfig) : SubscriptionStateData := ⟨config, .creating, 1, 1, 0, 0⟩

variable (self : SubscriptionStateData)

def tick : SubscriptionStateData :=
  let counted := { self with lifetimeCounter := self.lifetimeCounter + 1 }
  if counted.lifetimeCounter ≥ self.config.lifetimeCount.toNat then { counted with state := .closed }
  else counted

def resetLifetime : SubscriptionStateData :=
  { self with lifetimeCounter := 0 }

def markKeepalive : SubscriptionStateData :=
  { self with keepAliveCounter := 0, state := .keepAlive }

def markPublished : SubscriptionStateData :=
  { self with sequenceNumber := self.sequenceNumber + 1, keepAliveCounter := 0, state := .normal }

end SubscriptionStateData

structure NotificationQueue where
  pendingNotifications : List MonitoredItemNotification
  pendingEventNotifications : List EventFieldList

namespace NotificationQueue

variable (self : NotificationQueue)

def pushDataChange (notification : MonitoredItemNotification) : NotificationQueue :=
  { self with pendingNotifications := self.pendingNotifications ++ [notification] }

def pushEventNotification (maxNotifications : UInt32)
    (fieldList : EventFieldList) : NotificationQueue :=
  if self.pendingEventNotifications.length < maxNotifications.toNat * 2 then
    { self with pendingEventNotifications := self.pendingEventNotifications ++ [fieldList] }
  else self

def hasPending : Bool :=
  !self.pendingNotifications.isEmpty || !self.pendingEventNotifications.isEmpty

end NotificationQueue

structure Subscription where
  stateData : SubscriptionStateData
  monitoredItems : List MonitoredItem
  notificationQueue : NotificationQueue
  ownerSessionId : Option NodeId
  detachedRestored : Bool

structure NotificationMessage where
  subscriptionId : UInt32
  sequenceNumber : UInt32
  notifications : List MonitoredItemNotification
  eventNotifications : List EventFieldList
  moreNotifications : Bool
deriving DecidableEq

/-- `drain(..count)` of a queue that is longer, `mem::take` of any other. -/
def drainUpTo {Item : Type} (count : Nat) (pending : List Item) : List Item × List Item :=
  if pending.length > count then (pending.take count, pending.drop count) else (pending, [])

/-- What is left of the budget goes to the second queue. -/
def drainBudget {Item : Type} (budget : Nat) (pending : List Item) : List Item × List Item :=
  if budget = 0 then ([], pending) else drainUpTo budget pending

namespace Subscription

def new (config : SubscriptionConfig) (ownerSessionId : Option NodeId) : Subscription :=
  ⟨.new config, [], ⟨[], []⟩, ownerSessionId, false⟩

variable (self : Subscription)

def id : UInt32 := self.stateData.config.subscriptionId

def isPublishable : Bool := !self.detachedRestored

def tick : Subscription := { self with stateData := self.stateData.tick }

def shouldDelete : Bool := self.stateData.state = .closed

def pushEventNotification (fieldList : EventFieldList) : Subscription :=
  { self with
    notificationQueue := self.notificationQueue.pushEventNotification
      self.stateData.config.maxNotificationsPerPublish fieldList }

/-- The loop over the items; what panics leaves the items behind it unvisited. -/
def sampleItems (differs : Variant → Variant → Bool) (nodeId : NodeId) (value : DataValue) :
    List MonitoredItem → NotificationQueue → List MonitoredItem × NotificationQueue × Bool
  | [], queue => ([], queue, false)
  | item :: items, queue =>
    if item.config.nodeId = nodeId then
      let sample := item.onValueChange differs value
      if sample.panicked then (sample.item :: items, queue, true)
      else
        let others := sampleItems differs nodeId value items
          (sample.notification.elim queue queue.pushDataChange)
        (sample.item :: others.1, others.2)
    else
      let others := sampleItems differs nodeId value items queue
      (item :: others.1, others.2)

def onValueChange (differs : Variant → Variant → Bool) (nodeId : NodeId) (value : DataValue)
    (self : Subscription) : Bool × Subscription :=
  let sampled := sampleItems differs nodeId value self.monitoredItems self.notificationQueue
  (sampled.2.2, { self with monitoredItems := sampled.1, notificationQueue := sampled.2.1 })

def publishPending : NotificationMessage × Subscription :=
  let max := self.stateData.config.maxNotificationsPerPublish.toNat
  let drained := drainUpTo max self.notificationQueue.pendingNotifications
  let drainedEvents := drainBudget (max - drained.1.length)
    self.notificationQueue.pendingEventNotifications
  let queue : NotificationQueue := ⟨drained.2, drainedEvents.2⟩
  (⟨self.id, self.stateData.sequenceNumber, drained.1, drainedEvents.1, queue.hasPending⟩,
    { self with stateData := self.stateData.markPublished, notificationQueue := queue })

def processPublish : Option NotificationMessage × Subscription :=
  if !self.isPublishable then (none, self)
  else if !self.stateData.config.publishingEnabled then (none, self)
  else
    let alive := { self with stateData := self.stateData.resetLifetime }
    if self.notificationQueue.hasPending then (some alive.publishPending.1, alive.publishPending.2)
    else
      let counted : SubscriptionStateData :=
        { alive.stateData with keepAliveCounter := self.stateData.keepAliveCounter + 1 }
      if counted.keepAliveCounter ≥ counted.config.maxKeepAliveCount.toNat then
        (some ⟨self.id, counted.sequenceNumber, [], [], false⟩,
          { alive with stateData := counted.markKeepalive })
      else (none, { alive with stateData := counted })

end Subscription

end Mabinogion.Opcua
