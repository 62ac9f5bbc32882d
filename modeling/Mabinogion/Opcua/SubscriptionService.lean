import Mathlib.Data.List.Perm.Subperm
import Mabinogion.Opcua.Publishing

/-!
# The subscription services

A Publish request is answered by the first subscription, in the order of the catalog, that may
be published at all; the background tick publishes every one, to a channel that nobody reads.
-/

namespace Mabinogion.Opcua

open QueueCall
open Option (any_eq_true)

/-- The subscriptions by id, and the order in which the map gives its keys. -/
structure SubscriptionCatalog where
  subscriptions : UInt32 → Option Subscription
  order : List UInt32

structure PublishResponse where
  subscriptionId : UInt32
  availableSequenceNumbers : List UInt32
  moreNotifications : Bool
  notificationMessage : Option NotificationMessage
deriving DecidableEq

namespace SubscriptionCatalog

def ofList (subscriptions : List Subscription) : SubscriptionCatalog :=
  ⟨fun id => subscriptions.find? fun subscription => subscription.id = id,
    subscriptions.map Subscription.id⟩

variable (self : SubscriptionCatalog)

def ids : List UInt32 :=
  self.order.filter fun id => (self.subscriptions id).isSome

def set (id : UInt32) (subscription : Subscription) : SubscriptionCatalog :=
  { self with subscriptions := Function.update self.subscriptions id (some subscription) }

def processPublish (id : UInt32) : Option (PublishResponse × SubscriptionCatalog) :=
  match self.subscriptions id with
  | none => none
  | some subscription =>
    if !subscription.isPublishable then none
    else
      let published := subscription.processPublish
      some (⟨id, [published.2.stateData.sequenceNumber], published.2.hasPending, published.1⟩,
        self.set id published.2)

/-- The loop over the ids, which ends at the first response. -/
def publishFirst (self : SubscriptionCatalog) :
    List UInt32 → Option (PublishResponse × SubscriptionCatalog)
  | [] => none
  | id :: ids => (self.processPublish id).orElse fun _ => publishFirst self ids

/-- `PublishHandler::handle`: the fields of the response body. -/
def publish : PublishResponse × SubscriptionCatalog :=
  (self.publishFirst self.ids).getD (⟨self.ids.head?.getD 0, [], false, none⟩, self)

/-- `DeleteSubscriptionsHandler::handle`, with the status of every id. -/
def deleteSubscriptions (self : SubscriptionCatalog) :
    List UInt32 → List StatusCode × SubscriptionCatalog
  | [] => ([], self)
  | id :: ids =>
    let removed : SubscriptionCatalog :=
      { self with subscriptions := Function.update self.subscriptions id none }
    let others := removed.deleteSubscriptions ids
    ((if (self.subscriptions id).isSome then .good else .badSubscriptionIdInvalid) :: others.1,
      others.2)

/-- `tick_all` up to the sends, which wait for room in a channel. -/
def tick : SubscriptionCatalog :=
  { self with subscriptions := fun id =>
      (self.subscriptions id).map fun subscription => subscription.tick.processPublish.2 }

def removeClosed : SubscriptionCatalog :=
  { self with subscriptions := fun id =>
      (self.subscriptions id).filter fun subscription => !subscription.shouldDelete }

/-- The ids that a loop visits which ends at a panic. -/
def visited (panics : UInt32 → Bool) : List UInt32 → List UInt32
  | [] => []
  | id :: ids => id :: if panics id then [] else visited panics ids

def onValueChange (differs : Variant → Variant → Bool) (nodeId : NodeId) (value : DataValue)
    (self : SubscriptionCatalog) : SubscriptionCatalog :=
  let panics id := (self.subscriptions id).any fun subscription =>
    (subscription.onValueChange differs nodeId value).1
  { self with subscriptions := fun id =>
      if id ∈ visited panics self.ids then
        (self.subscriptions id).map fun subscription =>
          (subscription.onValueChange differs nodeId value).2
      else self.subscriptions id }

def chosen : Option UInt32 :=
  self.ids.find? fun id => (self.subscriptions id).any Subscription.isPublishable

variable (self : SubscriptionCatalog) {id : UInt32}

theorem isSome_processPublish (id : UInt32) : (self.processPublish id).isSome =
      (self.subscriptions id).any Subscription.isPublishable := by
  rw [processPublish]
  cases self.subscriptions id with
  | none => rfl
  | some subscription => cases publishable : subscription.isPublishable <;> simp [publishable]

theorem publishFirst_eq (ids : List UInt32) : self.publishFirst ids =
      (ids.find? fun id => (self.subscriptions id).any Subscription.isPublishable).bind
        self.processPublish := by
  induction ids with
  | nil => rfl
  | cons id ids ih =>
    rw [publishFirst, ih, List.find?_cons, ← isSome_processPublish]
    cases ran : self.processPublish id with
    | none => rfl
    | some => exact ran.symm

theorem publish_eq_fallback (none : self.chosen = none) :
    self.publish = (⟨self.ids.head?.getD 0, [], false, Option.none⟩, self) := by
  rw [publish, publishFirst_eq, ← chosen, none]
  rfl

theorem publish_eq_of_chosen (answers : self.chosen = some id) :
    ∃ subscription, self.subscriptions id = some subscription ∧ subscription.isPublishable = true ∧
      self.publish = (⟨id, [subscription.processPublish.2.stateData.sequenceNumber],
        subscription.processPublish.2.hasPending, subscription.processPublish.1⟩,
        self.set id subscription.processPublish.2) := by
  have may := List.find?_some answers
  obtain ⟨subscription, found, publishable⟩ := (any_eq_true _ _).mp may
  refine ⟨subscription, found, publishable, ?_⟩
  rw [publish, publishFirst_eq, ← chosen, answers, Option.bind_some, processPublish, found]
  simp only [publishable]
  rfl

theorem publish_other (other : self.chosen ≠ some id) :
    self.publish.2.subscriptions id = self.subscriptions id := by
  cases answers : self.chosen with
  | none => rw [publish_eq_fallback self answers]
  | some first =>
    obtain ⟨_, _, _, published⟩ := publish_eq_of_chosen self answers
    rw [published]
    exact Function.update_of_ne (fun same => other (answers.trans (congrArg some same.symm))) _ _

/-- The catalog without the subscriptions of other sessions. -/
def ownedBy (session : NodeId) : SubscriptionCatalog :=
  { self with subscriptions := fun id =>
      (self.subscriptions id).filter fun subscription => subscription.ownerSessionId = some session }

theorem chosen_eq : self.chosen =
      self.order.find? fun id => (self.subscriptions id).any Subscription.isPublishable := by
  rw [chosen, ids, List.find?_filter]
  congr 1
  funext id
  cases self.subscriptions id <;> simp

theorem owned_publishable {session : NodeId} {id : UInt32}
    (owned : ((self.ownedBy session).subscriptions id).any Subscription.isPublishable = true) :
    (self.subscriptions id).any Subscription.isPublishable = true := by
  obtain ⟨subscription, found, publishable⟩ := (any_eq_true _ _).mp owned
  exact (any_eq_true _ _).mpr ⟨subscription, (Option.filter_eq_some_iff.mp found).1, publishable⟩

end SubscriptionCatalog

/-- The two services that address subscriptions by themselves. -/
inductive SessionCall where
  | publish
  | deleteSubscriptions (ids : List UInt32)

namespace SessionCall

open SubscriptionCatalog

variable (catalog : SubscriptionCatalog)

def after : SessionCall → SubscriptionCatalog
  | publish => catalog.publish.2
  | deleteSubscriptions ids => (catalog.deleteSubscriptions ids).2

/-- The response comes from the session's subscriptions, and those of other sessions stay as they
are. -/
structure Isolated (session : NodeId) (catalog : SubscriptionCatalog) (call : SessionCall) :
    Prop where
  response : call = .publish → catalog.publish.1 = (catalog.ownedBy session).publish.1
  others : ∀ id subscription, catalog.subscriptions id = some subscription →
    ∀ owner ∈ subscription.ownerSessionId, owner ≠ session →
      (call.after catalog).subscriptions id = some subscription

/-- The call is for subscriptions of the session; those without an owner may be deleted. -/
def Addresses (session : NodeId) (catalog : SubscriptionCatalog) : SessionCall → Prop
  | publish =>
    match catalog.chosen with
    | some id => ((catalog.ownedBy session).subscriptions id).isSome
    | none => catalog.ids.head?.getD 0 = (catalog.ownedBy session).ids.head?.getD 0
  | deleteSubscriptions ids => ∀ id ∈ ids, ∀ subscription,
    catalog.subscriptions id = some subscription →
      ∀ owner ∈ subscription.ownerSessionId, owner = session

theorem deleteSubscriptions_apply (ids : List UInt32) (id : UInt32) :
    (catalog.deleteSubscriptions ids).2.subscriptions id =
      if id ∈ ids then none else catalog.subscriptions id := by
  induction ids generalizing catalog with
  | nil => rfl
  | cons first ids ih =>
    rw [SubscriptionCatalog.deleteSubscriptions, ih]
    by_cases same : id = first <;> simp [same]

variable (session : NodeId) (catalog : SubscriptionCatalog)

theorem publish_isolated_iff :
    Isolated session catalog .publish ↔ Addresses session catalog .publish := by
  rw [Addresses]
  cases answers : catalog.chosen with
  | none =>
    have noneOwned : (catalog.ownedBy session).chosen = none := by
      rw [chosen_eq, List.find?_eq_none] at answers ⊢
      exact fun id listed owned => answers id listed (catalog.owned_publishable owned)
    have same : catalog.publish.1 = (catalog.ownedBy session).publish.1 ↔
        catalog.ids.head?.getD 0 = (catalog.ownedBy session).ids.head?.getD 0 := by
      rw [publish_eq_fallback _ answers, publish_eq_fallback _ noneOwned]
      simp
    refine ⟨fun isolated => same.mp (isolated.response rfl), fun heads =>
      ⟨fun _ => same.mpr heads, fun id subscription found _ _ _ => ?_⟩⟩
    rw [after, publish_other _ (by simp [answers]), found]
  | some id =>
    obtain ⟨subscription, found, publishable, published⟩ := publish_eq_of_chosen _ answers
    by_cases owned : subscription.ownerSessionId = some session
    · have own : (catalog.ownedBy session).subscriptions id = some subscription := by
        simp [ownedBy, found, owned]
      have again : (catalog.ownedBy session).chosen = some id := by
        rw [chosen_eq, List.find?_eq_some_iff_append] at answers ⊢
        obtain ⟨_, earlier, later, split, skipped⟩ := answers
        refine ⟨by simp [own, publishable], earlier, later, split, fun other listed => ?_⟩
        by_contra may
        have := skipped other listed
        rw [catalog.owned_publishable (by simpa using may)] at this
        cases this
      obtain ⟨same, foundOwn, _, publishedOwn⟩ := publish_eq_of_chosen _ again
      cases own.symm.trans foundOwn
      refine iff_of_true ⟨fun _ => by rw [published, publishedOwn], fun other kept there owner has
        foreign => ?_⟩ (by simp [own])
      rw [after, publish_other _ ?_, there]
      rw [answers]
      intro equal
      cases equal
      cases found.symm.trans there
      exact foreign (Option.some.inj (has.symm.trans owned))
    · have missing : (catalog.ownedBy session).subscriptions id = none := by
        simp [ownedBy, found, owned]
      refine iff_of_false (fun isolated => ?_) (by simp [missing])
      have same := isolated.response rfl
      cases own : (catalog.ownedBy session).chosen with
      | none =>
        rw [published, publish_eq_fallback _ own] at same
        simp at same
      | some other =>
        obtain ⟨_, foundOwn, _, publishedOwn⟩ := publish_eq_of_chosen _ own
        rw [published, publishedOwn] at same
        cases congrArg PublishResponse.subscriptionId same
        cases missing.symm.trans foundOwn

/-- A call leaves the other sessions alone exactly if what it finds happens to be the caller's. -/
theorem isolated_iff_addresses (call : SessionCall) :
    Isolated session catalog call ↔ Addresses session catalog call := by
  cases call with
  | publish => exact publish_isolated_iff session catalog
  | deleteSubscriptions ids =>
    constructor
    · intro isolated id listed subscription found owner has
      by_contra foreign
      have kept := isolated.others id subscription found owner has foreign
      rw [after, deleteSubscriptions_apply, if_pos listed] at kept
      cases kept
    · intro own
      refine ⟨nofun, fun id subscription found owner has foreign => ?_⟩
      rw [after, deleteSubscriptions_apply, if_neg fun listed =>
        foreign (own id listed subscription found owner has), found]

/-- Neither call compares the owner with the session. -/
theorem foreign_subscription_reached :
    ¬Isolated (.numeric 0 2) (.ofList [.new ⟨1, 10, 3, 1, true⟩ (some (.numeric 0 1)),
        .new ⟨2, 10, 3, 1, true⟩ (some (.numeric 0 2))]) .publish ∧
      ¬Isolated (.numeric 0 2) (.ofList [.new ⟨1, 10, 3, 1, true⟩ (some (.numeric 0 1))])
        (.deleteSubscriptions [1]) := by
  constructor
  · intro isolated
    exact absurd (isolated.response rfl) (by decide)
  · intro isolated
    cases isolated.others 1 _ rfl _ rfl (by decide)

end SessionCall

end Mabinogion.Opcua
