import Mabinogion.Bacnet.Registry
import Mabinogion.Bacnet.Server
import Mabinogion.Bacnet.SubscribeCov

/-!
# COV subscriptions

One entry for each process of an address and each object. A full table is cleaned of
expired entries first, and a renewal counts like a new subscription.
-/

namespace Mabinogion.Bacnet

open KeyedTable Server
open Tsm (SocketAddr)

structure SubscriptionKey where
  subscriberAddress : SocketAddr
  subscriberProcessId : UInt32
  monitoredObject : ObjectId
deriving DecidableEq

structure CovSubscription where
  subscriberAddress : SocketAddr
  subscriberProcessId : UInt32
  monitoredObject : ObjectId
  confirmedNotifications : Bool
  lifetime : Option Nat
  covIncrement : Option UInt32
  createdAt : Nat
  lastNotification : Option Nat
deriving DecidableEq

namespace CovSubscription

def new (now : Nat) (subscriberAddress : SocketAddr) (subscriberProcessId : UInt32)
    (monitoredObject : ObjectId) (confirmed : Bool) (lifetime : Option Nat) : CovSubscription :=
  ⟨subscriberAddress, subscriberProcessId, monitoredObject, confirmed, lifetime, none, now, none⟩

def isExpired (now : Nat) (subscription : CovSubscription) : Bool :=
  match subscription.lifetime with
  | some lifetime => decide (now - subscription.createdAt > lifetime)
  | none => false

def key (subscription : CovSubscription) : SubscriptionKey :=
  ⟨subscription.subscriberAddress, subscription.subscriberProcessId, subscription.monitoredObject⟩

end CovSubscription

inductive CovError where
  | maxSubscriptionsReached | subscriptionNotFound | notCovProperty
deriving DecidableEq

structure CovManager where
  subscriptions : Table SubscriptionKey CovSubscription
  maxSubscriptions : Nat

namespace CovManager

def new (maxSubscriptions : Nat) : CovManager := ⟨∅, maxSubscriptions⟩

variable (manager : CovManager)

def subscriptionCount : Nat := size manager.subscriptions

def listSubscriptions : List CovSubscription :=
  manager.subscriptions.entries.map Sigma.snd

def cleanupExpired (now : Nat) : CovManager :=
  { manager with
    subscriptions := retain (fun _ entry => !entry.isExpired now) manager.subscriptions }

def enter (subscription : CovSubscription) : CovManager :=
  { manager with subscriptions := manager.subscriptions.insert subscription.key subscription }

def subscribe (now : Nat) (subscription : CovSubscription) : Except CovError Unit × CovManager :=
  if manager.subscriptionCount ≥ manager.maxSubscriptions then
    let cleaned := manager.cleanupExpired now
    if cleaned.subscriptionCount ≥ cleaned.maxSubscriptions then
      (.error .maxSubscriptionsReached, cleaned)
    else (.ok (), cleaned.enter subscription)
  else (.ok (), manager.enter subscription)

def unsubscribe (key : SubscriptionKey) : Bool × CovManager :=
  ((manager.subscriptions.lookup key).isSome,
    { manager with subscriptions := manager.subscriptions.erase key })

inductive Call where
  | subscribe (subscription : CovSubscription)
  | unsubscribe (key : SubscriptionKey)
  | cleanupExpired

inductive Reply where
  | subscribed (result : Except CovError Unit)
  | unsubscribed (removed : Bool)
  | done

def step (call : Nat × Call) : Reply × CovManager :=
  match call.2 with
  | .subscribe subscription =>
    let result := manager.subscribe call.1 subscription
    (.subscribed result.1, result.2)
  | .unsubscribe key =>
    let result := manager.unsubscribe key
    (.unsubscribed result.1, result.2)
  | .cleanupExpired => (.done, manager.cleanupExpired call.1)

def after (maxSubscriptions : Nat) (calls : List (Nat × Call)) : CovManager :=
  Transducer.final step (new maxSubscriptions) calls

end CovManager

structure SubscribeCovRequest where
  subscriberProcessId : UInt32
  monitoredObject : ObjectId
  issueConfirmedNotifications : Option Bool
  lifetime : Option UInt32

namespace SubscribeCovHandler

/-- No lifetime and one of 0 are both without an end. -/
def lifetimeOf : Option UInt32 → Option Nat
  | some secs => if secs = 0 then none else some (secs.toNat * 10 ^ 9)
  | none => none

def handle {Object : Type} (defaultAddr : SocketAddr)
    (decoded : Except SubscribeCovError SubscribeCovRequest) (ctx : ServiceContext)
    (objects : ObjectRegistry Object) (now : Nat) (manager : CovManager) :
    ServiceResult × CovManager :=
  match decoded with
  | .error _ => (.error .services .invalidParameterDataType, manager)
  | .ok request =>
    let address := ctx.sourceAddress.getD defaultAddr
    match request.issueConfirmedNotifications with
    | none =>
      (.simpleAck, (manager.unsubscribe
        ⟨address, request.subscriberProcessId, request.monitoredObject⟩).2)
    | some confirmed =>
      if (objects.get request.monitoredObject).isNone then
        (.error .object .unknownObject, manager)
      else
        match manager.subscribe now (.new now address request.subscriberProcessId
            request.monitoredObject confirmed (lifetimeOf request.lifetime)) with
        | (.ok (), subscribed) => (.simpleAck, subscribed)
        | (.error _, cleaned) => (.error .resources .covSubscriptionFailed, cleaned)

theorem handle_cases {Object : Type} (defaultAddr : SocketAddr)
    (decoded : Except SubscribeCovError SubscribeCovRequest) (ctx : ServiceContext)
    (objects : ObjectRegistry Object) (now : Nat) (manager : CovManager) :
    (handle defaultAddr decoded ctx objects now manager).2 = manager ∨
      ∃ call, (handle defaultAddr decoded ctx objects now manager).2 =
        (manager.step (now, call)).2 := by
  unfold handle
  cases decoded with
  | error => exact Or.inl rfl
  | ok =>
    simp only
    split
    · exact Or.inr ⟨.unsubscribe _, rfl⟩
    · split
      · exact Or.inl rfl
      · split
        all_goals
          rename_i result
          exact Or.inr ⟨.subscribe _, (congrArg Prod.snd result).symm⟩

end SubscribeCovHandler

end Mabinogion.Bacnet
