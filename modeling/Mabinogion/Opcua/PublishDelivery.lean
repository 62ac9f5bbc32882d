import Mabinogion.Opcua.SubscriptionService

/-!
# What reaches the client

A Publish request is answered by the first subscription, and a tick takes what is pending off
every queue, so a notification reaches the client only where nothing comes in between. A tick
also starts the lifetime again of a subscription whose client has gone.
-/

namespace Mabinogion.Opcua

open QueueCall SubscriptionCatalog List Subscription Transducer

namespace Subscription

variable {self : Subscription}

theorem told_processPublish_eq_nil_iff :
    told self.processPublish.1 = [] ↔ (self.Active → self.limit = 0 ∨ self.data = []) := by
  by_cases empty : self.data = []
  · have data := self.processPublish_publishes.data
    rw [empty] at data
    exact iff_of_true (append_eq_nil_iff.mp data.symm).1 fun _ => .inr empty
  · have pending : self.notificationQueue.hasPending = true := by
      by_contra none
      exact empty (hasPending_eq_false.mp (Bool.not_eq_true _ ▸ none)).1
    constructor
    · intro silent active
      rw [← take_eq_nil_iff, ← silent]
      simp only [processPublish, active.publishable, active.enabled, pending, publishPending,
        drainUpTo_eq]
      rfl
    · intro spared
      rw [processPublish]
      split
      · rfl
      · split
        · rfl
        · rename_i attached enabled
          have none := (spared ⟨by simpa using attached, by simpa using enabled⟩).resolve_right empty
          simp only [publishPending, drainUpTo_eq]
          exact take_eq_nil_iff.mpr (.inl none)

theorem config_tick (self : Subscription) : self.tick.stateData.config = self.stateData.config := by
  rw [tick, SubscriptionStateData.tick]
  split <;> rfl

theorem active_tick (self : Subscription) : self.tick.Active ↔ self.Active :=
  ⟨fun active => ⟨active.publishable, self.config_tick ▸ active.enabled⟩,
    fun active => ⟨active.publishable, self.config_tick ▸ active.enabled⟩⟩

theorem limit_tick (self : Subscription) : self.tick.limit = self.limit := by
  rw [limit, config_tick, limit]

theorem notifies_of_pending (active : self.Active) (positive : 1 ≤ self.limit)
    (pending : self.hasPending = true) :
    ∃ message, self.processPublish.1 = some message ∧
      (message.notifications ≠ [] ∨ message.eventNotifications ≠ []) := by
  have publishes := self.processPublish_publishes
  have shrinks := publishes.shrinks positive active
  have data := congrArg length publishes.data
  have events := congrArg length publishes.events
  have some : ¬(self.data = [] ∧ self.events = []) := by
    rw [← hasPending_eq_false, pending]
    exact Bool.noConfusion
  rw [← length_eq_zero_iff, ← length_eq_zero_iff] at some
  cases sent : self.processPublish.1 with
  | none =>
    simp only [sent, Option.elim_none, nil_append] at data events
    omega
  | some message =>
    refine ⟨message, rfl, ?_⟩
    by_contra silent
    simp only [not_or, not_not] at silent
    simp only [sent, Option.elim_some, silent, nil_append] at data events
    omega

end Subscription

variable {subscription : Subscription}

section

variable {catalog : SubscriptionCatalog} {id : UInt32}

def SubscriptionCatalog.publishes (catalog : SubscriptionCatalog) : Nat → SubscriptionCatalog
  | 0 => catalog
  | count + 1 => catalog.publish.2.publishes count

def SubscriptionCatalog.Pending (catalog : SubscriptionCatalog) (id : UInt32) : Prop :=
  ∃ subscription, catalog.subscriptions id = some subscription ∧ subscription.hasPending = true

/-- No keep-alive goes out while something is pending, and no queue stays full. -/
structure ServesPending (catalog : SubscriptionCatalog) : Prop where
  notifies : ∀ count id, (catalog.publishes count).Pending id →
    ∃ message, (catalog.publishes count).publish.1.notificationMessage = some message ∧
      (message.notifications ≠ [] ∨ message.eventNotifications ≠ [])
  served : ∀ id, catalog.Pending id → ∃ count, ¬(catalog.publishes count).Pending id

/-- All subscriptions are publishable and enabled, with room in a message, and are listed. -/
structure AllActive (catalog : SubscriptionCatalog) : Prop where
  active : ∀ id subscription, catalog.subscriptions id = some subscription →
    subscription.Active ∧ 1 ≤ subscription.limit
  listed : ∀ id, (catalog.subscriptions id).isSome → id ∈ catalog.order

theorem AllActive.chosen_eq (all : AllActive catalog) : catalog.chosen = catalog.ids.head? := by
  have every : ∀ id ∈ catalog.ids, (catalog.subscriptions id).any isPublishable = true := by
    intro id listed
    obtain ⟨subscription, found⟩ := Option.isSome_iff_exists.mp (mem_filter.mp listed).2
    rw [found]
    exact (all.active id subscription found).1.publishable
  rw [chosen]
  cases ids : catalog.ids with
  | nil => rfl
  | cons id rest => exact find?_cons_of_pos (every id (ids ▸ mem_cons_self))

theorem AllActive.publish (all : AllActive catalog) :
    AllActive catalog.publish.2 ∧ catalog.publish.2.ids = catalog.ids ∧
      ∀ id, catalog.publish.2.subscriptions id = if catalog.ids.head? = some id then
          (catalog.subscriptions id).map fun subscription => subscription.processPublish.2
        else catalog.subscriptions id := by
  rw [← all.chosen_eq]
  cases first : catalog.chosen with
  | none =>
    rw [publish_eq_fallback _ first]
    exact ⟨all, rfl, fun _ => rfl⟩
  | some front =>
    obtain ⟨subscription, found, _, published⟩ := publish_eq_of_chosen _ first
    have active := all.active front subscription found
    have steady := step_steady subscription .publish
    rw [published]
    have apply (id : UInt32) : (catalog.set front subscription.processPublish.2).subscriptions id =
          if some front = some id then
            (catalog.subscriptions id).map fun subscription => subscription.processPublish.2
          else catalog.subscriptions id := by
      by_cases same : id = front
      · simp [same, found, SubscriptionCatalog.set]
      · simp [same, Ne.symm same, SubscriptionCatalog.set]
    have present (id : UInt32) :
        ((catalog.set front subscription.processPublish.2).subscriptions id).isSome =
          (catalog.subscriptions id).isSome := by
      rw [apply]
      split
      · exact Option.isSome_map
      · rfl
    refine ⟨⟨fun id other there => ?_, fun id => (present id).symm ▸ all.listed id⟩,
      filter_congr fun id _ => present id, apply⟩
    rw [apply] at there
    split at there
    · rename_i same
      cases same
      cases found.symm ▸ there
      exact ⟨steady.2 active.1, steady.1.symm ▸ active.2⟩
    · exact all.active id other there

theorem AllActive.publishes_apply (all : AllActive catalog) (count : Nat) :
    AllActive (catalog.publishes count) ∧ (catalog.publishes count).ids = catalog.ids ∧
      ∀ id, (catalog.publishes count).subscriptions id =
        if catalog.ids.head? = some id then (catalog.subscriptions id).map fun subscription =>
          final step subscription (replicate count .publish)
        else catalog.subscriptions id := by
  induction count generalizing catalog with
  | zero => exact ⟨all, rfl, fun id => by simp [publishes]⟩
  | succ count ih =>
    obtain ⟨still, ids, first⟩ := all.publish
    obtain ⟨active, same, reached⟩ := ih still
    rw [publishes]
    refine ⟨active, same.trans ids, fun id => ?_⟩
    rw [reached, ids, first]
    split
    · rw [Option.map_map]
      rfl
    · rfl

/-- The first subscription answers every request, so the others are never served. -/
theorem servesPending_iff (all : AllActive catalog) :
    ServesPending catalog ↔ ∀ id, catalog.Pending id → catalog.ids.head? = some id := by
  constructor
  · intro serves id pending
    by_contra behind
    obtain ⟨count, empty⟩ := serves.served id pending
    apply empty
    rw [Pending, (all.publishes_apply count).2.2, if_neg behind]
    exact pending
  · intro first
    refine ⟨fun count id pending => ?_, fun id pending => ?_⟩
    · obtain ⟨still, ids, reached⟩ := all.publishes_apply count
      have front : catalog.ids.head? = some id := by
        by_contra behind
        rw [Pending, reached, if_neg behind] at pending
        exact behind (first id pending)
      obtain ⟨subscription, found, waiting⟩ := pending
      obtain ⟨answering, there, _, published⟩ :=
        publish_eq_of_chosen _ (still.chosen_eq.trans (ids.symm ▸ front))
      cases found.symm.trans there
      rw [published]
      have active := still.active id subscription found
      exact notifies_of_pending active.1 active.2 waiting
    · have front := first id pending
      obtain ⟨subscription, found, _⟩ := pending
      have active := all.active id subscription found
      refine ⟨subscription.data.length + subscription.events.length, ?_⟩
      rintro ⟨emptied, there, waiting⟩
      rw [(all.publishes_apply _).2.2, if_pos front, found] at there
      cases there
      rw [drained_publishes _ subscription active.1 active.2 le_rfl] at waiting
      cases waiting

variable {subscriptions : List Subscription}

theorem ofList_apply (found : (ofList subscriptions).subscriptions id = some subscription) :
    subscription ∈ subscriptions ∧ subscription.id = id := by
  have same := find?_some found
  exact ⟨mem_of_find?_eq_some found, of_decide_eq_true same⟩

theorem allActive_ofList
    (active : ∀ subscription ∈ subscriptions, subscription.Active ∧ 1 ≤ subscription.limit) :
    AllActive (.ofList subscriptions) where
  active := fun _ subscription found => active subscription (ofList_apply found).1
  listed := by
    intro id present
    obtain ⟨subscription, found⟩ := Option.isSome_iff_exists.mp present
    obtain ⟨listed, rfl⟩ := ofList_apply found
    exact mem_map_of_mem listed

theorem first_subscription_served : ServesPending (.ofList
      [(new ⟨1, 10, 3, 1, true⟩ none).pushEventNotification ⟨7, []⟩,
        .new ⟨2, 10, 3, 1, true⟩ none]) := by
  refine (servesPending_iff (allActive_ofList ?_)).mpr ?_
  · intro subscription listed
    rcases mem_pair.mp listed with rfl | rfl
    all_goals exact ⟨⟨rfl, rfl⟩, by decide⟩
  · rintro id ⟨subscription, found, waiting⟩
    obtain ⟨listed, rfl⟩ := ofList_apply found
    rcases mem_pair.mp listed with rfl | rfl
    · rfl
    · cases waiting

/-- The first subscription answers, with nothing to say. -/
theorem second_subscription_starves : ¬ServesPending (.ofList [.new ⟨1, 10, 3, 1, true⟩ none,
      (new ⟨2, 10, 3, 1, true⟩ none).pushEventNotification ⟨7, []⟩]) := by
  intro serves
  obtain ⟨message, sent, _⟩ := serves.notifies 0 2 ⟨_, rfl, rfl⟩
  cases sent

end

inductive CatalogCall where
  | valueChange (nodeId : NodeId) (value : DataValue)
  | tick
  | removeClosed
  | publish

structure Ledger where
  catalog : SubscriptionCatalog
  accepted : List MonitoredItemNotification
  published : List MonitoredItemNotification

section

variable (differs : Variant → Variant → Bool) (id : UInt32)

def SubscriptionCatalog.pending (catalog : SubscriptionCatalog) : List MonitoredItemNotification :=
  (catalog.subscriptions id).elim [] data

def Ledger.step (ledger : Ledger) : CatalogCall → Unit × Ledger
  | .valueChange nodeId value =>
    let after := ledger.catalog.onValueChange differs nodeId value
    ((), ⟨after, ledger.accepted ++ (after.pending id).drop (ledger.catalog.pending id).length,
      ledger.published⟩)
  | .tick => ((), { ledger with catalog := ledger.catalog.tick })
  | .removeClosed => ((), { ledger with catalog := ledger.catalog.removeClosed })
  | .publish =>
    let answer := ledger.catalog.publish
    ((), ⟨answer.2, ledger.accepted, ledger.published ++
      if answer.1.subscriptionId = id then told answer.1.notificationMessage else []⟩)

/-- While the subscription exists, each accepted notification is pending or published. -/
def Ledger.Kept (ledger : Ledger) : Prop :=
  (ledger.catalog.subscriptions id).isSome →
    ledger.accepted.Subperm (ledger.published ++ ledger.catalog.pending id)

/-- No tick finds data that it would take. -/
def Ledger.Harmless (ledger : Ledger) : CatalogCall → Prop
  | .tick => ∀ subscription, ledger.catalog.subscriptions id = some subscription →
    subscription.Active → subscription.limit = 0 ∨ subscription.data = []
  | _ => True

variable (catalog : SubscriptionCatalog)

theorem pending_onValueChange (nodeId : NodeId) (value : DataValue) :
    catalog.pending id <+: (catalog.onValueChange differs nodeId value).pending id ∧
      ((catalog.onValueChange differs nodeId value).subscriptions id).isSome =
        (catalog.subscriptions id).isSome := by
  simp only [SubscriptionCatalog.pending, SubscriptionCatalog.onValueChange]
  cases catalog.subscriptions id with
  | none => simp
  | some subscription =>
    split
    · obtain ⟨_, new, grown, _⟩ := sampleItems_appends differs nodeId value
        subscription.monitoredItems subscription.notificationQueue
      exact ⟨⟨new, grown.symm⟩, rfl⟩
    · exact ⟨prefix_rfl, rfl⟩

theorem pending_tick (found : catalog.subscriptions id = some subscription) :
    catalog.pending id = told subscription.tick.processPublish.1 ++ catalog.tick.pending id := by
  simp only [SubscriptionCatalog.pending, SubscriptionCatalog.tick, found]
  exact subscription.tick.processPublish_publishes.data

theorem pending_publish : catalog.pending id = (if catalog.publish.1.subscriptionId = id then
      told catalog.publish.1.notificationMessage else []) ++ catalog.publish.2.pending id ∧
      (catalog.publish.2.subscriptions id).isSome = (catalog.subscriptions id).isSome := by
  by_cases answers : catalog.chosen = some id
  · obtain ⟨subscription, found, _, published⟩ := publish_eq_of_chosen _ answers
    rw [published, if_pos rfl]
    simp only [SubscriptionCatalog.pending, SubscriptionCatalog.set, found, Function.update_self]
    exact ⟨subscription.processPublish_publishes.data, rfl⟩
  · have same := publish_other _ answers
    have silent : (if catalog.publish.1.subscriptionId = id then
        told catalog.publish.1.notificationMessage else []) = [] := by
      cases first : catalog.chosen with
      | none =>
        rw [publish_eq_fallback _ first]
        exact ite_self _
      | some front =>
        obtain ⟨_, _, _, published⟩ := publish_eq_of_chosen _ first
        rw [published, if_neg fun equal => answers (first.trans (congrArg some equal))]
    rw [silent, SubscriptionCatalog.pending, SubscriptionCatalog.pending, same]
    exact ⟨rfl, rfl⟩

theorem pending_removeClosed :
    catalog.removeClosed.pending id = [] ∧ (catalog.removeClosed.subscriptions id).isSome = false ∨
      catalog.removeClosed.subscriptions id = catalog.subscriptions id := by
  cases found : catalog.subscriptions id with
  | none => simp [removeClosed, found]
  | some subscription =>
    cases closed : subscription.shouldDelete <;>
      simp [SubscriptionCatalog.pending, removeClosed, found, Option.filter, closed]

def Ledger.Counts (ledger : Ledger) : Prop :=
  ledger.published.length + (ledger.catalog.pending id).length ≤ ledger.accepted.length

variable (ledger : Ledger) (call : CatalogCall)

theorem Ledger.step_counts (counts : ledger.Counts id) :
    (ledger.step differs id call).2.Counts id := by
  rw [Counts] at counts ⊢
  cases call with
  | valueChange nodeId value =>
    simp only [step, length_append, length_drop]
    omega
  | tick =>
    cases found : ledger.catalog.subscriptions id with
    | none =>
      simp only [step, SubscriptionCatalog.pending, SubscriptionCatalog.tick, found] at counts ⊢
      exact counts
    | some =>
      have taken := congrArg length (pending_tick id _ found)
      rw [length_append] at taken
      simp only [step]
      omega
  | removeClosed =>
    simp only [step]
    rcases pending_removeClosed id ledger.catalog with gone | same
    · rw [gone.1, length_nil]
      omega
    · rw [SubscriptionCatalog.pending, same]
      exact counts
  | publish =>
    have taken := congrArg length (pending_publish id ledger.catalog).1
    simp only [step, length_append] at taken ⊢
    omega

theorem Ledger.step_kept (counts : ledger.Counts id) (kept : ledger.Kept id) :
    (ledger.step differs id call).2.Kept id ↔ ledger.Harmless id call := by
  cases call with
  | valueChange nodeId value =>
    obtain ⟨⟨new, grown⟩, present⟩ := pending_onValueChange differs id ledger.catalog nodeId value
    refine iff_of_true (fun there => ?_) trivial
    simp only [step] at there ⊢
    rw [← grown, drop_left, ← append_assoc]
    exact (kept (present ▸ there)).append (Subperm.refl new)
  | tick =>
    cases found : ledger.catalog.subscriptions id with
    | none => simp [step, Kept, Harmless, SubscriptionCatalog.tick, found]
    | some subscription =>
      have taken := pending_tick id _ found
      have spared : told subscription.tick.processPublish.1 = [] ↔ ledger.Harmless id .tick := by
        rw [told_processPublish_eq_nil_iff, active_tick, limit_tick, Harmless]
        simp only [found, Option.some.injEq, forall_eq']
        rfl
      rw [← spared]
      constructor
      · intro still
        have lengths := (still (by simp [step, SubscriptionCatalog.tick, found])).length_le
        rw [Counts, taken] at counts
        simp only [step, length_append] at lengths counts
        exact length_eq_zero_iff.mp (by omega)
      · intro idle _
        rw [idle, nil_append] at taken
        have before := kept (by simp [found])
        rw [taken] at before
        exact before
  | removeClosed =>
    refine iff_of_true (fun there => ?_) trivial
    simp only [step] at there ⊢
    rcases pending_removeClosed id ledger.catalog with gone | same
    · rw [gone.2] at there
      cases there
    · rw [SubscriptionCatalog.pending, same]
      exact kept (same ▸ there)
  | publish =>
    obtain ⟨taken, present⟩ := pending_publish id ledger.catalog
    refine iff_of_true (fun there => ?_) trivial
    simp only [step, append_assoc] at there ⊢
    rw [← taken]
    exact kept (present ▸ there)

/-- Only what the Publish service drains reaches the client, and ticks drain the same queue. -/
theorem notifications_kept_iff (id : UInt32) (catalog : SubscriptionCatalog)
    (calls : List CatalogCall) :
    (∀ ledger ∈ states (Ledger.step differs id) ⟨catalog, catalog.pending id, []⟩ calls,
        ledger.Kept id) ↔
      ∀ arrival ∈ arrivals (Ledger.step differs id) ⟨catalog, catalog.pending id, []⟩
        calls, arrival.1.Harmless id arrival.2 := by
  rw [states_hold_iff (Ledger.step differs id)
    (Ledger.step_counts differs id) (Ledger.step_kept differs id) _ _ (Nat.zero_add _).le]
  exact and_iff_right fun _ => List.Subperm.refl _

/-- The tick takes what the next Publish request should have. -/
theorem notification_taken_by_tick : ¬∀ ledger ∈ states (Ledger.step (fun _ _ => true) 1)
      ⟨.ofList [{ new ⟨1, 10, 3, 1, true⟩ none with
        monitoredItems := [.new 1 ⟨.numeric 1 7, 1, true, none, .dataChange, none⟩] }], [], []⟩
      [.valueChange (.numeric 1 7) (.withStatus .unixEpoch (.byte 1) .good), .tick, .publish],
      ledger.Kept 1 := by
  intro kept
  have ticked := kept _ (mem_cons_of_mem _ (mem_cons_of_mem _ mem_cons_self)) rfl
  exact absurd ticked.length_le (by decide)

end

namespace Subscription

variable {self : Subscription}

/-- The entry is there as it was, or with other items and notifications. -/
def Spares (id : UInt32) (before after : SubscriptionCatalog) : Prop :=
  (after.subscriptions id).map (fun entry => (entry.stateData, entry.detachedRestored)) =
    (before.subscriptions id).map fun entry => (entry.stateData, entry.detachedRestored)

theorem spares_onValueChange (differs : Variant → Variant → Bool) (nodeId : NodeId)
    (value : DataValue) (id : UInt32) (catalog : SubscriptionCatalog) :
    Spares id catalog (catalog.onValueChange differs nodeId value) := by
  rw [Spares, SubscriptionCatalog.onValueChange]
  dsimp only
  split
  · rw [Option.map_map]
    rfl
  · rfl

theorem spares_publish {id : UInt32} {catalog : SubscriptionCatalog}
    (other : catalog.chosen ≠ some id) : Spares id catalog catalog.publish.2 := by
  rw [Spares, publish_other _ other]

/-- Not closed, nor about to be with the next tick. -/
structure Live (subscription : Subscription) : Prop where
  runs : subscription.stateData.state ≠ .closed
  early : subscription.stateData.lifetimeCounter + 1 <
    subscription.stateData.config.lifetimeCount.toNat

/-- What a round of `tick_all` leaves of an entry. -/
def ticked (found : Option Subscription) : Option Subscription :=
  (found.map (·.tick.processPublish.2)).filter (!·.shouldDelete)

theorem Live.tick (live : self.Live) : self.tick.stateData =
    { self.stateData with lifetimeCounter := self.stateData.lifetimeCounter + 1 } := by
  rw [Subscription.tick, SubscriptionStateData.tick, if_neg live.early.not_ge]

section

variable {id : UInt32} {rounds : Nat} {catalog after : SubscriptionCatalog}

theorem Spares.found {next : SubscriptionCatalog} (spares : Spares id catalog next)
    (found : catalog.subscriptions id = some self) : ∃ entry, next.subscriptions id = some entry ∧
      entry.stateData = self.stateData ∧ entry.detachedRestored = self.detachedRestored := by
  rw [Spares, found] at spares
  obtain ⟨entry, there, same⟩ := Option.map_eq_some_iff.mp spares
  exact ⟨entry, there, congrArg Prod.fst same, congrArg Prod.snd same⟩

end

end Subscription

end Mabinogion.Opcua
