import Mabinogion.Bacnet.CovManager

/-!
# The bound of the subscription table

What the table of subscriptions keeps over all calls, and when a renewal goes
through.
-/

namespace Mabinogion.Bacnet.CovManager

open KeyedTable
open Option (isSome_iff_exists isSome_of_eq_some)

structure Sound (manager : CovManager) : Prop where
  bounded : manager.subscriptionCount ≤ manager.maxSubscriptions
  keyed : ∀ key entry, manager.subscriptions.lookup key = some entry → entry.key = key

section

variable {manager : CovManager}

theorem subscribe_cases (manager : CovManager) (now : Nat) (subscription : CovSubscription) :
    (manager.subscriptionCount < manager.maxSubscriptions ∧
      manager.subscribe now subscription = (.ok (), manager.enter subscription)) ∨
    (manager.maxSubscriptions ≤ manager.subscriptionCount ∧
      (manager.cleanupExpired now).subscriptionCount < manager.maxSubscriptions ∧
      manager.subscribe now subscription =
        (.ok (), (manager.cleanupExpired now).enter subscription)) ∨
    (manager.maxSubscriptions ≤ manager.subscriptionCount ∧
      manager.maxSubscriptions ≤ (manager.cleanupExpired now).subscriptionCount ∧
      manager.subscribe now subscription =
        (.error .maxSubscriptionsReached, manager.cleanupExpired now)) := by
  by_cases full : manager.subscriptionCount ≥ manager.maxSubscriptions
  · by_cases stillFull : (manager.cleanupExpired now).subscriptionCount ≥ manager.maxSubscriptions
    · right
      right
      exact ⟨full, stillFull, by rw [subscribe, if_pos full]; exact if_pos stillFull⟩
    · right
      left
      exact ⟨full, by omega, by rw [subscribe, if_pos full]; exact if_neg stillFull⟩
  · left
    exact ⟨by omega, by rw [subscribe, if_neg full]⟩

theorem lookup_cleanupExpired (now : Nat) (key : SubscriptionKey) :
    (manager.cleanupExpired now).subscriptions.lookup key =
      (manager.subscriptions.lookup key).filter fun entry => !entry.isExpired now :=
  lookup_retain _ _ _

theorem lookup_enter (subscription : CovSubscription) (key : SubscriptionKey) :
    (manager.enter subscription).subscriptions.lookup key =
      if key = subscription.key then some subscription else manager.subscriptions.lookup key :=
  lookup_insert_eq _ _ _ _

section

variable (sound : manager.Sound)

include sound

theorem Sound.cleanupExpired (now : Nat) : (manager.cleanupExpired now).Sound where
  bounded := (size_retain_le _ _).trans sound.bounded
  keyed := Keyed.retain sound.keyed _

theorem Sound.enter (subscription : CovSubscription)
    (room : manager.subscriptionCount < manager.maxSubscriptions) :
    (manager.enter subscription).Sound where
  bounded := (size_insert_le _ _ _).trans room
  keyed := Keyed.insert sound.keyed rfl

theorem Sound.subscribe (now : Nat) (subscription : CovSubscription) :
    (manager.subscribe now subscription).2.Sound := by
  rcases subscribe_cases manager now subscription with
    ⟨room, result⟩ | ⟨_, room, result⟩ | ⟨_, _, result⟩
  · rw [result]
    exact sound.enter subscription room
  · rw [result]
    exact (sound.cleanupExpired now).enter subscription room
  · rw [result]
    exact sound.cleanupExpired now

theorem Sound.unsubscribe (key : SubscriptionKey) : (manager.unsubscribe key).2.Sound where
  bounded := (size_erase_le _ _).trans sound.bounded
  keyed := Keyed.erase sound.keyed key

theorem Sound.step (call : Nat × Call) : (manager.step call).2.Sound := by
  obtain ⟨now, call⟩ := call
  cases call with
  | subscribe subscription => exact sound.subscribe now subscription
  | unsubscribe key => exact sound.unsubscribe key
  | cleanupExpired => exact sound.cleanupExpired now

end

theorem maxSubscriptions_step (manager : CovManager) (call : Nat × Call) :
    (manager.step call).2.maxSubscriptions = manager.maxSubscriptions := by
  obtain ⟨now, call⟩ := call
  cases call with
  | subscribe subscription =>
    show (manager.subscribe now subscription).2.maxSubscriptions = _
    rcases subscribe_cases manager now subscription with
      ⟨_, result⟩ | ⟨_, _, result⟩ | ⟨_, _, result⟩
    all_goals
      rw [result]
      rfl
  | unsubscribe | cleanupExpired => rfl

end

section

variable {manager : CovManager} {now : Nat} {subscription : CovSubscription}

/-- The subscription goes through in the place of the entry that it renews. -/
structure Renews (manager : CovManager) (now : Nat) (subscription : CovSubscription) : Prop where
  succeeds : (manager.subscribe now subscription).1 = .ok ()
  replaced : (manager.subscribe now subscription).2.subscriptions.lookup subscription.key =
    some subscription
  counted : (manager.subscribe now subscription).2.subscriptionCount = manager.subscriptionCount

theorem isSome_lookup_cleanupExpired (key : SubscriptionKey) :
    ((manager.cleanupExpired now).subscriptions.lookup key).isSome ↔
      ∃ entry, manager.subscriptions.lookup key = some entry ∧ entry.isExpired now = false := by
  rw [lookup_cleanupExpired, isSome_iff_exists]
  simp only [Option.filter_eq_some_iff, Bool.not_eq_true']

theorem count_cleanupExpired_eq_iff :
    (manager.cleanupExpired now).subscriptionCount = manager.subscriptionCount ↔
      ∀ key entry, manager.subscriptions.lookup key = some entry → entry.isExpired now = false := by
  rw [subscriptionCount, subscriptionCount, size_eq_iff_of_subset]
  · simp only [isSome_lookup_cleanupExpired]
    constructor
    · intro all key entry found
      obtain ⟨kept, same, live⟩ := all key (isSome_of_eq_some found)
      rw [found] at same
      rw [Option.some.inj same]
      exact live
    · intro live key present
      obtain ⟨entry, found⟩ := isSome_iff_exists.mp present
      exact ⟨entry, found, live key entry found⟩
  · intro key kept
    obtain ⟨entry, found, _⟩ := (isSome_lookup_cleanupExpired key).mp kept
    exact isSome_of_eq_some found

/-- With the renewed entry put back, it does so if no other entry is expired. -/
theorem count_cleaned_enter_eq_iff
    (present : (manager.subscriptions.lookup subscription.key).isSome) :
    ((manager.cleanupExpired now).enter subscription).subscriptionCount =
        manager.subscriptionCount ↔
      ∀ key entry, manager.subscriptions.lookup key = some entry → key ≠ subscription.key →
        entry.isExpired now = false := by
  rw [subscriptionCount, subscriptionCount, size_eq_iff_of_subset]
  · constructor
    · intro all key entry found other
      have kept := all key (isSome_of_eq_some found)
      rw [lookup_enter, if_neg other, isSome_lookup_cleanupExpired] at kept
      obtain ⟨same, sameFound, live⟩ := kept
      rw [found] at sameFound
      rw [Option.some.inj sameFound]
      exact live
    · intro live key listed
      rw [lookup_enter]
      split
      · rfl
      · rename_i other
        obtain ⟨entry, found⟩ := isSome_iff_exists.mp listed
        exact (isSome_lookup_cleanupExpired key).mpr ⟨entry, found, live key entry found other⟩
  · intro key listed
    rw [lookup_enter] at listed
    split at listed
    · rename_i same
      rw [same]
      exact present
    · obtain ⟨entry, found, _⟩ := (isSome_lookup_cleanupExpired key).mp listed
      exact isSome_of_eq_some found

theorem renews_of_room (room : manager.subscriptionCount < manager.maxSubscriptions)
    (present : (manager.subscriptions.lookup subscription.key).isSome) :
    manager.Renews now subscription := by
  obtain ⟨old, found⟩ := isSome_iff_exists.mp present
  have result : manager.subscribe now subscription = (.ok (), manager.enter subscription) := by
    rw [subscribe, if_neg (Nat.not_le.mpr room)]
  constructor
  · rw [result]
  · rw [result, lookup_enter, if_pos rfl]
  · rw [result]
    exact size_insert_present _ _ found

/-- A renewal goes through exactly if there is room for one more entry, or the renewed entry is the
only expired one. -/
theorem renews_iff (sound : manager.Sound)
    (present : (manager.subscriptions.lookup subscription.key).isSome) :
    manager.Renews now subscription ↔ manager.subscriptionCount < manager.maxSubscriptions ∨
        ∀ key entry, manager.subscriptions.lookup key = some entry →
          (entry.isExpired now = true ↔ key = subscription.key) := by
  obtain ⟨old, found⟩ := isSome_iff_exists.mp present
  rcases subscribe_cases manager now subscription with
    ⟨room, _⟩ | ⟨full, room, result⟩ | ⟨full, stillFull, result⟩
  · exact iff_of_true (renews_of_room room present) (Or.inl room)
  · have bounded := sound.bounded
    have evicted : (manager.cleanupExpired now).subscriptionCount ≠ manager.subscriptionCount := by
      omega
    rw [Ne, count_cleanupExpired_eq_iff] at evicted
    constructor
    · intro renews
      have counted := renews.counted
      rw [result] at counted
      have others := (count_cleaned_enter_eq_iff present).mp counted
      right
      intro key entry listed
      constructor
      · intro expired
        by_contra other
        rw [others key entry listed other] at expired
        cases expired
      · intro same
        -- were the renewed entry live, the cleanup would have removed nothing
        by_contra live
        apply evicted
        intro another candidate listedToo
        by_cases renewed : another = subscription.key
        · rw [same, ← renewed, listedToo] at listed
          rw [Option.some.inj listed]
          exact Bool.eq_false_of_not_eq_true live
        · exact others another candidate listedToo renewed
    · intro condition
      have only := condition.resolve_left (by omega)
      constructor
      · rw [result]
      · rw [result, lookup_enter, if_pos rfl]
      · rw [result]
        apply (count_cleaned_enter_eq_iff present).mpr
        intro key entry listed other
        apply Bool.eq_false_of_not_eq_true
        intro expired
        exact other ((only key entry listed).mp expired)
  · have smaller : (manager.cleanupExpired now).subscriptionCount ≤ manager.subscriptionCount :=
      size_retain_le _ _
    have bounded := sound.bounded
    have same : (manager.cleanupExpired now).subscriptionCount = manager.subscriptionCount := by
      omega
    have live := count_cleanupExpired_eq_iff.mp same
    apply iff_of_false
    · intro renews
      have succeeds := renews.succeeds
      rw [result] at succeeds
      cases succeeds
    · intro condition
      have only := condition.resolve_left (by omega)
      have expired := (only subscription.key old found).mpr rfl
      rw [live subscription.key old found] at expired
      cases expired

theorem subscribe_failed {error : CovError}
    (failed : (manager.subscribe now subscription).1 = .error error) {key : SubscriptionKey}
    {entry : CovSubscription} (found : manager.subscriptions.lookup key = some entry)
    (live : entry.isExpired now = false) :
    (manager.subscribe now subscription).2.subscriptions.lookup key = some entry := by
  rcases subscribe_cases manager now subscription with
    ⟨_, result⟩ | ⟨_, _, result⟩ | ⟨_, _, result⟩
  · rw [result] at failed
    cases failed
  · rw [result] at failed
    cases failed
  · rw [result, lookup_cleanupExpired, found, Option.filter_some, live]
    rfl

end

section

variable (maxSubscriptions : Nat) (calls : List (Nat × Call))

theorem sound_after : (after maxSubscriptions calls).Sound := by
  apply Transducer.final_invariant step (fun _ call sound => sound.step call)
  exact ⟨Nat.zero_le _, fun _ _ found => nomatch found⟩

theorem maxSubscriptions_after : (after maxSubscriptions calls).maxSubscriptions =
    maxSubscriptions := by
  have preserved (manager : CovManager) (call : Nat × Call)
      (same : manager.maxSubscriptions = maxSubscriptions) :
      (manager.step call).2.maxSubscriptions = maxSubscriptions := by
    rw [maxSubscriptions_step, same]
  exact Transducer.final_invariant step preserved _ calls rfl

/-- After any calls the table is within its bound with one entry for a key, and a subscription that
fails leaves all others in place. -/
theorem subscription_table_iff :
    (after maxSubscriptions calls).subscriptionCount ≤ maxSubscriptions ∧
    ((after maxSubscriptions calls).listSubscriptions.map CovSubscription.key).Nodup ∧
    (∀ now subscription,
      ((after maxSubscriptions calls).subscriptions.lookup subscription.key).isSome →
        ((after maxSubscriptions calls).Renews now subscription ↔
          (after maxSubscriptions calls).subscriptionCount < maxSubscriptions ∨
            ∀ key entry, (after maxSubscriptions calls).subscriptions.lookup key = some entry →
              (entry.isExpired now = true ↔ key = subscription.key))) ∧
    ∀ now subscription error,
      ((after maxSubscriptions calls).subscribe now subscription).1 = .error error →
        ∀ key entry, (after maxSubscriptions calls).subscriptions.lookup key = some entry →
          entry.isExpired now = false →
            ((after maxSubscriptions calls).subscribe now subscription).2.subscriptions.lookup key =
              some entry := by
  have sound := sound_after maxSubscriptions calls
  have limit := maxSubscriptions_after maxSubscriptions calls
  refine ⟨sound.bounded.trans limit.le, Keyed.nodup_values sound.keyed, ?_, ?_⟩
  · intro now subscription present
    rw [renews_iff sound present, limit]
  · intro now subscription error failed key entry found live
    exact subscribe_failed failed found live

/-- The capacity is checked in front of the key. -/
theorem renewal_refused_when_full :
    let subscription : CovSubscription := .new 0 (.v4 0 47808) 1 ⟨.analogInput, 1⟩ false none
    let renewal : CovSubscription := .new 1 (.v4 0 47808) 1 ⟨.analogInput, 1⟩ false none
    (after 1 [(0, .subscribe subscription)]).subscriptions.lookup renewal.key = some subscription ∧
      ((after 1 [(0, .subscribe subscription)]).subscribe 1 renewal).1 =
        .error .maxSubscriptionsReached := by
  decide

/-- Whatever is asked, there is one subscription for a key, and no more than allowed. -/
theorem requests_keep_bound {Object : Type} (defaultAddr : Tsm.SocketAddr)
    (requests : List (Except SubscribeCovError SubscribeCovRequest × Server.ServiceContext ×
      ObjectRegistry Object × Nat)) :
    let manager := Transducer.final (fun manager (decoded, ctx, objects, now) =>
      SubscribeCovHandler.handle defaultAddr decoded ctx objects now manager)
      (new maxSubscriptions) requests
    manager.subscriptionCount ≤ maxSubscriptions ∧
      (manager.listSubscriptions.map CovSubscription.key).Nodup := by
  intro manager
  obtain ⟨sound, limit⟩ : manager.Sound ∧ manager.maxSubscriptions = maxSubscriptions := by
    refine @Transducer.final_invariant _ _ _ _
      (fun manager : CovManager => manager.Sound ∧ manager.maxSubscriptions = maxSubscriptions) ?_ _
      requests ⟨sound_after maxSubscriptions [], rfl⟩
    rintro manager ⟨decoded, ctx, objects, now⟩ ⟨sound, limit⟩
    rcases SubscribeCovHandler.handle_cases defaultAddr decoded ctx objects now manager with
      same | ⟨call, same⟩
    · dsimp only
      rw [same]
      exact ⟨sound, limit⟩
    · dsimp only
      rw [same]
      exact ⟨sound.step _, (maxSubscriptions_step _ _).trans limit⟩
  exact ⟨sound.bounded.trans limit.le, Keyed.nodup_values sound.keyed⟩

end

end Mabinogion.Bacnet.CovManager
