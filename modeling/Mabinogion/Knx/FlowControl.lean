import Mabinogion.Knx.FilterChain
import Mabinogion.Knx.QueueBound

/-!
# When the filter chain holds frames back

A channel is held while its flag is set. The flag is moved by the calls that set and
clear it and by no other call of the chain; a frame for a held channel does not pass.
-/

namespace Mabinogion.Knx

open KeyedTable QueueFilter ChannelQueueState

namespace ChannelQueueState

variable (state : ChannelQueueState) (maxCount : Nat)

theorem waitingForAck_setQueue (frames : List FrameEnvelope) (priority : QueuePriority) :
    (state.setQueue frames priority).waitingForAck = state.waitingForAck := by
  cases priority <;> rfl

theorem waitingForAck_evictLowest {state evicted : ChannelQueueState} {victim : QueuePriority}
    (eviction : state.evictLowest = some (victim, evicted)) :
    evicted.waitingForAck = state.waitingForAck := by
  rw [evictLowest] at eviction
  split at eviction
  · rw [← (Prod.mk.inj (Option.some.inj eviction)).2]
  · split at eviction
    · rw [← (Prod.mk.inj (Option.some.inj eviction)).2]
    · cases eviction

theorem waitingForAck_drain : (state.drain maxCount).2.waitingForAck = state.waitingForAck := by
  simp only [drain, drainQueue, waitingForAck_setQueue]

theorem length_drainQueue (priority : QueuePriority)
    (drained : List FrameEnvelope × ChannelQueueState) :
    (drainQueue maxCount priority drained).1.length +
        (drainQueue maxCount priority drained).2.totalQueued =
      drained.1.length + drained.2.totalQueued := by
  cases priority <;>
    simp only [drainQueue, queue, setQueue, totalQueued, List.length_append, List.length_take,
      List.length_drop] <;> omega

theorem length_drain :
    (state.drain maxCount).1.length + (state.drain maxCount).2.totalQueued = state.totalQueued := by
  rw [drain, length_drainQueue, length_drainQueue, length_drainQueue]
  exact Nat.zero_add _

end ChannelQueueState

namespace QueueFilter

def holds (filter : QueueFilter) (channelId : UInt8) : Bool :=
  (filter.channel channelId).waitingForAck

structure Controls (filter : QueueFilter) : Prop where
  enabled : filter.config.enabled = true
  backpressure : filter.config.backpressureEnabled = true

section

variable (filter : QueueFilter) (channelId other : UInt8)

theorem channel_setChannel (state : ChannelQueueState) :
    (filter.setChannel channelId state).channel other =
      if other = channelId then state else filter.channel other := by
  rw [channel, setChannel, lookup_insert_eq]
  split_ifs <;> rfl

theorem holds_setChannel {state : ChannelQueueState}
    (same : state.waitingForAck = filter.holds channelId) :
    (filter.setChannel channelId state).holds other = filter.holds other := by
  rw [holds, channel_setChannel]
  split_ifs with isChannel
  · rw [same, isChannel]
  · rfl

variable (envelope : FrameEnvelope)

theorem holds_pushFrame {state : ChannelQueueState}
    (same : state.waitingForAck = filter.holds envelope.channelId) (totalPending : Nat) :
    (filter.pushFrame state envelope totalPending).2.holds other = filter.holds other := by
  rw [pushFrame]
  split_ifs
  · exact holds_setChannel filter envelope.channelId other same
  · apply holds_setChannel filter envelope.channelId other
    rw [waitingForAck_setQueue, same]

theorem holds_enqueueFrame (totalPending : Nat) :
    (filter.enqueueFrame (filter.channel envelope.channelId) envelope totalPending).2.holds other =
      filter.holds other := by
  simp only [enqueueFrame]
  split_ifs
  · cases evicted : (filter.channel envelope.channelId).evictLowest with
    | none => exact holds_setChannel filter envelope.channelId other rfl
    | some eviction =>
      rcases eviction with ⟨victim, state⟩
      let stats :=
        { filter.stats with evictedFrames := filter.stats.evictedFrames + 1 }
      exact @holds_pushFrame { filter with stats } other envelope state
        (waitingForAck_evictLowest evicted) totalPending
  · exact holds_setChannel filter envelope.channelId other rfl
  · exact holds_pushFrame filter other envelope rfl totalPending

theorem holds_processSend : (filter.processSend envelope).2.2.holds other = filter.holds other := by
  simp only [processSend]
  split_ifs
  · rfl
  · exact holds_enqueueFrame _ other { envelope with priority := _ } _
  · exact holds_setChannel filter envelope.channelId other rfl
  · rfl

/-- The total has reached its limit, if there is one. -/
def Exhausted (totalPending : Nat) : Prop :=
  0 < filter.config.maxTotalFrames ∧ filter.config.maxTotalFrames ≤ totalPending

/-- Queued, or dropped because there is no room. -/
def HeldBack (result : FilterResult) (full : Prop) : Prop :=
  result = .queued ∨ (∃ reason, result = .dropped reason) ∧ full

theorem pushFrame_heldBack (state : ChannelQueueState) (totalPending : Nat) :
    HeldBack (filter.pushFrame state envelope totalPending).1 (filter.Exhausted totalPending) := by
  rw [pushFrame]
  split_ifs with exhausted
  · exact .inr ⟨⟨_, rfl⟩, exhausted⟩
  · exact .inl rfl

theorem enqueueFrame_heldBack (state : ChannelQueueState) (totalPending : Nat) :
    HeldBack (filter.enqueueFrame state envelope totalPending).1
      (filter.config.maxQueueDepth ≤ (state.queue envelope.priority).length ∨
        filter.Exhausted totalPending) := by
  simp only [enqueueFrame]
  split_ifs with deep
  · cases state.evictLowest with
    | none => exact .inr ⟨⟨_, rfl⟩, .inl deep⟩
    | some => exact (pushFrame_heldBack _ _ _ _).imp_right (And.imp_right .inr)
  · exact .inr ⟨⟨_, rfl⟩, .inl deep⟩
  · exact (pushFrame_heldBack _ _ _ _).imp_right (And.imp_right .inr)

/-- The queue of the frame's priority is as deep as it may be, or the total has reached its limit. -/
def Full : Prop :=
  filter.config.maxQueueDepth ≤ ((filter.channel envelope.channelId).queue
    (.classify envelope.cemi.messageCode)).length ∨ filter.Exhausted filter.totalPending

variable {filter} in
theorem Controls.held (controls : filter.Controls) (held : filter.holds envelope.channelId = true) :
    HeldBack (filter.processSend envelope).1 (filter.Full envelope) := by
  rw [holds] at held
  simp only [processSend, controls.enabled, controls.backpressure, Bool.not_true,
    Bool.false_eq_true, if_false, if_true, channel_withStats, held]
  exact enqueueFrame_heldBack _ _ _ _

variable {filter} in
theorem Controls.setWaitingForAck (controls : filter.Controls) (waiting : Bool) :
    (filter.setWaitingForAck channelId waiting).holds other =
      if other = channelId then waiting else filter.holds other := by
  have on : (!filter.config.enabled || !filter.config.backpressureEnabled) = false := by
    rw [controls.enabled, controls.backpressure]
    rfl
  rw [QueueFilter.setWaitingForAck, on, holds, if_neg Bool.false_ne_true, channel_setChannel]
  split_ifs <;> rfl

variable {filter} in
theorem Controls.onAckReceived (controls : filter.Controls) :
    (filter.onAckReceived channelId).holds other =
      if other = channelId then false else filter.holds other := by
  have on : (!filter.config.enabled) = false := by
    rw [controls.enabled]
    rfl
  rw [QueueFilter.onAckReceived, on, if_neg Bool.false_ne_true]
  cases found : filter.channels.lookup channelId with
  | some =>
    rw [holds, channel_setChannel]
    split_ifs <;> rfl
  | none =>
    split_ifs with same
    · rw [holds, channel, same, found]
      rfl
    · rfl

theorem totalQueued_onAckReceived : ((filter.onAckReceived channelId).channel other).totalQueued =
      (filter.channel other).totalQueued := by
  rw [onAckReceived]
  split_ifs
  · rfl
  · cases found : filter.channels.lookup channelId with
    | none => rfl
    | some =>
      rw [channel_setChannel]
      split_ifs with same
      · rw [same, channel, found]
        rfl
      · rfl

theorem holds_drain (maxCount : Nat) :
    (filter.drain channelId maxCount).2.holds other = filter.holds other := by
  rw [drain]
  split_ifs
  · rfl
  · cases found : filter.channels.lookup channelId with
    | none => rfl
    | some =>
      apply holds_setChannel filter channelId other
      rw [waitingForAck_drain, holds, channel, found]
      rfl

theorem length_drain_le (maxCount : Nat) :
    (filter.drain channelId maxCount).1.length ≤ (filter.channel channelId).totalQueued := by
  rw [drain]
  split_ifs
  · exact Nat.zero_le _
  · cases found : filter.channels.lookup channelId with
    | none => exact Nat.zero_le _
    | some state =>
      have moved := state.length_drain maxCount
      rw [channel, found]
      exact Nat.le_of_add_right_le moved.le

end

end QueueFilter

namespace FilterChain

def holds (chain : FilterChain) (channelId : UInt8) : Bool := chain.queueFilter.holds channelId

structure Controls (chain : FilterChain) : Prop where
  enabled : chain.enabled = true
  queue : chain.queueFilter.Controls

/-- The configuration stays, and the flags of all channels but one. -/
structure AgreesOff (channelId : UInt8) (before after : FilterChain) : Prop where
  enabled : after.enabled = before.enabled
  config : after.queueFilter.config = before.queueFilter.config
  flags : ∀ other, other ≠ channelId → after.holds other = before.holds other

structure Untouched (before after : FilterChain) : Prop where
  enabled : after.enabled = before.enabled
  config : after.queueFilter.config = before.queueFilter.config
  flags : ∀ other, after.holds other = before.holds other

theorem Untouched.refl (chain : FilterChain) : Untouched chain chain :=
  ⟨rfl, rfl, fun _ => rfl⟩

theorem Untouched.agreesOff {before after : FilterChain} (untouched : Untouched before after)
    (channelId : UInt8) : AgreesOff channelId before after :=
  ⟨untouched.enabled, untouched.config, fun other _ => untouched.flags other⟩

theorem AgreesOff.controls {before after : FilterChain} {channelId : UInt8}
    (agrees : AgreesOff channelId before after) (controls : before.Controls) : after.Controls := by
  refine ⟨agrees.enabled.trans controls.enabled, ?_, ?_⟩
  · rw [agrees.config]
    exact controls.queue.enabled
  · rw [agrees.config]
    exact controls.queue.backpressure

section

variable (chain : FilterChain) (now : Nat)

theorem untouched_paceFilter (paceFilter : PaceFilter) :
    Untouched chain { chain with paceFilter } := ⟨rfl, rfl, fun _ => rfl⟩

theorem untouched_send (envelope : FrameEnvelope) :
    Untouched chain (chain.send now envelope).2.2 := by
  have config := config_processSend chain.queueFilter envelope
  have flags := fun other => holds_processSend chain.queueFilter other envelope
  rw [send]
  split_ifs
  · exact ⟨rfl, rfl, fun _ => rfl⟩
  · cases queued : chain.queueFilter.processSend envelope with
    | mk result rest =>
      rw [queued] at config flags
      cases result with
      | pass =>
        cases paced : chain.paceFilter.processSend now rest.1 with
        | mk result =>
          cases result <;> simp only [paced]
          case pass =>
            split
            · exact ⟨rfl, config, flags⟩
            · exact ⟨rfl, config, flags⟩
          all_goals exact ⟨rfl, config, flags⟩
      | _ => exact ⟨rfl, config, flags⟩

theorem untouched_onSendFailure : Untouched chain (chain.onSendFailure now) := by
  rw [onSendFailure]
  split_ifs <;> exact ⟨rfl, rfl, fun _ => rfl⟩

variable (channelId : UInt8) (maxCount : Nat)

theorem untouched_drainPending : Untouched chain (chain.drainPending channelId maxCount).2 := by
  rw [drainPending]
  split_ifs
  · exact ⟨rfl, rfl, fun _ => rfl⟩
  · exact ⟨rfl, config_step chain.queueFilter (.drain channelId maxCount),
      fun other => holds_drain chain.queueFilter channelId other maxCount⟩

theorem length_drainPending_le : (chain.drainPending channelId maxCount).1.length ≤
      (chain.queueFilter.channel channelId).totalQueued := by
  rw [drainPending]
  split_ifs
  · exact Nat.zero_le _
  · exact length_drain_le chain.queueFilter channelId maxCount

variable {chain}

/-- A frame for a held channel is queued, or dropped where the queues are full. -/
theorem Controls.send_held (controls : chain.Controls) {envelope : FrameEnvelope}
    (held : chain.holds envelope.channelId = true) :
    HeldBack (chain.send now envelope).1 (chain.queueFilter.Full envelope) := by
  have kept := controls.queue.held envelope held
  rw [send, controls.enabled, Bool.not_true, if_neg Bool.false_ne_true]
  cases queued : chain.queueFilter.processSend envelope with
  | mk result =>
    rw [queued] at kept
    cases result with
    | pass => rcases kept with queued | ⟨⟨_, dropped⟩, _⟩ <;> contradiction
    | queued | dropped | error => exact kept

theorem Controls.agreesOff_setWaitingForAck (controls : chain.Controls) (channelId : UInt8)
    (waiting : Bool) :
    AgreesOff channelId chain
      { chain with queueFilter := chain.queueFilter.setWaitingForAck channelId waiting } := by
  constructor
  · rfl
  · exact config_step chain.queueFilter (.setWaitingForAck channelId waiting)
  · intro other differs
    have flag := controls.queue.setWaitingForAck channelId other waiting
    rw [if_neg differs] at flag
    exact flag

theorem Controls.agreesOff_onSendSuccess (controls : chain.Controls) (channelId : UInt8) :
    AgreesOff channelId chain (chain.onSendSuccess now channelId) := by
  rw [onSendSuccess, controls.enabled, Bool.not_true, if_neg Bool.false_ne_true]
  constructor
  · exact controls.enabled.symm
  · exact config_step chain.queueFilter (.onAckReceived channelId)
  · intro other differs
    have flag := controls.queue.onAckReceived channelId other
    rw [if_neg differs] at flag
    exact flag

theorem agreesOff_clearChannel : AgreesOff channelId chain
      { chain with queueFilter := chain.queueFilter.clearChannel channelId } := by
  constructor
  · rfl
  · rfl
  · intro other differs
    have same : (chain.queueFilter.clearChannel channelId).channel other =
        chain.queueFilter.channel other := by
      rw [channel, clearChannel, lookup_erase_eq, if_neg differs]
      rfl
    show ((chain.queueFilter.clearChannel channelId).channel other).waitingForAck = _
    rw [same]
    rfl

theorem totalQueued_onSendSuccess (channelId other : UInt8) :
    ((chain.onSendSuccess now channelId).queueFilter.channel other).totalQueued =
      (chain.queueFilter.channel other).totalQueued := by
  rw [onSendSuccess]
  split_ifs
  · rfl
  · exact totalQueued_onAckReceived chain.queueFilter channelId other

end

end FilterChain

end Mabinogion.Knx
