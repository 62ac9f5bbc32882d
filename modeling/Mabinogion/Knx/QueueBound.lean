import Mabinogion.Library.Transducer
import Mabinogion.Knx.QueueFilter

/-!
# How much the queue filter holds

The limit over all channels is never passed. The depth of one queue is: the room that an
eviction makes lies in the queue it evicts from, and the new frame goes to its own queue.
-/

namespace Mabinogion.Knx

open KeyedTable ChannelQueueState Transducer

namespace ChannelQueueState

def Shrinks (before after : ChannelQueueState) : Prop :=
  ∀ priority, (after.queue priority).length ≤ (before.queue priority).length

variable (state : ChannelQueueState) (maxCount : Nat) (priority : QueuePriority)

theorem Shrinks.refl : Shrinks state state :=
  fun _ => le_rfl

theorem Shrinks.trans {first second third : ChannelQueueState} (left : Shrinks first second)
    (right : Shrinks second third) : Shrinks first third :=
  fun priority => (right priority).trans (left priority)

theorem Shrinks.totalQueued_le {before after : ChannelQueueState} (shrinks : Shrinks before after) :
    after.totalQueued ≤ before.totalQueued := by
  have low := shrinks .low
  have normal := shrinks .normal
  have high := shrinks .high
  simp only [queue] at low normal high
  simp only [totalQueued]
  omega

theorem queue_setQueue (frames : List FrameEnvelope) (priority other : QueuePriority) :
    (state.setQueue frames priority).queue other = if other =
      priority then frames else state.queue other := by
  cases priority <;> cases other <;> rfl

theorem shrinks_drainQueue (drained : List FrameEnvelope × ChannelQueueState) :
    Shrinks drained.2 (drainQueue maxCount priority drained).2 := by
  intro other
  rw [drainQueue]
  simp only [queue_setQueue]
  split_ifs with same
  · rw [same, List.length_drop]
    exact Nat.sub_le _ _
  · exact le_rfl

theorem shrinks_drain : Shrinks state (state.drain maxCount).2 :=
  ((shrinks_drainQueue maxCount .high ([], state)).trans (shrinks_drainQueue maxCount .normal _)).trans
    (shrinks_drainQueue maxCount .low _)

variable {state evicted : ChannelQueueState}

theorem evictLowest_queue {victim : QueuePriority}
    (eviction : state.evictLowest = some (victim, evicted)) (priority : QueuePriority) :
    (evicted.queue priority).length + (if priority = victim then 1 else 0) =
      (state.queue priority).length := by
  cases lows : state.low with
  | cons =>
    simp only [evictLowest, lows, Option.some.injEq, Prod.mk.injEq] at eviction
    rw [← eviction.1, ← eviction.2]
    cases priority <;> simp [queue, lows]
  | nil =>
    cases normals : state.normal with
    | cons =>
      simp only [evictLowest, lows, normals, Option.some.injEq, Prod.mk.injEq] at eviction
      rw [← eviction.1, ← eviction.2]
      cases priority <;> simp [queue, lows, normals]
    | nil => simp [evictLowest, lows, normals] at eviction

theorem Shrinks.of_evictLowest {victim : QueuePriority}
    (eviction : state.evictLowest = some (victim, evicted)) : Shrinks state evicted := by
  intro priority
  have sizes := evictLowest_queue eviction priority
  omega

/-- The lowest queue with a frame in it is another one than the frame's own. -/
def EvictsOther (state : ChannelQueueState) (priority : QueuePriority) : Prop :=
  (state.low ≠ [] ∧ priority ≠ .low) ∨ (state.low = [] ∧ state.normal ≠ [] ∧ priority ≠ .normal)

theorem evictsOther_iff : state.EvictsOther priority ↔
      ∃ victim evicted, state.evictLowest = some (victim, evicted) ∧ priority ≠ victim := by
  cases lows : state.low with
  | cons => simp [EvictsOther, evictLowest, lows]
  | nil =>
    cases normals : state.normal with
    | cons | nil => simp [EvictsOther, evictLowest, lows, normals]

end ChannelQueueState

variable {config : QueueFilterConfig}

namespace QueueFilter

open ChannelQueueState (Shrinks EvictsOther evictsOther_iff)

structure Bounded (config : QueueFilterConfig) (filter : QueueFilter) : Prop where
  depth : ∀ channelId state, filter.channels.lookup channelId = some state →
    ∀ priority, (state.queue priority).length ≤ config.maxQueueDepth
  total : 0 < config.maxTotalFrames → filter.totalPending ≤ config.maxTotalFrames

variable {filter : QueueFilter}

theorem Bounded.channel (bounded : Bounded config filter) (channelId : UInt8)
    (priority : QueuePriority) :
    ((filter.channel channelId).queue priority).length ≤ config.maxQueueDepth := by
  rw [QueueFilter.channel]
  cases found : filter.channels.lookup channelId with
  | some state => exact bounded.depth channelId state found priority
  | none => cases priority <;> exact Nat.zero_le _

theorem bounded_new (config : QueueFilterConfig) : Bounded config (new config) := by
  constructor
  · intro channelId state found
    cases found
  · intro _
    exact Nat.zero_le _

theorem totalPending_setChannel (filter : QueueFilter) (channelId : UInt8)
    (state : ChannelQueueState) :
    (filter.setChannel channelId state).totalPending + (filter.channel channelId).totalQueued =
      filter.totalPending + state.totalQueued := by
  have sums := sum_insert totalQueued channelId state filter.channels
  rw [← totalPending] at sums
  rw [← sums, channel]
  cases filter.channels.lookup channelId <;> rfl

variable {state : ChannelQueueState} {channelId : UInt8}

theorem bounded_setChannel_iff (bounded : Bounded config filter)
    (total : 0 < config.maxTotalFrames →
      (filter.setChannel channelId state).totalPending ≤ config.maxTotalFrames) :
    Bounded config (filter.setChannel channelId state) ↔
      ∀ priority, (state.queue priority).length ≤ config.maxQueueDepth := by
  constructor
  · intro after
    exact after.depth channelId state (AList.lookup_insert _)
  · intro within
    constructor
    · intro other found listed
      rw [setChannel, lookup_insert_eq] at listed
      split at listed
      · rw [← Option.some.inj listed]
        exact within
      · exact bounded.depth other found listed
    · exact total

theorem Bounded.shrink (bounded : Bounded config filter)
    (shrinks : Shrinks (filter.channel channelId) state) :
    Bounded config (filter.setChannel channelId state) := by
  have sums := totalPending_setChannel filter channelId state
  have fewer := shrinks.totalQueued_le
  have total (limited : 0 < config.maxTotalFrames) :
      (filter.setChannel channelId state).totalPending ≤ config.maxTotalFrames := by
    have before := bounded.total limited
    omega
  rw [bounded_setChannel_iff bounded total]
  intro priority
  exact (shrinks priority).trans (bounded.channel channelId priority)

theorem Bounded.withStats (stats : QueueFilterStats) :
    Bounded config { filter with stats } ↔ Bounded config filter := by
  constructor
  · intro bounded
    exact ⟨bounded.depth, bounded.total⟩
  · intro bounded
    exact ⟨bounded.depth, bounded.total⟩

theorem bounded_push_iff (bounded : Bounded config filter)
    (shrinks : Shrinks (filter.channel channelId) state) (envelope : FrameEnvelope)
    (priority : QueuePriority)
    (room : ¬(config.maxTotalFrames > 0 ∧ filter.totalPending ≥ config.maxTotalFrames)) :
    Bounded config (filter.setChannel channelId
        (state.setQueue (state.queue priority ++ [envelope]) priority)) ↔
      (state.queue priority).length < config.maxQueueDepth := by
  have sums := totalPending_setChannel filter channelId
    (state.setQueue (state.queue priority ++ [envelope]) priority)
  have pushed : (state.setQueue (state.queue priority ++ [envelope]) priority).totalQueued =
      state.totalQueued + 1 := by
    cases priority <;>
      simp only [totalQueued, setQueue, queue, List.length_append, List.length_singleton] <;> omega
  have fewer := shrinks.totalQueued_le
  have total (limited : 0 < config.maxTotalFrames) : (filter.setChannel channelId
        (state.setQueue (state.queue priority ++ [envelope]) priority)).totalPending ≤
          config.maxTotalFrames := by
    omega
  rw [bounded_setChannel_iff bounded total]
  constructor
  · intro within
    have own := within priority
    rw [queue_setQueue, if_pos rfl, List.length_append, List.length_singleton] at own
    exact own
  · intro less other
    rw [queue_setQueue]
    split_ifs with same
    · rw [List.length_append, List.length_singleton]
      exact less
    · exact (shrinks other).trans (bounded.channel channelId other)

section

variable {filter : QueueFilter} {envelope : FrameEnvelope}

theorem bounded_pushFrame_iff (bounded : Bounded filter.config filter)
    (shrinks : Shrinks (filter.channel envelope.channelId) state) :
    Bounded filter.config (filter.pushFrame state envelope filter.totalPending).2 ↔
      ((filter.config.maxTotalFrames > 0 ∧ filter.totalPending ≥ filter.config.maxTotalFrames) ∨
        (state.queue envelope.priority).length < filter.config.maxQueueDepth) := by
  rw [pushFrame]
  split_ifs with limit
  · rw [dropFull, Bounded.withStats]
    exact iff_of_true (bounded.shrink shrinks) (Or.inl limit)
  · rw [Bounded.withStats, bounded_push_iff bounded shrinks envelope envelope.priority limit,
      or_iff_right limit]

theorem bounded_enqueueFrame_iff (bounded : Bounded filter.config filter) :
    Bounded filter.config (filter.enqueueFrame (filter.channel envelope.channelId) envelope
        filter.totalPending).2 ↔
      ¬(filter.config.maxQueueDepth ≤
            ((filter.channel envelope.channelId).queue envelope.priority).length ∧
          filter.config.priorityEvictionEnabled = true ∧
          (filter.channel envelope.channelId).EvictsOther envelope.priority ∧
          ¬(filter.config.maxTotalFrames > 0 ∧
            filter.totalPending ≥ filter.config.maxTotalFrames)) := by
  have unchanged := bounded.shrink (Shrinks.refl (filter.channel envelope.channelId))
  have within := bounded.channel envelope.channelId envelope.priority
  simp only [enqueueFrame, evictsOther_iff]
  split_ifs with full eviction
  · cases evicted : (filter.channel envelope.channelId).evictLowest with
    | none =>
      rw [dropFull, Bounded.withStats]
      apply iff_of_true unchanged
      intro overfills
      rcases overfills.2.2.1 with ⟨victim, state, some, _⟩
      cases some
    | some eviction =>
      rcases eviction with ⟨victim, state⟩
      have sizes := evictLowest_queue evicted envelope.priority
      let stats :=
        { filter.stats with evictedFrames := filter.stats.evictedFrames + 1 }
      have pushed := @bounded_pushFrame_iff state { filter with stats } envelope
        ((Bounded.withStats stats).mpr bounded) (Shrinks.of_evictLowest evicted)
      apply pushed.trans
      constructor
      · intro room overfills
        rcases overfills.2.2.1 with ⟨other, _, same, differs⟩
        rw [← (Prod.mk.inj (Option.some.inj same)).1] at differs
        rw [if_neg differs] at sizes
        rcases room with limit | less
        · exact overfills.2.2.2 limit
        · have stillFull := overfills.1
          change (state.queue envelope.priority).length < filter.config.maxQueueDepth at less
          omega
      · intro fits
        by_cases limit : filter.config.maxTotalFrames > 0 ∧
            filter.totalPending ≥ filter.config.maxTotalFrames
        · exact Or.inl limit
        -- The victim is of the frame's own queue, so there is room for one frame.
        · have own : envelope.priority = victim := by
            by_contra differs
            exact fits ⟨full, ‹_›, ⟨victim, state, rfl, differs⟩, limit⟩
          rw [if_pos own] at sizes
          apply Or.inr
          change (state.queue envelope.priority).length < filter.config.maxQueueDepth
          omega
  · rw [dropFull, Bounded.withStats]
    apply iff_of_true unchanged
    intro overfills
    exact eviction overfills.2.1
  · rw [bounded_pushFrame_iff bounded (Shrinks.refl _)]
    apply iff_of_true (Or.inr (Nat.lt_of_not_le full))
    intro overfills
    exact full overfills.1

end

section

variable (filter : QueueFilter)

/-- The queue of the frame is full, and the eviction takes a frame of another queue. -/
def OverfillsQueue (envelope : FrameEnvelope) : Prop :=
  let priority := QueuePriority.classify envelope.cemi.messageCode
  let state := filter.channel envelope.channelId
  filter.config.enabled = true ∧ filter.config.backpressureEnabled = true ∧
    state.waitingForAck = true ∧
    filter.config.maxQueueDepth ≤ (state.queue priority).length ∧
    filter.config.priorityEvictionEnabled = true ∧ state.EvictsOther priority ∧
    ¬(filter.config.maxTotalFrames > 0 ∧ filter.totalPending ≥ filter.config.maxTotalFrames)

def Overfills : Call → Prop
  | .processSend envelope => filter.OverfillsQueue envelope
  | _ => False

theorem channel_withStats (stats : QueueFilterStats) (channelId : UInt8) :
    channel { filter with stats } channelId = filter.channel channelId := rfl

end

section

variable (bounded : Bounded filter.config filter)

include bounded

theorem bounded_processSend_iff (envelope : FrameEnvelope) :
    Bounded filter.config (filter.processSend envelope).2.2 ↔ ¬filter.OverfillsQueue envelope := by
  have unchanged := bounded.shrink (Shrinks.refl (filter.channel envelope.channelId))
  let priority := QueuePriority.classify envelope.cemi.messageCode
  let stats := filter.stats.recordPriority priority
  have enqueued := @bounded_enqueueFrame_iff { filter with stats } { envelope with priority }
    ((Bounded.withStats stats).mpr bounded)
  simp only [processSend, OverfillsQueue, channel_withStats]
  by_cases enabled : filter.config.enabled = true
  · by_cases backpressure : filter.config.backpressureEnabled = true
    · by_cases waiting : (filter.channel envelope.channelId).waitingForAck = true
      · simp only [enabled, backpressure, waiting, Bool.not_true, Bool.false_eq_true, if_false,
          if_true, true_and]
        exact enqueued
      · simp only [enabled, backpressure, waiting, Bool.not_true, Bool.false_eq_true, if_false,
          if_true, false_and, and_false, not_false_iff, iff_true]
        exact ⟨unchanged.depth, unchanged.total⟩
    · simp only [enabled, backpressure, Bool.not_true, Bool.false_eq_true, if_false,
        false_and, and_false, not_false_iff, iff_true]
      exact ⟨bounded.depth, bounded.total⟩
  · simp only [enabled, Bool.not_false, if_true, Bool.false_eq_true, false_and, not_false_iff,
      iff_true]
    exact bounded

theorem bounded_setWaitingForAck (channelId : UInt8) (waiting : Bool) :
    Bounded filter.config (filter.setWaitingForAck channelId waiting) := by
  rw [setWaitingForAck]
  split_ifs with off
  · exact bounded
  · apply bounded.shrink
    intro priority
    cases priority <;> exact le_rfl

theorem bounded_onAckReceived (channelId : UInt8) :
    Bounded filter.config (filter.onAckReceived channelId) := by
  rw [onAckReceived]
  split_ifs with off
  · exact bounded
  · cases found : filter.channels.lookup channelId with
    | none => exact bounded
    | some =>
      apply bounded.shrink
      intro priority
      rw [channel, found]
      cases priority <;> exact le_rfl

theorem bounded_drain (channelId : UInt8) (maxCount : Nat) :
    Bounded filter.config (filter.drain channelId maxCount).2 := by
  rw [drain]
  split_ifs with off
  · exact bounded
  · cases found : filter.channels.lookup channelId with
    | none => exact bounded
    | some state =>
      have shrinks : Shrinks (filter.channel channelId) (state.drain maxCount).2 := by
        rw [channel, found]
        exact shrinks_drain state maxCount
      have drained := bounded.shrink shrinks
      exact ⟨drained.depth, drained.total⟩

theorem bounded_clearChannel (channelId : UInt8) :
    Bounded filter.config (filter.clearChannel channelId) := by
  constructor
  · intro other state found
    rw [clearChannel, lookup_erase_eq] at found
    split at found
    · cases found
    · exact bounded.depth other state found
  · intro limited
    have sums := sum_erase totalQueued channelId filter.channels
    have before := bounded.total limited
    simp only [totalPending, clearChannel] at before ⊢
    omega

end

section

variable (filter : QueueFilter)

theorem config_pushFrame (state : ChannelQueueState)
    (envelope : FrameEnvelope) (totalPending : Nat) :
    (filter.pushFrame state envelope totalPending).2.config = filter.config := by
  rw [pushFrame]
  split <;> rfl

theorem config_enqueueFrame (state : ChannelQueueState)
    (envelope : FrameEnvelope) (totalPending : Nat) :
    (filter.enqueueFrame state envelope totalPending).2.config = filter.config := by
  simp only [enqueueFrame]
  split_ifs
  · cases state.evictLowest with
    | none => rfl
    | some => exact config_pushFrame _ _ _ _
  · rfl
  · exact config_pushFrame _ _ _ _

theorem config_processSend (envelope : FrameEnvelope) :
    (filter.processSend envelope).2.2.config = filter.config := by
  simp only [processSend]
  split_ifs
  · rfl
  · exact config_enqueueFrame _ _ _ _
  · rfl
  · rfl

theorem config_step (call : Call) : (filter.step call).2.config = filter.config := by
  cases call with
  | processSend envelope => exact config_processSend filter envelope
  | setWaitingForAck =>
    simp only [step, setWaitingForAck]
    split_ifs <;> rfl
  | onAckReceived channelId =>
    simp only [step, onAckReceived]
    split_ifs
    · rfl
    · cases filter.channels.lookup channelId <;> rfl
  | drain channelId =>
    simp only [step, drain]
    split_ifs
    · rfl
    · cases filter.channels.lookup channelId <;> rfl
  | clearChannel => rfl

end

theorem bounded_step_iff (bounded : Bounded filter.config filter) (call : Call) :
    Bounded filter.config (filter.step call).2 ↔ ¬filter.Overfills call := by
  cases call with
  | processSend envelope => exact bounded_processSend_iff bounded envelope
  | setWaitingForAck channelId waiting =>
    exact iff_of_true (bounded_setWaitingForAck bounded channelId waiting) not_false
  | onAckReceived channelId =>
    exact iff_of_true (bounded_onAckReceived bounded channelId) not_false
  | drain channelId maxCount =>
    exact iff_of_true (bounded_drain bounded channelId maxCount) not_false
  | clearChannel channelId =>
    exact iff_of_true (bounded_clearChannel bounded channelId) not_false

/-- The limits are kept exactly if no frame of the run makes room for itself in another queue. -/
theorem queues_bounded_iff (config : QueueFilterConfig) (calls : List Call) :
    (∀ visited ∈ states step (new config) calls, Bounded config visited) ↔
      ∀ arrival ∈ arrivals step (new config) calls, ¬Overfills arrival.1 arrival.2 := by
  have preserved (filter : QueueFilter) (call : Call) (same : filter.config = config) :
      (filter.step call).2.config = config :=
    (config_step filter call).trans same
  have kept (filter : QueueFilter) (call : Call) (same : filter.config = config)
      (bounded : Bounded config filter) :
      Bounded config (filter.step call).2 ↔ ¬filter.Overfills call := by
    rw [← same] at bounded ⊢
    exact bounded_step_iff bounded call
  have run := states_hold_iff step preserved kept (new config) calls rfl
  rw [run]
  exact and_iff_right (bounded_new config)

/-- A bus monitor frame gives way to each request: with one frame per queue configured, the
queue of high priority holds four. -/
theorem four_requests_in_queue_of_one : let config : QueueFilterConfig := ⟨true, 1, true, true, 0⟩
    let send (code : MessageCode) : Call :=
      .processSend (.new (.raw code [] .group .low []) 1 ⟨⟨127, 0, 0, 1⟩, 3671⟩)
    let calls := [.setWaitingForAck 1 true, send .lDataReq, send .lBusmonInd, send .lDataReq,
      send .lBusmonInd, send .lDataReq, send .lBusmonInd, send .lDataReq]
    let queues := (final step (new config) calls).channels.lookup 1
    queues.map (fun state => (state.low.length, state.normal.length, state.high.length)) =
      some (0, 0, 4) := by
  decide

end QueueFilter

end Mabinogion.Knx
