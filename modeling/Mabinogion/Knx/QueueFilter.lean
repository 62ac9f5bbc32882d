import Mabinogion.Library.KeyedTable
import Mabinogion.Knx.Frame

/-!
# The queue filter

Frames are held back while a channel waits for an acknowledgement, in three queues per
channel. A full queue makes room by an eviction from the lowest queue that has a frame.
-/

namespace Mabinogion.Knx

open KeyedTable

inductive QueuePriority where
  | low | normal | high
deriving DecidableEq

namespace QueuePriority

def classify : MessageCode → QueuePriority
  | .lDataCon | .lDataReq | .mResetInd | .mResetReq => high
  | .lDataInd | .mPropReadReq | .mPropWriteReq | .mPropReadCon | .mPropWriteCon => normal
  | .lBusmonInd | .lRawReq | .lRawCon | .lRawInd => low

def display : QueuePriority → String
  | low => "Low" | normal => "Normal" | high => "High"

end QueuePriority

structure FrameEnvelope where
  cemi : CemiFrame
  channelId : UInt8
  targetAddr : SocketAddr
  priority : QueuePriority
  accumulatedDelay : Nat
  retryCount : UInt8
  frameSizeBytes : Nat
deriving DecidableEq

def FrameEnvelope.new (cemi : CemiFrame) (channelId : UInt8) (targetAddr : SocketAddr) :
    FrameEnvelope :=
  ⟨cemi, channelId, targetAddr, .normal, 0, 0, cemi.encode.length⟩

inductive FilterResult where
  | pass (delay : Nat)
  | queued
  | dropped (reason : String)
  | error (message : String)
deriving DecidableEq

def FilterResult.shouldContinue : FilterResult → Bool
  | pass _ => true
  | _ => false

structure ChannelQueueState where
  waitingForAck : Bool
  low : List FrameEnvelope
  normal : List FrameEnvelope
  high : List FrameEnvelope

namespace ChannelQueueState

def new : ChannelQueueState := ⟨false, [], [], []⟩

variable (state : ChannelQueueState)

def queue : QueuePriority → List FrameEnvelope
  | .low => state.low | .normal => state.normal | .high => state.high

def setQueue (frames : List FrameEnvelope) : QueuePriority → ChannelQueueState
  | .low => { state with low := frames }
  | .normal => { state with normal := frames }
  | .high => { state with high := frames }

def totalQueued : Nat :=
  state.low.length + state.normal.length + state.high.length

def drainQueue (maxCount : Nat) (priority : QueuePriority)
    (drained : List FrameEnvelope × ChannelQueueState) : List FrameEnvelope × ChannelQueueState :=
  let room := maxCount - drained.1.length
  let queue := drained.2.queue priority
  (drained.1 ++ queue.take room, drained.2.setQueue (queue.drop room) priority)

def drain (maxCount : Nat) : List FrameEnvelope × ChannelQueueState :=
  drainQueue maxCount .low (drainQueue maxCount .normal (drainQueue maxCount .high ([], state)))

/-- The oldest frame of the low queue, or else of the normal one. -/
def evictLowest : Option (QueuePriority × ChannelQueueState) :=
  match state.low with
  | _ :: low => some (.low, { state with low })
  | [] =>
    match state.normal with
    | _ :: normal => some (.normal, { state with normal })
    | [] => none

end ChannelQueueState

structure QueueFilterConfig where
  enabled : Bool
  maxQueueDepth : Nat
  backpressureEnabled : Bool
  priorityEvictionEnabled : Bool
  maxTotalFrames : Nat

def QueueFilterConfig.default : QueueFilterConfig where
  enabled := true
  maxQueueDepth := 64
  backpressureEnabled := true
  priorityEvictionEnabled := true
  maxTotalFrames := 1024

structure QueueFilterStats where
  directPass : Nat
  queuedFrames : Nat
  droppedFull : Nat
  evictedFrames : Nat
  drainedFrames : Nat
  highPriority : Nat
  normalPriority : Nat
  lowPriority : Nat

def QueueFilterStats.recordPriority (stats : QueueFilterStats) : QueuePriority → QueueFilterStats
  | .high => { stats with highPriority := stats.highPriority + 1 }
  | .normal => { stats with normalPriority := stats.normalPriority + 1 }
  | .low => { stats with lowPriority := stats.lowPriority + 1 }

structure QueueFilter where
  config : QueueFilterConfig
  channels : Table UInt8 ChannelQueueState
  stats : QueueFilterStats

namespace QueueFilter

def new (config : QueueFilterConfig) : QueueFilter := ⟨config, ∅, ⟨0, 0, 0, 0, 0, 0, 0, 0⟩⟩

variable (filter : QueueFilter)

def totalPending : Nat :=
  ((values filter.channels).map ChannelQueueState.totalQueued).sum

variable (channelId : UInt8)

def channel : ChannelQueueState :=
  (filter.channels.lookup channelId).getD .new

def setChannel (state : ChannelQueueState) : QueueFilter :=
  { filter with channels := filter.channels.insert channelId state }

def dropFull (reason : String) : FilterResult × QueueFilter :=
  (.dropped reason,
    { filter with stats := { filter.stats with droppedFull := filter.stats.droppedFull + 1 } })

variable (channelState : ChannelQueueState)

/-- The end of `enqueue_frame`, behind the check of the queue's depth. -/
def pushFrame (envelope : FrameEnvelope) (totalPending : Nat) : FilterResult × QueueFilter :=
  if filter.config.maxTotalFrames > 0 ∧ totalPending ≥ filter.config.maxTotalFrames then
    (filter.setChannel envelope.channelId channelState).dropFull
      ("QueueFilter: total frame limit reached (" ++ toString totalPending ++ " >= " ++
        toString filter.config.maxTotalFrames ++ ")")
  else
    (.queued, {
      filter.setChannel envelope.channelId
        (channelState.setQueue (channelState.queue envelope.priority ++ [envelope])
          envelope.priority) with
      stats := { filter.stats with queuedFrames := filter.stats.queuedFrames + 1 } })

def enqueueFrame (envelope : FrameEnvelope) (totalPending : Nat) : FilterResult × QueueFilter :=
  let priority := envelope.priority
  let full := "QueueFilter: " ++ priority.display ++ " queue full (" ++
    toString filter.config.maxQueueDepth ++ " frames)"
  if (channelState.queue priority).length ≥ filter.config.maxQueueDepth then
    if filter.config.priorityEvictionEnabled then
      match channelState.evictLowest with
      | some (_, channelState) =>
        let stats := { filter.stats with evictedFrames := filter.stats.evictedFrames + 1 }
        pushFrame { filter with stats } channelState envelope totalPending
      | none =>
        (filter.setChannel envelope.channelId channelState).dropFull
          (full ++ ", no lower priority to evict")
    else (filter.setChannel envelope.channelId channelState).dropFull full
  else pushFrame filter channelState envelope totalPending

def processSend (envelope : FrameEnvelope) : FilterResult × FrameEnvelope × QueueFilter :=
  if !filter.config.enabled then (.pass 0, envelope, filter)
  else
    let priority := QueuePriority.classify envelope.cemi.messageCode
    let envelope := { envelope with priority }
    let filter := { filter with stats := filter.stats.recordPriority priority }
    let direct (filter : QueueFilter) : FilterResult × FrameEnvelope × QueueFilter :=
      let stats := { filter.stats with directPass := filter.stats.directPass + 1 }
      (.pass 0, envelope, { filter with stats })
    if filter.config.backpressureEnabled then
      let channelState := filter.channel envelope.channelId
      if channelState.waitingForAck then
        let (result, filter) := filter.enqueueFrame channelState envelope filter.totalPending
        (result, envelope, filter)
      else direct (filter.setChannel envelope.channelId channelState)
    else direct filter

def setWaitingForAck (waiting : Bool) : QueueFilter :=
  if !filter.config.enabled || !filter.config.backpressureEnabled then filter
  else filter.setChannel channelId { filter.channel channelId with waitingForAck := waiting }

def onAckReceived : QueueFilter :=
  if !filter.config.enabled then filter
  else
    match filter.channels.lookup channelId with
    | some channelState => filter.setChannel channelId { channelState with waitingForAck := false }
    | none => filter

def drain (maxCount : Nat) : List FrameEnvelope × QueueFilter :=
  if !filter.config.enabled then ([], filter)
  else
    match filter.channels.lookup channelId with
    | some channelState =>
      let (drained, channelState) := channelState.drain maxCount
      let stats :=
        { filter.stats with drainedFrames := filter.stats.drainedFrames + drained.length }
      (drained, { filter.setChannel channelId channelState with stats })
    | none => ([], filter)

def clearChannel : QueueFilter :=
  { filter with channels := filter.channels.erase channelId }

inductive Call where
  | processSend (envelope : FrameEnvelope)
  | setWaitingForAck (channelId : UInt8) (waiting : Bool)
  | onAckReceived (channelId : UInt8)
  | drain (channelId : UInt8) (maxCount : Nat)
  | clearChannel (channelId : UInt8)

inductive Answer where
  | result (result : FilterResult)
  | drained (frames : List FrameEnvelope)
  | none

def step : Call → Answer × QueueFilter
  | .processSend envelope =>
    let (result, _, filter) := filter.processSend envelope
    (.result result, filter)
  | .setWaitingForAck channelId waiting => (.none, filter.setWaitingForAck channelId waiting)
  | .onAckReceived channelId => (.none, filter.onAckReceived channelId)
  | .drain channelId maxCount =>
    let (frames, filter) := filter.drain channelId maxCount
    (.drained frames, filter)
  | .clearChannel channelId => (.none, filter.clearChannel channelId)

end QueueFilter

end Mabinogion.Knx
