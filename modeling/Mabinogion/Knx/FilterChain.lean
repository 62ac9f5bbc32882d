import Mabinogion.Knx.QueueFilter

/-!
# The filter chain

A frame on its way to a client passes the queue filter, the pace filter, which spaces
the frames as a bus of limited speed would, and the retry filter, a circuit breaker.
Times are nanoseconds.
-/

namespace Mabinogion.Knx

def nanosPerMilli : Nat := 1000000

def nanosPerMicro : Nat := 1000

inductive PaceState where
  | down
  | busy (busyUntil : Nat)
  | idle (idleUntil : Nat)
deriving DecidableEq

structure PaceFilterConfig where
  enabled : Bool
  marginMs : Nat
  byteTimeOverrideUs : Nat
  maxDelayMs : Nat
  autoTransition : Bool
deriving DecidableEq

namespace PaceFilterConfig

def default : PaceFilterConfig where
  enabled := true
  marginMs := 50
  byteTimeOverrideUs := 0
  maxDelayMs := 5000
  autoTransition := true

/-- Eleven bits at 9600 baud, in whole microseconds. -/
def knxTp1ByteTimeUs : Nat := 1000000 * 11 / 9600

variable (config : PaceFilterConfig)

def byteTimeUs : Nat :=
  if config.byteTimeOverrideUs > 0 then config.byteTimeOverrideUs else knxTp1ByteTimeUs

def margin : Nat := config.marginMs * nanosPerMilli

def maxDelay : Nat := config.maxDelayMs * nanosPerMilli

/-- The product is a `u64`, as a release build takes it. -/
def frameTime (frameSizeBytes : Nat) : Nat :=
  config.byteTimeUs * frameSizeBytes % 2 ^ 64 * nanosPerMicro

end PaceFilterConfig

structure PaceFilter where
  config : PaceFilterConfig
  state : PaceState
deriving DecidableEq

namespace PaceFilter

def new (config : PaceFilterConfig) : PaceFilter := ⟨config, .down⟩

variable (filter : PaceFilter)

/-- `state()`, which makes at most one transition. -/
def currentState (now : Nat) : PaceState × PaceFilter :=
  let moveTo (state : PaceState) : PaceState × PaceFilter := (state, { filter with state })
  if filter.config.autoTransition then
    match filter.state with
    | .busy busyUntil =>
      if now ≥ busyUntil then moveTo (.idle (busyUntil + filter.config.margin))
      else (filter.state, filter)
    | .idle idleUntil => if now ≥ idleUntil then moveTo .down else (filter.state, filter)
    | .down => (filter.state, filter)
  else (filter.state, filter)

/-- The state with the periods that are over taken out. -/
def elapse (config : PaceFilterConfig) (now : Nat) : PaceState → PaceState
  | .down => .down
  | .busy busyUntil =>
    if now ≥ busyUntil then
      let idleUntil := busyUntil + config.margin
      if now ≥ idleUntil then .down else .idle idleUntil
    else .busy busyUntil
  | .idle idleUntil => if now ≥ idleUntil then .down else .idle idleUntil

def processSend (now : Nat) (envelope : FrameEnvelope) : FilterResult × PaceFilter :=
  if !filter.config.enabled then (.pass 0, filter)
  else
    let config := filter.config
    let frameTime := config.frameTime envelope.frameSizeBytes
    let exceeds (what : String) (delay : Nat) : FilterResult :=
      .dropped ("PaceFilter: " ++ what ++ toString (delay / nanosPerMilli) ++
        "ms exceeds max_delay_ms " ++ toString config.maxDelayMs)
    let filter := { filter with state := elapse config now filter.state }
    match filter.state with
    | .down => (.pass 0, { filter with state := .busy (now + frameTime) })
    | .busy busyUntil =>
      let delay := (busyUntil - now) + config.margin
      if config.maxDelayMs > 0 ∧ delay > config.maxDelay then (exceeds "delay " delay, filter)
      else (.pass delay, { filter with state := .busy (busyUntil + config.margin + frameTime) })
    | .idle idleUntil =>
      let delay := idleUntil - now
      if config.maxDelayMs > 0 ∧ delay > config.maxDelay then
        (exceeds "idle delay " delay, filter)
      else (.pass delay, { filter with state := .busy (idleUntil + frameTime) })

def onFrameCompleted (now : Nat) : PaceFilter :=
  if !filter.config.enabled then filter
  else
    match filter.state with
    | .busy busyUntil =>
      if now ≥ busyUntil then { filter with state := .idle (now + filter.config.margin) }
      else filter
    | _ => filter

end PaceFilter

inductive CircuitBreakerState where
  | closed
  | open (openedAt : Nat)
  | halfOpen
deriving DecidableEq

structure RetryFilterConfig where
  enabled : Bool
  retryDelayMs : Nat
  exponentialBackoff : Bool
  maxRetryDelayMs : Nat
  failureThreshold : Nat
  recoveryTimeoutMs : Nat
  successThreshold : Nat

def RetryFilterConfig.default : RetryFilterConfig where
  enabled := true
  retryDelayMs := 100
  exponentialBackoff := true
  maxRetryDelayMs := 5000
  failureThreshold := 5
  recoveryTimeoutMs := 10000
  successThreshold := 1

/-- The product saturates in the source, at a bound that the maximum cannot exceed. -/
def RetryFilterConfig.retryDelay (config : RetryFilterConfig) (attempt : Nat) : Nat :=
  let delay :=
    if config.exponentialBackoff then config.retryDelayMs * 2 ^ min attempt 10
    else config.retryDelayMs
  min delay config.maxRetryDelayMs * nanosPerMilli

structure RetryFilter where
  config : RetryFilterConfig
  state : CircuitBreakerState
  failureCount : Nat
  successCount : Nat

namespace RetryFilter

def new (config : RetryFilterConfig) : RetryFilter := ⟨config, .closed, 0, 0⟩

variable (filter : RetryFilter)

/-- An open circuit is half open once the recovery time is over. -/
def circuitState (now : Nat) : CircuitBreakerState × RetryFilter :=
  match filter.state with
  | .open openedAt =>
    if now - openedAt ≥ filter.config.recoveryTimeoutMs * nanosPerMilli then
      (.halfOpen, { filter with state := .halfOpen, successCount := 0 })
    else (filter.state, filter)
  | state => (state, filter)

def processSend (now : Nat) (envelope : FrameEnvelope) : FilterResult × RetryFilter :=
  if !filter.config.enabled then (.pass 0, filter)
  else
    match filter.circuitState now with
    | (.closed, filter) =>
      let delay :=
        if envelope.retryCount > 0 then filter.config.retryDelay (envelope.retryCount.toNat - 1)
        else 0
      (.pass delay, filter)
    | (.open _, filter) =>
      (.dropped ("CircuitBreaker: circuit is Open (failures >= " ++
        toString filter.config.failureThreshold ++ ")"), filter)
    | (.halfOpen, filter) => (.pass 0, filter)

def onSuccess : RetryFilter :=
  if !filter.config.enabled then filter
  else
    match filter.state with
    | .closed => { filter with failureCount := 0 }
    | .halfOpen =>
      let successCount := filter.successCount + 1
      if successCount ≥ filter.config.successThreshold then
        { filter with state := .closed, failureCount := 0, successCount := 0 }
      else { filter with successCount }
    | .open _ => filter

def onFailure (now : Nat) : RetryFilter :=
  if !filter.config.enabled then filter
  else
    match filter.state with
    | .closed =>
      let failureCount := filter.failureCount + 1
      if failureCount ≥ filter.config.failureThreshold then
        { filter with state := .open now, failureCount }
      else { filter with failureCount }
    | .halfOpen => { filter with state := .open now, successCount := 0 }
    | .open _ => { filter with failureCount := filter.failureCount + 1 }

end RetryFilter

structure FilterChainConfig where
  enabled : Bool
  pace : PaceFilterConfig
  queue : QueueFilterConfig
  retry : RetryFilterConfig

def FilterChainConfig.default : FilterChainConfig where
  enabled := false
  pace := .default
  queue := .default
  retry := .default

structure FilterChain where
  enabled : Bool
  queueFilter : QueueFilter
  paceFilter : PaceFilter
  retryFilter : RetryFilter

namespace FilterChain

def new (config : FilterChainConfig) : FilterChain :=
  ⟨config.enabled, .new config.queue, .new config.pace, .new config.retry⟩

variable (chain : FilterChain)

/-- The stages in turn, each only where the one before lets the frame pass. -/
def send (now : Nat) (envelope : FrameEnvelope) : FilterResult × FrameEnvelope × FilterChain :=
  if !chain.enabled then (.pass 0, envelope, chain)
  else
    match chain.queueFilter.processSend envelope with
    | (.pass _, envelope, queueFilter) =>
      let chain := { chain with queueFilter }
      match chain.paceFilter.processSend now envelope with
      | (.pass paceDelay, paceFilter) =>
        let chain := { chain with paceFilter }
        let envelope :=
          { envelope with accumulatedDelay := envelope.accumulatedDelay + paceDelay }
        match chain.retryFilter.processSend now envelope with
        | (.pass retryDelay, retryFilter) =>
          let accumulatedDelay := envelope.accumulatedDelay + retryDelay
          (.pass accumulatedDelay, { envelope with accumulatedDelay }, { chain with retryFilter })
        | (refused, retryFilter) => (refused, envelope, { chain with retryFilter })
      | (refused, paceFilter) => (refused, envelope, { chain with paceFilter })
    | (refused, envelope, queueFilter) => (refused, envelope, { chain with queueFilter })

def onSendSuccess (now : Nat) (channelId : UInt8) : FilterChain :=
  if !chain.enabled then chain
  else { chain with
    retryFilter := chain.retryFilter.onSuccess
    paceFilter := chain.paceFilter.onFrameCompleted now
    queueFilter := chain.queueFilter.onAckReceived channelId }

/-- The queue filter only notes a send error in its log. -/
def onSendFailure (now : Nat) : FilterChain :=
  if !chain.enabled then chain
  else { chain with retryFilter := chain.retryFilter.onFailure now }

def drainPending (channelId : UInt8) (maxCount : Nat) : List FrameEnvelope × FilterChain :=
  if !chain.enabled then ([], chain)
  else
    let (envelopes, queueFilter) := chain.queueFilter.drain channelId maxCount
    (envelopes, { chain with queueFilter })

end FilterChain

end Mabinogion.Knx
