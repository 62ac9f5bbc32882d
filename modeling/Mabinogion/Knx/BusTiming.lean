import Mathlib.Data.List.Chain
import Mabinogion.Knx.FlowControl

/-!
# Spacing on the bus

Runs of the pace filter: frames, completed transmissions and looks at its state. A frame that
passes starts when its delay is over. The chain asks the pace filter before the breaker, so a
frame that the breaker drops has taken its time on the bus.
-/

namespace Mabinogion.Knx

namespace PaceFilter

open Transducer

inductive Call where
  | processSend (envelope : FrameEnvelope)
  | onFrameCompleted
  | state

/-- The start and the frame time of each frame that passed, latest first. -/
structure Bus where
  filter : PaceFilter
  clock : Nat
  passed : List (Nat × Nat)

namespace Bus

def start (config : PaceFilterConfig) : Bus := ⟨.new config, 0, []⟩

def step (bus : Bus) (timed : Nat × Call) : Option FilterResult × Bus :=
  let now := bus.clock + timed.1
  match timed.2 with
  | .processSend envelope =>
    match bus.filter.processSend now envelope with
    | (.pass delay, filter) =>
      let frameTime := filter.config.frameTime envelope.frameSizeBytes
      (some (.pass delay), ⟨filter, now, (now + delay, frameTime) :: bus.passed⟩)
    | (refused, filter) => (some refused, ⟨filter, now, bus.passed⟩)
  | .onFrameCompleted => (none, ⟨bus.filter.onFrameCompleted now, now, bus.passed⟩)
  | .state => (none, ⟨(bus.filter.currentState now).2, now, bus.passed⟩)

/-- The later frame starts when the earlier one has ended and the margin is over. -/
def Apart (config : PaceFilterConfig) (later earlier : Nat × Nat) : Prop :=
  earlier.1 + earlier.2 + config.margin ≤ later.1

/-- A frame that is dropped now or later changes nothing. -/
def DropsFreely (bus : Bus) : Prop :=
  ∀ wait envelope reason, (bus.filter.processSend (bus.clock + wait) envelope).1 = .dropped reason →
    (bus.filter.processSend (bus.clock + wait) envelope).2 = bus.filter

end Bus

open Bus

def freeAt (config : PaceFilterConfig) (now : Nat) : PaceState → Nat
  | .down => now
  | .busy busyUntil => busyUntil + config.margin
  | .idle idleUntil => idleUntil

/-- None, a transmission, or a pause that is no longer than it was or than the margin. -/
theorem elapse_cases (config : PaceFilterConfig) (now : Nat) (state : PaceState) :
    elapse config now state = .down ∧ (state = .down ∨ freeAt config now state ≤ now) ∨
    (∃ busyUntil, now < busyUntil ∧ state = .busy busyUntil ∧ elapse config now state = state) ∨
    ∃ idleUntil, now < idleUntil ∧ elapse config now state = .idle idleUntil ∧
      freeAt config now state = idleUntil ∧
      (state = .idle idleUntil ∨ idleUntil ≤ now + config.margin) := by
  cases state with
  | down => exact .inl ⟨rfl, .inl rfl⟩
  | busy busyUntil =>
    simp only [elapse]
    split_ifs with ended past
    · exact .inl ⟨rfl, .inr past⟩
    · exact .inr (.inr ⟨_, Nat.lt_of_not_le past, rfl, rfl, .inr (Nat.add_le_add_right ended _)⟩)
    · exact .inr (.inl ⟨busyUntil, Nat.lt_of_not_le ended, rfl, rfl⟩)
  | idle idleUntil =>
    simp only [elapse]
    split_ifs with past
    · exact .inl ⟨rfl, .inr past⟩
    · exact .inr (.inr ⟨_, Nat.lt_of_not_le past, rfl, rfl, .inl rfl⟩)

/-- A frame starts as soon as the bus is free, or it would have to wait for too long. -/
theorem processSend_cases (filter : PaceFilter) (now : Nat) (envelope : FrameEnvelope)
    (enabled : filter.config.enabled = true) :
    let place := elapse filter.config now filter.state
    (∃ delay, now + delay = freeAt filter.config now place ∧
      (filter.config.maxDelayMs = 0 ∨ delay ≤ filter.config.maxDelay) ∧
      filter.processSend now envelope = (.pass delay, { filter with
        state := .busy (now + delay + filter.config.frameTime envelope.frameSizeBytes) })) ∨
    ∃ reason, filter.config.maxDelayMs > 0 ∧
      filter.config.maxDelay < freeAt filter.config now place - now ∧
      filter.processSend now envelope = (.dropped reason, { filter with state := place }) := by
  have on : (!filter.config.enabled) = false := by
    rw [enabled]
    rfl
  simp only [processSend, on, Bool.false_eq_true, if_false]
  rcases elapse_cases filter.config now filter.state with
    ⟨down, _⟩ | ⟨busyUntil, running, state, busy⟩ | ⟨idleUntil, paused, idle, _⟩
  · rw [down]
    exact .inl ⟨0, rfl, .inr (Nat.zero_le _), rfl⟩
  · rw [busy, state]
    simp only [freeAt]
    split_ifs with exceeds
    · exact .inr ⟨_, exceeds.1, by omega, rfl⟩
    · refine .inl ⟨busyUntil - now + filter.config.margin, by omega, by omega, ?_⟩
      congr 3
      omega
  · rw [idle]
    simp only [freeAt]
    split_ifs with exceeds
    · exact .inr ⟨_, exceeds.1, by omega, rfl⟩
    · refine .inl ⟨idleUntil - now, by omega, by omega, ?_⟩
      congr 3
      omega

variable {config : PaceFilterConfig} {now : Nat}

namespace Bus

variable {bus : Bus}

/-- The frames so far keep their distance, the next one will, and no pause is longer than the
margin. -/
structure Sound (config : PaceFilterConfig) (bus : Bus) : Prop where
  configured : bus.filter.config = config
  apart : bus.passed.IsChain (Apart config)
  clear : ∀ frame ∈ bus.passed.head?,
    frame.1 + frame.2 + config.margin ≤ freeAt config bus.clock bus.filter.state
  short : ∀ idleUntil, bus.filter.state = .idle idleUntil → idleUntil ≤ bus.clock + config.margin

theorem Sound.moved (sound : Sound config bus) {filter : PaceFilter}
    (configured : filter.config = config)
    (free : freeAt config bus.clock bus.filter.state ≤ freeAt config now filter.state)
    (short : ∀ idleUntil, filter.state = .idle idleUntil → idleUntil ≤ now + config.margin) :
    Sound config ⟨filter, now, bus.passed⟩ :=
  ⟨configured, sound.apart, fun frame first => (sound.clear frame first).trans free, short⟩

theorem Sound.waits (sound : Sound config bus) (passes : bus.clock ≤ now) :
    Sound config ⟨bus.filter, now, bus.passed⟩ := by
  apply sound.moved sound.configured
  · cases bus.filter.state with
    | down => exact passes
    | busy | idle => exact le_rfl
  · intro idleUntil paused
    have bound := sound.short idleUntil paused
    omega

theorem Sound.elapsed (sound : Sound config bus) (passes : bus.clock ≤ now) :
    Sound config ⟨⟨config, elapse config now bus.filter.state⟩, now, bus.passed⟩ := by
  have still := sound.waits passes
  rcases elapse_cases config now bus.filter.state with
    ⟨down, free⟩ | ⟨_, _, _, same⟩ | ⟨idleUntil, _, idle, free, bound⟩
  · apply still.moved rfl
    · rw [down]
      rcases free with state | past
      · rw [state]
      · exact past
    · rw [down]
      nofun
  · rw [same]
    exact still.moved rfl le_rfl still.short
  · rw [idle]
    apply still.moved rfl
    · exact free.le
    · intro other same
      cases same
      rcases bound with state | bound
      · exact still.short _ state
      · exact bound

theorem Sound.step (enabled : config.enabled = true) (sound : Sound config bus)
    (timed : Nat × Call) : Sound config (bus.step timed).2 := by
  obtain ⟨⟨own, state⟩, clock, passed⟩ := bus
  obtain ⟨wait, call⟩ := timed
  obtain rfl : own = config := sound.configured
  have passes : clock ≤ clock + wait := Nat.le_add_right clock wait
  have still := sound.waits passes
  have elapsed := sound.elapsed passes
  cases call with
  | processSend envelope =>
    rcases processSend_cases ⟨own, state⟩ (clock + wait) envelope enabled with
      ⟨delay, begins, _, sent⟩ | ⟨reason, _, _, sent⟩
    · simp only [step, sent]
      refine ⟨rfl, ?_, ?_, nofun⟩
      · apply sound.apart.cons
        intro frame first
        rw [Apart, begins]
        exact elapsed.clear frame first
      · intro frame first
        cases first
        exact le_rfl
    · simp only [step, sent]
      exact elapsed
  | onFrameCompleted =>
    simp only [step, onFrameCompleted]
    cases state with
    | down | idle => simpa only [ite_self] using still
    | busy busyUntil =>
      dsimp only
      split_ifs with off ended
      · exact still
      · apply sound.moved rfl
        · exact Nat.add_le_add_right ended _
        · intro idleUntil paused
          cases paused
          exact le_rfl
      · exact still
  | state =>
    simp only [step, currentState]
    cases state with
    | down => simpa only [ite_self] using still
    | busy busyUntil =>
      dsimp only
      split_ifs with _ ended
      · apply still.moved rfl
        · exact le_rfl
        · intro idleUntil paused
          cases paused
          exact Nat.add_le_add_right ended _
      · exact still
      · exact still
    | idle idleUntil =>
      dsimp only
      split_ifs with _ past
      · exact sound.moved rfl past nofun
      · exact still
      · exact still

theorem Sound.dropsFreely (enabled : config.enabled = true)
    (within : config.maxDelayMs = 0 ∨ config.marginMs ≤ config.maxDelayMs)
    (sound : Sound config bus) : bus.DropsFreely := by
  obtain ⟨⟨own, state⟩, clock, passed⟩ := bus
  obtain rfl : own = config := sound.configured
  intro wait envelope reason dropped
  have short := (sound.elapsed (Nat.le_add_right clock wait)).short
  rcases processSend_cases ⟨own, state⟩ (clock + wait) envelope enabled with
    ⟨delay, _, _, sent⟩ | ⟨_, limited, exceeds, sent⟩
  · rw [sent] at dropped
    cases dropped
  · have margin : own.margin ≤ own.maxDelay :=
      Nat.mul_le_mul_right _ (within.resolve_left (Nat.pos_iff_ne_zero.mp limited))
    rw [sent]
    -- Only while a frame is sent can the wait be longer than the margin.
    rcases elapse_cases own (clock + wait) state with
      ⟨down, _⟩ | ⟨_, _, _, same⟩ | ⟨idleUntil, _, idle, _⟩
    · simp only [down, freeAt, Nat.sub_self] at exceeds
      exact absurd exceeds (Nat.not_lt_zero _)
    · rw [same]
    · have bound : idleUntil ≤ clock + wait + own.margin := short idleUntil idle
      simp only [idle, freeAt] at exceeds
      omega

end Bus

/-- Frames that pass keep their distance, and dropped ones change nothing where a frame may wait for
as long as a pause takes. -/
theorem frames_keep_their_distance (enabled : config.enabled = true) (calls : List (Nat × Call)) :
    let bus := final step (.start config) calls
    bus.passed.IsChain (Bus.Apart config) ∧
      (config.maxDelayMs = 0 ∨ config.marginMs ≤ config.maxDelayMs → bus.DropsFreely) := by
  have sound : Bus.Sound config (final step (.start config) calls) :=
    final_invariant step (fun _ timed sound => sound.step enabled timed) _ calls
      ⟨rfl, .nil, nofun, nofun⟩
  exact ⟨sound.apart, fun within => sound.dropsFreely enabled within⟩

def telegram : FrameEnvelope := .new (.raw .lDataReq [] .group .low []) 1 ⟨⟨127, 0, 0, 1⟩, 3671⟩

theorem three_frames_keep_their_distance : let send : Call := .processSend telegram
    let calls := [(0, send), (0, send), (0, send)]
    outputs step (.start .default) calls =
      [some (.pass 0), some (.pass 61450000), some (.pass 122900000)] ∧
      (final step (.start .default) calls).passed.IsChain (Bus.Apart .default) ∧
      (final step (.start .default) calls).DropsFreely := by
  refine ⟨by decide +kernel, ?_⟩
  exact (frames_keep_their_distance rfl _).imp_right fun free => free (.inr (by decide))

theorem dropped_frame_moves_schedule :
    let config := { PaceFilterConfig.default with maxDelayMs := 20 }
    let send : Call := .processSend telegram
    let ends := config.frameTime telegram.frameSizeBytes
    let pause := 30 * nanosPerMilli
    outputs step (.start config) [(0, send), (ends, send), (pause, .onFrameCompleted),
        (pause, send)] =
      [some (.pass 0), some (.dropped "PaceFilter: idle delay 50ms exceeds max_delay_ms 20"),
        none, some (.pass 0)] ∧
    outputs step (.start config) [(0, send), (ends + pause, .onFrameCompleted), (pause, send)] =
      [some (.pass 0), none, some (.pass (20 * nanosPerMilli))] := by
  decide +kernel

end PaceFilter

namespace FilterChain

open PaceFilter

/-- The periods of the pace filter that are not over are the same. -/
def SamePace (now : Nat) (before after : PaceFilter) : Prop :=
  elapse before.config now after.state = elapse before.config now before.state

instance (now : Nat) (before after : PaceFilter) : Decidable (SamePace now before after) :=
  inferInstanceAs (Decidable (_ = _))

/-- The queue filter does not hold the frame back, and the pace filter gives it time on the bus that
it need not wait for too long. -/
def Occupies (chain : FilterChain) (now : Nat) (envelope : FrameEnvelope) : Prop :=
  let pace := chain.paceFilter
  ¬(chain.queueFilter.Controls ∧ chain.holds envelope.channelId = true) ∧
    pace.config.enabled = true ∧ (pace.config.maxDelayMs = 0 ∨
      freeAt pace.config now (elapse pace.config now pace.state) ≤ now + pace.config.maxDelay)

variable {chain : FilterChain} {now : Nat} {envelope : FrameEnvelope}

theorem queue_continues_iff : (chain.queueFilter.processSend envelope).1.shouldContinue = true ↔
    ¬(chain.queueFilter.Controls ∧ chain.holds envelope.channelId = true) := by
  constructor
  · rintro continues ⟨controls, held⟩
    rcases controls.held envelope held with queued | ⟨⟨_, dropped⟩, _⟩
    · rw [queued] at continues
      cases continues
    · rw [dropped] at continues
      cases continues
  · intro free
    simp only [QueueFilter.processSend]
    split_ifs with disabled backpressure waiting
    · rfl
    · exact absurd ⟨⟨by simpa using disabled, backpressure⟩, waiting⟩ free
    · rfl
    · rfl

theorem pace_continues_iff {filter : PaceFilter} (enabled : filter.config.enabled = true) :
    (filter.processSend now envelope).1.shouldContinue = true ↔ filter.config.maxDelayMs = 0 ∨
      freeAt filter.config now (elapse filter.config now filter.state) ≤
        now + filter.config.maxDelay := by
  rcases processSend_cases filter now envelope enabled with
    ⟨delay, begins, within, sent⟩ | ⟨_, limited, exceeds, sent⟩
  · rw [sent]
    exact iff_of_true rfl (by omega)
  · rw [sent]
    refine iff_of_false Bool.false_ne_true ?_
    omega

/-- By what the two filters answer. -/
theorem occupies_iff : chain.Occupies now envelope ↔
    (chain.queueFilter.processSend envelope).1.shouldContinue = true ∧
      chain.paceFilter.config.enabled = true ∧
      (chain.paceFilter.processSend now (chain.queueFilter.processSend envelope).2.1).1.shouldContinue
        = true := by
  rw [Occupies, queue_continues_iff]
  refine and_congr_right fun _ => and_congr_right fun enabled => ?_
  rw [pace_continues_iff enabled]

theorem paceFilter_send (enabled : chain.enabled = true) :
    let queued := chain.queueFilter.processSend envelope
    (chain.send now envelope).2.2.paceFilter =
      if queued.1.shouldContinue then (chain.paceFilter.processSend now queued.2.1).2
      else chain.paceFilter := by
  have on : (!chain.enabled) = false := by
    rw [enabled]
    rfl
  simp only [send, on, Bool.false_eq_true, if_false]
  rcases chain.queueFilter.processSend envelope with ⟨result, queued, queueFilter⟩
  cases result with
  | pass =>
    dsimp only
    rcases chain.paceFilter.processSend now queued with ⟨paced, paceFilter⟩
    cases paced with
    | pass delay =>
      dsimp only
      split
      · rfl
      · rfl
    | queued | dropped | error => rfl
  | queued | dropped | error => rfl

theorem elapse_elapse (config : PaceFilterConfig) (state : PaceState) :
    elapse config now (elapse config now state) = elapse config now state := by
  rcases elapse_cases config now state with ⟨down, _⟩ | ⟨_, _, _, same⟩ | ⟨_, paused, idle, _⟩
  · rw [down]
    rfl
  · rw [same, same]
  · rw [idle, elapse, if_neg (Nat.not_le_of_lt paused)]

theorem elapse_sent_ne {config : PaceFilterConfig} {place : PaceState} {frameTime : Nat}
    (later : now ≤ freeAt config now place) (takes : 0 < frameTime) :
    elapse config now (.busy (freeAt config now place + frameTime)) ≠ place := by
  intro same
  rw [elapse, if_neg (by omega)] at same
  have free := congrArg (freeAt config now) same
  rw [freeAt] at free
  omega

theorem frameTime_pos {config : PaceFilterConfig} {bytes : Nat} (some : 0 < bytes)
    (fits : config.byteTimeUs * bytes < 2 ^ 64) : 0 < config.frameTime bytes := by
  have positive : 0 < config.byteTimeUs := by
    rw [PaceFilterConfig.byteTimeUs]
    split_ifs with given
    · exact given
    · decide
  rw [PaceFilterConfig.frameTime, Nat.mod_eq_of_lt fits]
  exact Nat.mul_pos (Nat.mul_pos positive some) (by decide)

theorem frameSizeBytes_queued (filter : QueueFilter) (envelope : FrameEnvelope) :
    (filter.processSend envelope).2.1.frameSizeBytes = envelope.frameSizeBytes := by
  simp only [QueueFilter.processSend]
  split_ifs <;> rfl

/-- A frame that is dropped leaves the bus alone exactly if it was not let onto it before. -/
theorem dropped_keeps_pace_iff {reason : String}
    (sized : envelope.frameSizeBytes = envelope.cemi.encode.length)
    (fits : chain.paceFilter.config.byteTimeUs * envelope.frameSizeBytes < 2 ^ 64)
    (dropped : (chain.send now envelope).1 = .dropped reason) :
    SamePace now chain.paceFilter (chain.send now envelope).2.2.paceFilter ↔
      ¬chain.Occupies now envelope := by
  have enabled : chain.enabled = true := by
    by_contra off
    rw [send, if_pos (by simpa using off)] at dropped
    cases dropped
  have takes : 0 < chain.paceFilter.config.frameTime
      (chain.queueFilter.processSend envelope).2.1.frameSizeBytes := by
    rw [frameSizeBytes_queued]
    exact frameTime_pos (by rw [sized]; exact Nat.succ_pos _) fits
  rw [paceFilter_send enabled, occupies_iff, SamePace]
  generalize chain.queueFilter.processSend envelope = queued at takes
  cases passes : queued.1.shouldContinue with
  | false => simp
  | true =>
    rw [if_pos rfl]
    by_cases on : chain.paceFilter.config.enabled = true
    · rcases processSend_cases chain.paceFilter now queued.2.1 on with
        ⟨delay, begins, _, sent⟩ | ⟨_, _, _, sent⟩
      · have seen := elapse_sent_ne (begins ▸ Nat.le_add_right now delay) takes
        rw [sent, begins]
        simp [seen, on, FilterResult.shouldContinue]
      · rw [sent, elapse_elapse]
        simp [FilterResult.shouldContinue]
    · rw [processSend, if_pos (by simpa using on)]
      simp [on]

def tripped (pace : PaceFilterConfig) : FilterChain :=
  onSendFailure (new ⟨true, pace, .default, { RetryFilterConfig.default with
    failureThreshold := 1 }⟩) 0

theorem dropped_without_pace :
    let chain := tripped { PaceFilterConfig.default with enabled := false }
    (chain.send 0 telegram).1 = .dropped "CircuitBreaker: circuit is Open (failures >= 1)" ∧
      SamePace 0 chain.paceFilter (chain.send 0 telegram).2.2.paceFilter := by
  have dropped : ((tripped { PaceFilterConfig.default with enabled := false }).send 0
      telegram).1 = .dropped "CircuitBreaker: circuit is Open (failures >= 1)" := by
    decide +kernel
  refine ⟨dropped, (dropped_keeps_pace_iff rfl (by decide) dropped).mpr ?_⟩
  intro occupies
  cases occupies.2.1

/-- The bus is busy with a frame that the circuit breaker has dropped. -/
theorem dropped_frame_occupies_bus : let chain := tripped .default
    (chain.send 0 telegram).1 = .dropped "CircuitBreaker: circuit is Open (failures >= 1)" ∧
      chain.paceFilter.state = .down ∧
      (chain.send 0 telegram).2.2.paceFilter.state = .busy 11450000 ∧
      ¬SamePace 0 chain.paceFilter (chain.send 0 telegram).2.2.paceFilter := by
  decide +kernel

end FilterChain

end Mabinogion.Knx
