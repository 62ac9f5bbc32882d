import Mabinogion.Knx.FilterChain
import Mabinogion.Library.Transducer

/-!
# The circuit breaker of the retry filter

Runs of the breaker, with a time for each call. Half open it lets every frame through as a
probe. It moves as documented, which is said over the calls since it came into its state.
-/

namespace Mabinogion.Knx

def RetryFilterConfig.validate (config : RetryFilterConfig) : Except String Unit :=
  if config.failureThreshold = 0 then .error "RetryFilter failure_threshold must be > 0"
  else if config.recoveryTimeoutMs = 0 then .error "RetryFilter recovery_timeout_ms must be > 0"
  else if config.successThreshold = 0 then .error "RetryFilter success_threshold must be > 0"
  else .ok ()

namespace RetryFilter

open Transducer RetryFilterConfig

inductive Call where
  | processSend (envelope : FrameEnvelope)
  | onSuccess
  | onFailure
  | circuitState
deriving DecidableEq

def Call.reports : Call → Bool
  | .onSuccess | .onFailure => true
  | _ => false

/-- The answer is that to a frame, if one was offered. -/
def step (filter : RetryFilter) : Nat × Call → Option FilterResult × RetryFilter
  | (now, .processSend envelope) =>
    let (result, filter) := filter.processSend now envelope
    (some result, filter)
  | (_, .onSuccess) => (none, filter.onSuccess)
  | (now, .onFailure) => (none, filter.onFailure now)
  | (now, .circuitState) => (none, (filter.circuitState now).2)

def offersProbe : RetryFilter × Nat × Call → Bool
  | (filter, now, .processSend _) => (filter.circuitState now).1 = .halfOpen
  | _ => false

def probes (config : RetryFilterConfig) (before between : List (Nat × Call)) :
    List (RetryFilter × Nat × Call) :=
  (arrivals step (final step (new config) before) between).filter offersProbe

def isDropped : Option FilterResult → Bool
  | some (.dropped _) => true
  | _ => false

theorem processSend_halfOpen (filter : RetryFilter) (now : Nat) (envelope : FrameEnvelope)
    (seen : (filter.circuitState now).1 = .halfOpen) :
    (filter.processSend now envelope).1 = .pass 0 := by
  unfold processSend
  generalize filter.circuitState now = looked at seen ⊢
  obtain ⟨state, next⟩ := looked
  obtain rfl : state = .halfOpen := seen
  split_ifs <;> rfl

theorem probe_not_dropped {arrival : RetryFilter × Nat × Call}
    (offered : offersProbe arrival = true) : isDropped (arrival.1.step arrival.2).1 = false := by
  obtain ⟨filter, now, call⟩ := arrival
  cases call with
  | processSend envelope =>
    have passed := processSend_halfOpen filter now envelope (of_decide_eq_true offered)
    show isDropped (some (filter.processSend now envelope).1) = false
    rw [passed]
    rfl
  | _ => cases offered

/-- One probe at a time exactly if no second frame finds the breaker half open between reports. -/
theorem one_probe_iff (config : RetryFilterConfig) (calls : List (Nat × Call)) :
    (∀ before between after, calls = before ++ between ++ after →
      (∀ call ∈ between, call.2.reports = false) →
        ((probes config before between).filter fun probe =>
          !isDropped (probe.1.step probe.2).1).length ≤ 1) ↔
    ∀ before between after, calls = before ++ between ++ after →
      (∀ call ∈ between, call.2.reports = false) → (probes config before between).length ≤ 1 := by
  have kept (before between : List (Nat × Call)) :
      (probes config before between).filter (fun probe => !isDropped (probe.1.step probe.2).1) =
        probes config before between := by
    rw [List.filter_eq_self]
    intro probe offered
    rw [probe_not_dropped (List.mem_filter.mp offered).2]
    rfl
  simp only [kept]

/-- Nothing records that a probe is under way. -/
theorem two_probes_at_once : let config := { default with failureThreshold := 1 }
    let send : Call := .processSend (.new (.raw .lDataReq [] .group .low []) 1 ⟨⟨127, 0, 0, 1⟩, 3671⟩)
    let later := config.recoveryTimeoutMs * nanosPerMilli
    outputs step (new config) [(0, .onFailure), (later, send), (later + 1, send)] =
        [none, some (.pass 0), some (.pass 0)] ∧
      (probes config [(0, .onFailure)] [(later, send), (later + 1, send)]).length = 2 := by
  decide

section

abbrev History : Type := List (Nat × Call)

/-- The filter, and the calls since it came into its state. -/
def record (whole : RetryFilter × History) (call : Nat × Call) :
    Option FilterResult × RetryFilter × History :=
  let (answer, next) := whole.1.step call
  (answer, next, if next.state = whole.1.state then whole.2 ++ [call] else [])

variable (config : RetryFilterConfig)

def period (calls : History) : History :=
  (final record (new config, []) calls).2

variable (since : History)

/-- The failures without a success behind them. -/
def failuresInARow : Nat :=
  since.foldl (fun count call =>
    match call.2 with
    | .onFailure => count + 1
    | .onSuccess => 0
    | _ => count) 0

def successes : Nat := since.countP fun call => call.2 = .onSuccess

def recovering (openedAt now : Nat) : Bool :=
  now - openedAt < config.recoveryTimeoutMs * nanosPerMilli

/-- The documented state behind a call, by the calls since the state was entered. -/
def documented (call : Nat × Call) : CircuitBreakerState → CircuitBreakerState
  | .closed =>
    if call.2 = .onFailure ∧ failuresInARow (since ++ [call]) = config.failureThreshold then
      .open call.1
    else .closed
  | .open openedAt =>
    if call.2.reports ∨ recovering config openedAt call.1 then .open openedAt else .halfOpen
  | .halfOpen =>
    if call.2 = .onFailure then .open call.1
    else if call.2 = .onSuccess ∧ successes (since ++ [call]) = config.successThreshold then .closed
    else .halfOpen

/-- The counters say what the history says, below the thresholds. -/
@[mk_iff] structure Counts (config : RetryFilterConfig) (whole : RetryFilter × History) : Prop where
  config_eq : whole.1.config = config
  closed : whole.1.state = .closed →
    whole.1.failureCount = failuresInARow whole.2 ∧ whole.1.failureCount < config.failureThreshold
  halfOpen : whole.1.state = .halfOpen →
    whole.1.successCount = successes whole.2 ∧ whole.1.successCount < config.successThreshold

theorem failuresInARow_concat (call : Nat × Call) : failuresInARow (since ++ [call]) =
      match call.2 with
      | .onFailure => failuresInARow since + 1
      | .onSuccess => 0
      | _ => failuresInARow since := by
  rw [failuresInARow, List.foldl_concat]
  rfl

theorem successes_concat (call : Nat × Call) :
    successes (since ++ [call]) = successes since + if call.2 = .onSuccess then 1 else 0 := by
  simp [successes, List.countP_singleton]

variable {config : RetryFilterConfig} (enabled : config.enabled = true)

include enabled

theorem step_look {state : CircuitBreakerState} {failureCount successCount : Nat} {call : Call}
    (looks : call.reports = false) (now : Nat) :
    (step ⟨config, state, failureCount, successCount⟩ (now, call)).2 =
      (circuitState ⟨config, state, failureCount, successCount⟩ now).2 := by
  cases call with
  | processSend envelope =>
    show (processSend _ now envelope).2 = _
    simp only [processSend, enabled]
    rcases circuitState _ now with ⟨_ | _ | _, next⟩ <;> rfl
  | circuitState => rfl
  | onSuccess | onFailure => cases looks

variable (valid : config.validate = .ok ())

include valid

omit enabled in
theorem positive_of_validate : 0 < config.failureThreshold ∧ 0 < config.successThreshold := by
  unfold validate at valid
  split_ifs at valid with failures recovery successes
  omega

theorem record_documented (whole : RetryFilter × History) (call : Nat × Call)
    (counts : Counts config whole) :
    (whole.1.step call).2.state = documented config whole.2 call whole.1.state ∧
      Counts config (record whole call).2 := by
  obtain ⟨failures, threshold⟩ := positive_of_validate valid
  obtain ⟨⟨settings, state, failureCount, successCount⟩, since⟩ := whole
  obtain ⟨now, call⟩ := call
  simp only [counts_iff] at counts
  obtain ⟨rfl, closed, halfOpen⟩ := counts
  simp only [record, counts_iff]
  cases state with
  | closed =>
    obtain ⟨rfl, below⟩ := closed rfl
    cases call with
    | onFailure =>
      by_cases trips : failuresInARow since + 1 = settings.failureThreshold
      · simp [step, onFailure, enabled, documented, failuresInARow_concat, trips]
      · have still : failuresInARow since + 1 < settings.failureThreshold := by omega
        simp [step, onFailure, enabled, documented, failuresInARow_concat, trips, still,
          Nat.not_le.mpr still]
    | onSuccess => simp [step, onSuccess, enabled, documented, failuresInARow_concat, failures]
    | circuitState | processSend =>
      rw [step_look enabled rfl]
      simp [circuitState, documented, failuresInARow_concat, below]
  | «open» openedAt =>
    cases call with
    | onSuccess => simp [step, onSuccess, enabled, documented, Call.reports]
    | onFailure => simp [step, onFailure, enabled, documented, Call.reports]
    | circuitState | processSend =>
      rw [step_look enabled rfl]
      by_cases early : now - openedAt < settings.recoveryTimeoutMs * nanosPerMilli
      · simp [circuitState, documented, recovering, early, Nat.not_le.mpr early]
      · simp [circuitState, documented, recovering, early, Nat.not_lt.mp early, Call.reports,
          successes, threshold]
  | halfOpen =>
    obtain ⟨rfl, below⟩ := halfOpen rfl
    cases call with
    | onSuccess =>
      by_cases closes : successes since + 1 = settings.successThreshold
      · simp [step, onSuccess, enabled, documented, successes_concat, closes, failuresInARow,
          failures]
      · have still : successes since + 1 < settings.successThreshold := by omega
        simp [step, onSuccess, enabled, documented, successes_concat, closes, still,
          Nat.not_le.mpr still]
    | onFailure => simp [step, onFailure, enabled, documented]
    | circuitState | processSend =>
      rw [step_look enabled rfl]
      simp [circuitState, documented, successes_concat, below]

theorem counts_final (calls : History) : Counts config (final record (new config, []) calls) := by
  apply final_invariant record
  · intro whole call counts
    exact (record_documented enabled valid whole call counts).2
  · exact ⟨rfl, fun _ => ⟨rfl, (positive_of_validate valid).1⟩, nofun⟩

/-- While open the breaker drops the frames before the recovery time is over, and the first look
behind that finds it half open. -/
theorem breaker_moves_as_documented (calls : History) (now : Nat) (call : Call) :
    let filter := final step (new config) calls
    (filter.step (now, call)).2.state =
        documented config (period config calls) (now, call) filter.state ∧
      (filter.state = .closed → filter.failureCount < config.failureThreshold) ∧
      ∀ openedAt, filter.state = .open openedAt → ((filter.circuitState now).1 =
          if recovering config openedAt now then .open openedAt else .halfOpen) ∧
        ∀ envelope, isDropped (filter.step (now, .processSend envelope)).1 =
          recovering config openedAt now := by
  have counts := counts_final enabled valid calls
  have moved := (record_documented enabled valid _ (now, call) counts).1
  have run : (final record (new config, []) calls).1 = final step (new config) calls :=
    final_project step (fun _ _ => rfl) _ calls
  obtain ⟨same, closed, -⟩ := counts
  rw [run] at moved same closed
  refine ⟨moved, fun isClosed => (closed isClosed).2, ?_⟩
  generalize final step (new config) calls = filter at same
  obtain ⟨settings, state, failureCount, successCount⟩ := filter
  rintro openedAt rfl
  obtain rfl : settings = config := same
  by_cases early : now - openedAt < settings.recoveryTimeoutMs * nanosPerMilli
  · simp [circuitState, recovering, early, Nat.not_le.mpr early, step, processSend, enabled,
      isDropped]
  · simp [circuitState, recovering, early, Nat.not_lt.mp early, step, processSend, enabled,
      isDropped]

omit enabled valid in
theorem default_breaker_moves_as_documented : let config := default
    let calls := [(0, .onFailure), (0, .onSuccess)]
    config.enabled = true ∧ config.validate = .ok () ∧
      ((final step (new config) calls).step (1, .onFailure)).2.state =
        documented config (period config calls) (1, .onFailure)
          (final step (new config) calls).state :=
  ⟨rfl, rfl, (breaker_moves_as_documented rfl rfl _ 1 .onFailure).1⟩

omit enabled valid in
/-- A filter that is switched off counts nothing. -/
theorem disabled_breaker_stays_closed :
    let config := { default with enabled := false, failureThreshold := 1 }
    config.validate = .ok () ∧ (final step (new config) [(0, .onFailure)]).state = .closed ∧
      documented config (period config []) (0, .onFailure) .closed = .open 0 :=
  ⟨rfl, rfl, rfl⟩

end

end RetryFilter

end Mabinogion.Knx
