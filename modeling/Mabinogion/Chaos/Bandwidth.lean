import Mathlib.Algebra.Order.Field.Rat
import Mathlib.Algebra.Order.Field.Canonical
import Mathlib.Tactic.Positivity
import Mathlib.Tactic.Ring

/-!
# The bandwidth fault (`mabi-chaos/src/network/bandwidth.rs`)

Times are exact seconds. The fault's target and probability are not read here.
-/

namespace Mabinogion.Chaos

structure BandwidthConfig where
  bytesPerSecond : Nat
  burstBytes : Nat

structure BandwidthFault where
  config : BandwidthConfig
  tokens : NNRat
  lastUpdate : NNRat

namespace BandwidthFault

variable (fault : BandwidthFault) (now : NNRat)

def refillTokens : BandwidthFault :=
  let newTokens := (now - fault.lastUpdate) * fault.config.bytesPerSecond
  { fault with
    lastUpdate := now, tokens := min (fault.tokens + newTokens) fault.config.burstBytes }

def calculateDelay (dataSize : Nat) : NNRat × BandwidthFault :=
  let fault := fault.refillTokens now
  if dataSize ≤ fault.tokens then (0, { fault with tokens := fault.tokens - dataSize })
  else ((dataSize - fault.tokens) / fault.config.bytesPerSecond, { fault with tokens := 0 })

def reset : BandwidthFault :=
  { fault with tokens := fault.config.burstBytes, lastUpdate := now }

/-- The bytes that have passed by `bound`. A request is its pause and its size. -/
def passed (bound : NNRat) : BandwidthFault → NNRat → List (NNRat × Nat) → Nat
  | _, _, [] => 0
  | fault, clock, (pause, size) :: rest =>
    let (delay, fault) := fault.calculateDelay (clock + pause) size
    let clock := clock + pause + delay
    (if clock ≤ bound then size else 0) + passed bound fault clock rest

theorem config_calculateDelay (size : Nat) :
    (fault.calculateDelay now size).2.config = fault.config := by
  rw [calculateDelay]
  split_ifs <;> rfl

/-- No refill adds more than the pause since the request before has earned, so that the time for
which that one has waited is credited once. -/
def CreditedOnce : BandwidthFault → NNRat → List (NNRat × Nat) → Prop
  | _, _, [] => True
  | fault, clock, (pause, size) :: rest =>
    let served := fault.calculateDelay (clock + pause) size
    (fault.refillTokens (clock + pause)).tokens ≤
        fault.tokens + pause * fault.config.bytesPerSecond ∧
      CreditedOnce served.2 (clock + pause + served.1) rest

variable {fault} {bound clock : NNRat} {requests : List (NNRat × Nat)}

theorem creditedOnce_no_burst (empty : fault.config.burstBytes = 0) :
    fault.CreditedOnce clock requests := by
  induction requests generalizing fault clock with
  | nil => trivial
  | cons request rest ih =>
    rw [CreditedOnce]
    refine ⟨?_, ih ?_⟩
    · simp [refillTokens, empty]
    · rw [config_calculateDelay]
      exact empty

/-- A request is paid with tokens and with the time that it waits. -/
theorem calculateDelay_pays (rate : 1 ≤ fault.config.bytesPerSecond) (size : Nat) :
    size + (fault.calculateDelay now size).2.tokens = (fault.refillTokens now).tokens +
      (fault.calculateDelay now size).1 * fault.config.bytesPerSecond := by
  have positive : (fault.config.bytesPerSecond : NNRat) ≠ 0 := by positivity
  rw [calculateDelay]
  split_ifs with enough
  · rw [add_tsub_cancel_of_le enough, zero_mul, add_zero]
  · rw [add_zero]
    show _ = _ + _ / (fault.config.bytesPerSecond : NNRat) * _
    rw [div_mul_cancel₀ _ positive, add_tsub_cancel_of_le (not_le.1 enough).le]

theorem passed_of_late (late : bound < clock) : passed bound fault clock requests = 0 := by
  induction requests generalizing fault clock with
  | nil => rfl
  | cons request rest ih =>
    obtain ⟨pause, size⟩ := request
    have later : bound < clock + pause + (fault.calculateDelay (clock + pause) size).1 := by
      rw [add_assoc]
      exact lt_of_lt_of_le late le_self_add
    rw [passed]
    dsimp only
    rw [if_neg (not_le.2 later), ih later]

-- What has passed was paid with the tokens at hand and with the time since then.
theorem passed_le (rate : 1 ≤ fault.config.bytesPerSecond)
    (once : fault.CreditedOnce clock requests) :
    passed bound fault clock requests ≤
      fault.tokens + fault.config.bytesPerSecond * (bound - clock) := by
  induction requests generalizing fault clock with
  | nil => simp [passed]
  | cons request rest ih =>
    obtain ⟨pause, size⟩ := request
    rw [CreditedOnce] at once
    obtain ⟨credited, later⟩ := once
    have pays := calculateDelay_pays (clock + pause) rate size
    have rest_le := ih (by rwa [config_calculateDelay]) later
    rw [config_calculateDelay] at rest_le
    rw [passed]
    generalize fault.calculateDelay (clock + pause) size = served at *
    obtain ⟨delay, after⟩ := served
    dsimp only at *
    split_ifs with intime
    · have spent : pause + delay + (bound - (clock + pause + delay)) = bound - clock := by
        rw [add_assoc clock] at intime ⊢
        rw [tsub_add_eq_tsub_tsub, add_tsub_cancel_of_le (le_tsub_of_add_le_left intime)]
      calc
        _ ≤ size + (after.tokens +
            fault.config.bytesPerSecond * (bound - (clock + pause + delay))) := by
          push_cast
          gcongr
        _ ≤ fault.tokens + pause * fault.config.bytesPerSecond +
            delay * fault.config.bytesPerSecond +
            fault.config.bytesPerSecond * (bound - (clock + pause + delay)) := by
          rw [← add_assoc, pays]
          gcongr
        _ = _ := by
          rw [← spent]
          ring
    · rw [passed_of_late (not_le.1 intime)]
      simp

theorem reset_limited {time : NNRat} (rate : 1 ≤ fault.config.bytesPerSecond)
    (once : (fault.reset now).CreditedOnce now requests) :
    (fault.reset now).passed (now + time) now requests ≤
      fault.config.burstBytes + fault.config.bytesPerSecond * time := by
  have paid := @passed_le (fault.reset now) (now + time) now requests rate once
  rwa [add_tsub_cancel_left] at paid

end BandwidthFault

open BandwidthFault

/-- Requests pass no faster than the rate, apart from one burst. -/
def BandwidthConfig.Limits (config : BandwidthConfig) : Prop :=
  ∀ (fault : BandwidthFault) (now time : NNRat) (requests : List (NNRat × Nat)),
    fault.config = config → (fault.reset now).passed (now + time) now requests ≤
      config.burstBytes + config.bytesPerSecond * time

theorem not_limits {config : BandwidthConfig} (rate : 1 ≤ config.bytesPerSecond)
    (burst : 1 ≤ config.burstBytes) : ¬config.Limits := by
  intro limits
  have positive : (config.bytesPerSecond : NNRat) ≠ 0 := by positivity
  -- the second request's wait is credited to the third one
  have exceeded := limits ⟨config, 0, 0⟩ 0 (1 / config.bytesPerSecond)
    [(0, config.burstBytes), (0, 1), (0, 1)] rfl
  simp [passed, calculateDelay, refillTokens, reset, positive, burst] at exceeded

/-- Only without a burst are all sequences of requests limited; one in which no wait is credited
again is limited in any case. -/
theorem limits_iff (config : BandwidthConfig) (rate : 1 ≤ config.bytesPerSecond) :
    (config.Limits ↔ config.burstBytes = 0) ∧
      ∀ (fault : BandwidthFault) (now time : NNRat) (requests : List (NNRat × Nat)),
        fault.config = config → (fault.reset now).CreditedOnce now requests →
          (fault.reset now).passed (now + time) now requests ≤
            config.burstBytes + config.bytesPerSecond * time := by
  refine ⟨⟨fun limits => ?_, ?_⟩, ?_⟩
  · by_contra burst
    exact not_limits rate (Nat.one_le_iff_ne_zero.2 burst) limits
  · rintro empty fault now time requests rfl
    exact reset_limited now rate (creditedOnce_no_burst empty)
  · rintro fault now time requests rfl once
    exact reset_limited now rate once

theorem no_burst_limits : BandwidthConfig.Limits ⟨1000, 0⟩ :=
  (limits_iff ⟨1000, 0⟩ (by decide)).1.2 rfl

/-- The wait of the second request pays for the third as well. -/
theorem waiting_credited_twice : ¬BandwidthConfig.Limits ⟨1000, 5000⟩ :=
  not_limits (by decide) (by decide)

end Mabinogion.Chaos
