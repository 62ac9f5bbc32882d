import Mathlib.Data.UInt

/-!
# Sequence numbers of a tunnel

`sno` for the frames sent to the client, `rno` for the one expected from it. A received
number is the expected one, a duplicate, ahead of its turn, or so far ahead that the tunnel
has to be restarted.
-/

namespace Mabinogion.Knx

open UInt8

def forwardBoundary : UInt8 := 128

inductive ReceivedValidation where
  | valid (sequence : UInt8)
  | duplicate (sequence expected : UInt8)
  | outOfOrder (sequence expected distance : UInt8)
  | fatalDesync (sequence expected distance : UInt8)
deriving DecidableEq

namespace ReceivedValidation

def shouldProcess : ReceivedValidation → Bool
  | valid _ | outOfOrder _ _ _ => true
  | _ => false

def shouldAck : ReceivedValidation → Bool
  | fatalDesync _ _ _ => false
  | _ => true

def requiresRestart : ReceivedValidation → Bool
  | fatalDesync _ _ _ => true
  | _ => false

end ReceivedValidation

structure SequenceTracker where
  sno : UInt8
  rno : UInt8
  fatalDesyncThreshold : UInt8
  thresholdBound : 2 ≤ fatalDesyncThreshold

namespace SequenceTracker

theorem two_le_max (threshold : UInt8) : 2 ≤ max threshold 2 := by
  show (2 : UInt8) ≤ if threshold ≤ 2 then 2 else threshold
  split_ifs with small
  · exact le_refl 2
  · exact UInt8.le_of_lt (UInt8.not_le.mp small)

def withDesyncThreshold (threshold : UInt8) : SequenceTracker where
  sno := 0
  rno := 0
  fatalDesyncThreshold := max threshold 2
  thresholdBound := two_le_max threshold

def new : SequenceTracker := withDesyncThreshold 5

variable (tracker : SequenceTracker)

/-- The exchange of a single caller succeeds at once. -/
def nextSno : UInt8 × SequenceTracker :=
  (tracker.sno, { tracker with sno := tracker.sno + 1 })

def validateReceived (sequence : UInt8) : ReceivedValidation × SequenceTracker :=
  let expected := tracker.rno
  if sequence = expected then (.valid sequence, { tracker with rno := expected + 1 })
  else if sequence + 1 = expected then (.duplicate sequence expected, tracker)
  else
    let distance := sequence - expected
    if distance < forwardBoundary then
      if distance ≥ tracker.fatalDesyncThreshold then
        (.fatalDesync sequence expected distance, tracker)
      else (.outOfOrder sequence expected distance, tracker)
    else (.duplicate sequence expected, tracker)

def distance (sequence : UInt8) : Nat :=
  (sequence - tracker.rno).toNat

section

variable (tracker : SequenceTracker) (sequence : UInt8)

theorem distance_eq :
    tracker.distance sequence = (256 - tracker.rno.toNat + sequence.toNat) % 256 :=
  UInt8.toNat_sub _ _

theorem validate_cases : (tracker.distance sequence = 0 ∧ tracker.validateReceived sequence =
      (.valid sequence, { tracker with rno := tracker.rno + 1 })) ∨
    (128 ≤ tracker.distance sequence ∧ tracker.validateReceived sequence =
      (.duplicate sequence tracker.rno, tracker)) ∨
    ((0 < tracker.distance sequence ∧ tracker.distance sequence < 128 ∧
        tracker.distance sequence < tracker.fatalDesyncThreshold.toNat) ∧
      tracker.validateReceived sequence =
        (.outOfOrder sequence tracker.rno (sequence - tracker.rno), tracker)) ∨
    ((0 < tracker.distance sequence ∧ tracker.distance sequence < 128 ∧
        tracker.fatalDesyncThreshold.toNat ≤ tracker.distance sequence) ∧
      tracker.validateReceived sequence =
        (.fatalDesync sequence tracker.rno (sequence - tracker.rno), tracker)) := by
  have apart := tracker.distance_eq sequence
  have bound := sequence.toNat_lt
  have boundRno := tracker.rno.toNat_lt
  simp only [validateReceived]
  split_ifs with expected previous forward far
  · left
    rw [expected] at apart
    exact ⟨by rw [expected]; omega, rfl⟩
  · right
    left
    have number := congrArg toNat previous
    rw [UInt8.toNat_add] at number
    have one : (1 : UInt8).toNat = 1 := rfl
    exact ⟨by omega, rfl⟩
  · right
    right
    right
    have different : sequence.toNat ≠ tracker.rno.toNat := mt UInt8.toNat_inj.mp expected
    exact ⟨⟨by omega, lt_iff_toNat_lt.mp forward, le_iff_toNat_le.mp far⟩, rfl⟩
  · right
    right
    left
    have different : sequence.toNat ≠ tracker.rno.toNat := mt UInt8.toNat_inj.mp expected
    exact ⟨⟨by omega, lt_iff_toNat_lt.mp forward, lt_iff_toNat_lt.mp (UInt8.not_le.mp far)⟩, rfl⟩
  · right
    left
    exact ⟨le_iff_toNat_le.mp (UInt8.not_lt.mp forward), rfl⟩

end

end SequenceTracker

end Mabinogion.Knx
