import Mabinogion.Library.Transducer
import Mabinogion.Modbus.RtuCodec

/-!
# The streaming RTU codec

Bytes are given one by one and collected in a partial frame. The length of the frame is
guessed from the buffer of the inner codec, which nothing fills, so that only a gap ends a frame.
-/

namespace Mabinogion.Modbus

open Transducer

structure StreamingRtuCodec where
  inner : RtuCodec
  partialFrame : Bytes
  lastByteTime : Option Nat

namespace StreamingRtuCodec

abbrev Reply := Except ModbusError (Option RtuFrame)

def new (timing : RtuTiming) : StreamingRtuCodec :=
  ⟨{ RtuCodec.withTiming timing with strictTiming := true }, [], none⟩

def decoded (data : Bytes) : Reply :=
  match RtuFrame.decode data with
  | .ok frame => .ok (some frame)
  | .error error => .error (.invalidData error.message)

/-- The part of `process_byte` behind the check for a gap. -/
def collect (codec : StreamingRtuCodec) (now : Nat) (byte : UInt8) : Reply × StreamingRtuCodec :=
  let received := codec.partialFrame ++ [byte]
  let codec := { codec with partialFrame := received, lastByteTime := some now }
  let unfinished : Reply × StreamingRtuCodec :=
    if received.length ≥ rtuMaxFrameSize then
      (.error (.invalidData "Frame buffer overflow"), { codec with partialFrame := [] })
    else (.ok none, codec)
  if received.length ≥ rtuMinFrameSize then
    match RtuCodec.estimateFrameLength codec.inner.buffer with
    | some expectedLen =>
      if received.length ≥ expectedLen ∧ verifyCrc (received.take expectedLen) then
        (decoded (received.take expectedLen),
          { codec with partialFrame := received.drop expectedLen })
      else unfinished
    | none => unfinished
  else unfinished

def processByte (codec : StreamingRtuCodec) (call : Nat × UInt8) : Reply × StreamingRtuCodec :=
  let (now, byte) := call
  let gap := codec.lastByteTime.any fun last => now - last ≥ codec.inner.timing.interFrameTimeout
  if gap && !codec.partialFrame.isEmpty then
    if codec.partialFrame.length ≥ rtuMinFrameSize ∧ verifyCrc codec.partialFrame then
      (decoded codec.partialFrame, { codec with partialFrame := [byte], lastByteTime := some now })
    else collect { codec with partialFrame := [] } now byte
  else collect codec now byte

/-- Each byte follows the one before within the timeout. -/
def NoGap (timeout : Nat) : Option Nat → List (Nat × UInt8) → Prop
  | _, [] => True
  | last, (now, _) :: calls =>
    (last.any fun last => now - last ≥ timeout) = false ∧ NoGap timeout (some now) calls

/-- The last byte of the request returns the frame, and the bytes before it return nothing. -/
def Receives (timing : RtuTiming) (request : RequestFrame) : Prop :=
  ∀ calls, calls.map Prod.snd = request.bytes → NoGap timing.interFrameTimeout none calls →
    outputs processByte (new timing) calls =
      List.replicate (request.bytes.length - 1) (.ok none) ++ [.ok (some request.frame)] ∧
    (final processByte (new timing) calls).partialFrame = []

theorem collect_unfinished {codec : StreamingRtuCodec} (idle : codec.inner.buffer = []) (now : Nat)
    (byte : UInt8) :
    (∀ frame, (collect codec now byte).1 ≠ .ok (some frame)) ∧
      (collect codec now byte).2.inner = codec.inner ∧
      (collect codec now byte).2.lastByteTime = some now := by
  have unknown : RtuCodec.estimateFrameLength codec.inner.buffer = none := by
    rw [idle]
    rfl
  simp only [collect, unknown, ite_self]
  split_ifs <;> simp

/-- The induction is on the calls; the inner codec stays as it is. -/
theorem no_frame_of_noGap {codec : StreamingRtuCodec} (idle : codec.inner.buffer = [])
    (calls : List (Nat × UInt8))
    (noGap : NoGap codec.inner.timing.interFrameTimeout codec.lastByteTime calls)
    (frame : RtuFrame) : .ok (some frame) ∉ outputs processByte codec calls := by
  induction calls generalizing codec with
  | nil => exact List.not_mem_nil
  | cons call calls ih =>
    obtain ⟨now, byte⟩ := call
    obtain ⟨close, later⟩ := noGap
    have step : processByte codec (now, byte) = collect codec now byte := by
      simp only [processByte, close, Bool.false_and, Bool.false_eq_true, if_false]
    obtain ⟨unfinished, inner, last⟩ := collect_unfinished idle now byte
    rw [outputs_cons, step, List.mem_cons, not_or]
    refine ⟨(unfinished frame).symm, ih ?_ ?_⟩
    · rw [inner, idle]
    · rw [inner, last]
      exact later

theorem noGap_at_once {timeout : Nat} (positive : 0 < timeout) (bytes : Bytes)
    (last : Option Nat) : NoGap timeout last (bytes.map (0, ·)) := by
  induction bytes generalizing last with
  | nil => trivial
  | cons byte bytes ih =>
    refine ⟨?_, ih _⟩
    cases last <;> simp [positive.ne']

/-- Only where any two bytes have a gap between them is there nothing to receive. -/
theorem receives_iff (timing : RtuTiming) (request : RequestFrame) :
    Receives timing request ↔ timing.interFrameTimeout = 0 := by
  constructor
  · intro receives
    by_contra positive
    have noGap := noGap_at_once (Nat.pos_of_ne_zero positive) request.bytes none
    have received := (receives _ (by simp) noGap).1
    apply @no_frame_of_noGap (new timing) rfl _ noGap request.frame
    simp [received]
  · intro zero calls sent noGap
    have long := congrArg List.length sent
    rw [List.length_map, request.length_bytes] at long
    match calls with
    | [] | [_] => simp at long
    | first :: second :: _ => simp [NoGap, zero] at noGap

/-- The length is estimated from a buffer that stays empty. -/
theorem read_not_received : NoGap 4010417 none (RtuCodec.readTen.bytes.map (0, ·)) ∧
      outputs processByte (new ⟨4010417⟩) (RtuCodec.readTen.bytes.map (0, ·)) =
        List.replicate 8 (.ok none) ∧
      ¬Receives ⟨4010417⟩ RtuCodec.readTen := by
  have noGap := @noGap_at_once 4010417 (by decide) RtuCodec.readTen.bytes none
  refine ⟨noGap, rfl, fun receives => ?_⟩
  cases (receives _ rfl noGap).1

end StreamingRtuCodec

end Mabinogion.Modbus
