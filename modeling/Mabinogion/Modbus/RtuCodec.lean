import Mabinogion.Modbus.RtuFrame

/-!
# The RTU codec

The codec tries one frame per call and does not try again before it is given more. So a chunk
that completes two frames delivers one of them, and the other waits for the next chunk.
-/

namespace Mabinogion.Modbus

open StreamDecoder RtuFrame
open List (append_nil length length_append)

structure RtuTiming where
  interFrameTimeout : Nat

inductive RtuDecodeState where
  | idle
  | receiving (lastByteTime : Nat) (expectedLength : Option Nat)
  | complete

structure RtuCodec where
  timing : RtuTiming
  state : RtuDecodeState
  buffer : Bytes
  strictTiming : Bool
  unitIdFilter : Option Bytes

def hexDigits (width value : Nat) : String :=
  String.ofList (((List.range width).reverse.map fun place =>
    Nat.digitChar (value / 16 ^ place % 16)).map Char.toUpper)

def RtuFrameError.message : RtuFrameError → String
  | .tooShort actual minimum =>
    "Frame too short: " ++ toString actual ++ " bytes (minimum " ++ toString minimum ++ ")"
  | .tooLong actual maximum =>
    "Frame too long: " ++ toString actual ++ " bytes (maximum " ++ toString maximum ++ ")"
  | .crcMismatch expected received =>
    "CRC mismatch: expected 0x" ++ hexDigits 4 expected.toNat ++ ", got 0x" ++
      hexDigits 4 received.toNat

namespace RtuCodec

def withTiming (timing : RtuTiming) : RtuCodec := ⟨timing, .idle, [], false, none⟩

def estimateFrameLength (buffer : Bytes) : Option Nat :=
  if buffer.length < 2 then none
  else
    let functionCode := buffer.getD 1 0
    if functionCode &&& 0x80 ≠ 0 then some 5
    else
      match functionCode with
      | 0x01 | 0x02 | 0x03 | 0x04 | 0x05 | 0x06 => some 8
      | 0x16 => some 10
      | 0x0F | 0x10 =>
        if buffer.length ≥ 7 then some (7 + (buffer.getD 6 0).toNat + 2) else none
      | 0x07 => some 4
      | 0x08 => some 8
      | 0x0B | 0x0C => some 4
      | 0x11 =>
        if buffer.length ≥ 3 then some (3 + (buffer.getD 2 0).toNat + 2) else none
      | 0x17 =>
        if buffer.length ≥ 11 then some (11 + (buffer.getD 10 0).toNat + 2) else none
      | _ => none

/-- The unit filter, which lets broadcasts pass. -/
def accepts (codec : RtuCodec) (frame : RtuFrame) : Bool :=
  match codec.unitIdFilter with
  | some filter => filter.contains frame.unitId || frame.unitId == 0
  | none => true

/-- Both arms for an error of the frame return its text. -/
def tryParseFrame (codec : RtuCodec) : Except ModbusError (Option RtuFrame) × RtuCodec :=
  if codec.buffer.length < rtuMinFrameSize then (.ok none, codec)
  else
    match estimateFrameLength codec.buffer with
    | some len =>
      if codec.buffer.length ≥ len then
        let idle := { codec with state := .idle, buffer := codec.buffer.drop len }
        match RtuFrame.decode (codec.buffer.take len) with
        | .ok frame => (.ok (if codec.accepts frame then some frame else none), idle)
        | .error error => (.error (.invalidData error.message), idle)
      else (.ok none, codec)
    | none =>
      if codec.buffer.length ≥ rtuMaxFrameSize then
        (.error (.invalidData "Unable to determine frame length, buffer overflow"),
          { codec with state := .idle, buffer := [] })
      else (.ok none, codec)

def checkFrameTimeout (now : Nat) (codec : RtuCodec) : Bool :=
  if !codec.strictTiming then false
  else
    match codec.state with
    | .receiving lastByteTime _ => decide (now - lastByteTime ≥ codec.timing.interFrameTimeout)
    | _ => false

/-- The part of `decode` behind the timeout: the source bytes are moved to the buffer. -/
def takeIn (now : Nat) (codec : RtuCodec) (src : Bytes) :
    Except ModbusError (Option RtuFrame) × RtuCodec × Bytes :=
  if src.isEmpty then (.ok none, codec, src)
  else
    let filled := codec.buffer ++ src
    let result := tryParseFrame
      { codec with buffer := filled, state := .receiving now (estimateFrameLength filled) }
    (result.1, result.2, [])

/-- The result, the codec and the source buffer after a call. -/
def decode (now : Nat) (codec : RtuCodec) (src : Bytes) :
    Except ModbusError (Option RtuFrame) × RtuCodec × Bytes :=
  if codec.checkFrameTimeout now && !codec.buffer.isEmpty then
    if decide (codec.buffer.length ≥ rtuMinFrameSize) && verifyCrc codec.buffer then
      let result := codec.tryParseFrame
      (result.1, result.2, src)
    else takeIn now { codec with buffer := [], state := .idle } src
  else takeIn now codec src

section

variable {now : Nat} {codec : RtuCodec} {src : Bytes}

theorem strictTiming_tryParseFrame (codec : RtuCodec) :
    codec.tryParseFrame.2.strictTiming = codec.strictTiming := by
  unfold tryParseFrame
  split
  · rfl
  · split
    · split
      · split <;> rfl
      · rfl
    · split <;> rfl

theorem strictTiming_takeIn (now : Nat) (codec : RtuCodec) (src : Bytes) :
    (takeIn now codec src).2.1.strictTiming = codec.strictTiming := by
  unfold takeIn
  split
  · rfl
  · exact strictTiming_tryParseFrame _

theorem strictTiming_decode (now : Nat) (codec : RtuCodec) (src : Bytes) :
    (decode now codec src).2.1.strictTiming = codec.strictTiming := by
  unfold decode
  split
  · split
    · exact strictTiming_tryParseFrame codec
    · exact strictTiming_takeIn _ _ _
  · exact strictTiming_takeIn _ _ _

theorem decode_untimed (untimed : codec.strictTiming = false) :
    decode now codec src = takeIn now codec src := by
  simp [decode, checkFrameTimeout, untimed]

end

/-- A codec without strict timing between two calls, and the number of calls before. -/
structure Polled where
  codec : RtuCodec
  untimed : codec.strictTiming = false
  calls : Nat

namespace Polled

def new (timing : RtuTiming) : Polled := ⟨withTiming timing, rfl, 0⟩

def after (clock : Nat → Nat) (polled : Polled) (src : Bytes) : Polled :=
  ⟨(decode (clock polled.calls) polled.codec src).2.1,
    (strictTiming_decode _ _ _).trans polled.untimed, polled.calls + 1⟩

/-- One call by the framed reader, which reads the clock at every call. -/
def poll (clock : Nat → Nat) (polled : Polled) (src : Bytes) : Step Polled RtuFrame ModbusError :=
  match decode (clock polled.calls) polled.codec src with
  | (.ok none, _, left) => .needMore (polled.after clock src) left
  | (.ok (some frame), _, left) => .frame frame (polled.after clock src) left
  | (.error error, _, _) => .failed error

variable {clock : Nat → Nat} {polled : Polled}

theorem poll_nil : polled.poll clock [] = .needMore (polled.after clock []) [] := by
  simp [poll, decode_untimed polled.untimed, takeIn]

theorem after_nil_codec : (polled.after clock []).codec = polled.codec := by
  simp [after, decode_untimed polled.untimed, takeIn]

/-- The codec that tries a frame once a chunk has been moved to its buffer. -/
def filled (clock : Nat → Nat) (polled : Polled) (src : Bytes) : RtuCodec :=
  { polled.codec with
    buffer := polled.codec.buffer ++ src
    state := .receiving (clock polled.calls)
      (estimateFrameLength (polled.codec.buffer ++ src)) }

theorem decode_filled {src : Bytes} (given : src ≠ []) :
    decode (clock polled.calls) polled.codec src =
      ((polled.filled clock src).tryParseFrame.1, (polled.filled clock src).tryParseFrame.2, []) := by
  have present : ¬src.isEmpty = true := by simpa using given
  rw [decode_untimed polled.untimed, takeIn, if_neg present]
  rfl

theorem poll_frame {src left : Bytes} {frame : RtuFrame} {next : Polled}
    (result : polled.poll clock src = .frame frame next left) : left.length < src.length := by
  by_cases given : src = []
  · rw [given, poll_nil] at result
    cases result
  · have nothing : left = [] := by
      rw [poll, decode_filled given] at result
      split at result
      · cases result
      · rename_i same
        cases result
        exact (Prod.mk.inj (Prod.mk.inj same).2).2.symm
      · cases result
    rw [nothing]
    exact List.length_pos_iff.mpr given

section

variable {src : Bytes} {next : RtuCodec}

theorem after_filled (given : src ≠ []) :
    (polled.after clock src).codec = (polled.filled clock src).tryParseFrame.2 := by
  show (decode (clock polled.calls) polled.codec src).2.1 = _
  rw [decode_filled given]

theorem poll_none (given : src ≠ [])
    (parsed : (polled.filled clock src).tryParseFrame = (.ok none, next)) :
    polled.poll clock src = .needMore (polled.after clock src) [] := by
  rw [poll, decode_filled given, parsed]

theorem poll_some {frame : RtuFrame} (given : src ≠ [])
    (parsed : (polled.filled clock src).tryParseFrame = (.ok (some frame), next)) :
    polled.poll clock src = .frame frame (polled.after clock src) [] := by
  rw [poll, decode_filled given, parsed]

end

end Polled

def reader (clock : Nat → Nat) : StreamDecoder Polled RtuFrame ModbusError :=
  ⟨Polled.poll clock, Polled.poll_frame⟩

end RtuCodec

/-- A request frame of one of the function codes, as long as its fields announce. -/
structure RequestFrame where
  unit : UInt8
  function : FunctionCode
  pdu : Bytes
  code : pdu.head? = some function.toU8
  whole : pdu.length = announcedLength function pdu
  fits : pdu.length ≤ rtuMaxPduSize

namespace RequestFrame

variable (request : RequestFrame)

def frame : RtuFrame := .new request.unit request.pdu

def bytes : Bytes := request.frame.encode

def stream (requests : List RequestFrame) : Bytes := requests.flatMap bytes

theorem stream_cons (requests : List RequestFrame) :
    stream (request :: requests) = request.bytes ++ stream requests := List.flatMap_cons

theorem length_bytes : request.bytes.length = request.pdu.length + 3 :=
  length_encode_new request.unit request.pdu

theorem five_le : 5 ≤ request.pdu.length := by
  rw [request.whole]
  cases request.function <;> simp only [announcedLength] <;> omega

theorem decode_bytes : decode request.bytes = .ok request.frame := by
  have filled : request.pdu ≠ [] := by
    intro empty
    have five := request.five_le
    rw [empty] at five
    simp at five
  exact decode_encode_new request.unit filled request.fits

variable {request} {data rest later : Bytes}

theorem code_received (received : data ++ rest = request.bytes ++ later)
    (long : 4 ≤ data.length) : data.getD 1 0 = request.function.toU8 := by
  have five := request.five_le
  rw [getD_received received (by omega) (by omega)]
  have head := request.code
  rw [List.head?_eq_getElem?] at head
  rw [List.getD_eq_getElem?_getD, head]
  rfl

theorem estimateFrameLength_received (received : data ++ rest = request.bytes ++ later)
    (long : 4 ≤ data.length) :
    RtuCodec.estimateFrameLength data = some request.bytes.length ∨
      RtuCodec.estimateFrameLength data = none ∧ data.length < request.bytes.length := by
  have code := code_received received long
  have size := request.whole
  have two : ¬data.length < 2 := by omega
  -- the byte count of a request stands in front of the data that it counts
  have counted (place : Nat)
      (behind : request.pdu.length = place + 1 + (request.pdu.getD place 0).toNat) :
      (if data.length ≥ place + 2 then some (place + 2 + (data.getD (place + 1) 0).toNat + 2)
        else none) = some request.bytes.length ∨
      (if data.length ≥ place + 2 then some (place + 2 + (data.getD (place + 1) 0).toNat + 2)
        else none) = none ∧ data.length < request.bytes.length := by
    rw [length_bytes]
    by_cases enough : data.length ≥ place + 2
    · have same : data.getD (place + 1) 0 = request.pdu.getD place 0 :=
        getD_received received (by omega) (by omega)
      rw [if_pos enough, same]
      exact Or.inl (congrArg some (by omega))
    · rw [if_neg enough]
      exact Or.inr ⟨rfl, by omega⟩
  unfold RtuCodec.estimateFrameLength
  rw [if_neg two, code]
  cases function : request.function with
  | writeMultipleCoils | writeMultipleRegisters =>
    rw [function] at size
    exact counted 5 size
  | readWriteMultipleRegisters =>
    rw [function] at size
    exact counted 9 size
  | _ =>
    rw [function] at size
    rw [length_bytes, size]
    exact Or.inl rfl

end RequestFrame

namespace RtuCodec

open RequestFrame

section

variable {codec : RtuCodec} {request : RequestFrame} {rest later : Bytes}

theorem tryParseFrame_front (received : codec.buffer ++ rest = request.bytes ++ later)
    (missing : codec.buffer.length < request.bytes.length) :
    codec.tryParseFrame = (.ok none, codec) := by
  unfold tryParseFrame
  by_cases short : codec.buffer.length < rtuMinFrameSize
  · rw [if_pos short]
  · rw [if_neg short]
    have small : ¬codec.buffer.length ≥ rtuMaxFrameSize := by
      have fits := request.fits
      have size := request.length_bytes
      rw [rtuMaxPduSize] at fits
      rw [rtuMaxFrameSize]
      omega
    rcases estimateFrameLength_received received (not_lt.mp short) with known | ⟨unknown, _⟩
    · rw [known]
      exact if_neg (not_le.mpr missing)
    · rw [unknown]
      exact if_neg small

theorem tryParseFrame_whole (unfiltered : codec.unitIdFilter = none)
    (received : codec.buffer = request.bytes ++ rest) :
    codec.tryParseFrame =
      (.ok (some request.frame), { codec with state := .idle, buffer := rest }) := by
  have five := request.five_le
  have size := request.length_bytes
  have enough : request.bytes.length ≤ codec.buffer.length := by
    rw [received, length_append]
    omega
  have short : ¬codec.buffer.length < rtuMinFrameSize := by
    rw [rtuMinFrameSize]
    omega
  have behind : codec.buffer ++ [] = request.bytes ++ rest := by rw [append_nil, received]
  have known : estimateFrameLength codec.buffer = some request.bytes.length := by
    rcases estimateFrameLength_received behind (not_lt.mp short) with known | ⟨_, missing⟩
    · exact known
    · omega
  have taken : codec.buffer.take request.bytes.length = request.bytes := by
    rw [received, List.take_left]
  have left : codec.buffer.drop request.bytes.length = rest := by
    rw [received, List.drop_left]
  unfold tryParseFrame
  rw [if_neg short, known]
  simp only [ge_iff_le, enough, if_true, taken, left, decode_bytes, accepts, unfiltered]

end

section

variable {clock : Nat → Nat} {polled : Polled} {chunk : Bytes} {request : RequestFrame}

/-- What a chunk did: the frames that it delivered, and what the codec holds now. -/
def Drains (clock : Nat → Nat) (polled : Polled) (chunk : Bytes) (frames : List RtuFrame)
    (held : Bytes) : Prop :=
  ∃ next : Polled, (reader clock).drain polled chunk = ⟨frames, .ok (next, [])⟩ ∧
    next.codec.unitIdFilter = none ∧ next.codec.buffer = held

theorem drains_nil (unfiltered : polled.codec.unitIdFilter = none) :
    Drains clock polled [] [] polled.codec.buffer := by
  refine ⟨polled.after clock [], drain_needMore (reader clock) Polled.poll_nil, ?_, ?_⟩
  · rw [Polled.after_nil_codec, unfiltered]
  · rw [Polled.after_nil_codec]

theorem drains_front {rest later : Bytes} (unfiltered : polled.codec.unitIdFilter = none)
    (given : chunk ≠ []) (received : polled.codec.buffer ++ chunk ++ rest = request.bytes ++ later)
    (missing : (polled.codec.buffer ++ chunk).length < request.bytes.length) :
    Drains clock polled chunk [] (polled.codec.buffer ++ chunk) := by
  have parsed : (polled.filled clock chunk).tryParseFrame = (.ok none, polled.filled clock chunk) :=
    tryParseFrame_front received missing
  refine ⟨polled.after clock chunk,
    drain_needMore (reader clock) (Polled.poll_none given parsed), ?_, ?_⟩
  · rw [Polled.after_filled given, parsed]
    exact unfiltered
  · rw [Polled.after_filled given, parsed]
    rfl

/-- A complete frame is delivered. The calls end there: the source is empty, and what is behind
the frame is not looked at. -/
theorem drains_whole {rest : Bytes} (unfiltered : polled.codec.unitIdFilter = none)
    (given : chunk ≠ []) (received : polled.codec.buffer ++ chunk = request.bytes ++ rest) :
    Drains clock polled chunk [request.frame] rest := by
  have parsed := @tryParseFrame_whole (polled.filled clock chunk) request rest unfiltered received
  have last := drain_needMore (reader clock) (@Polled.poll_nil clock (polled.after clock chunk))
  refine ⟨(polled.after clock chunk).after clock [], ?_, ?_, ?_⟩
  · rw [drain_frame (reader clock) (Polled.poll_some given parsed), last]
  · rw [Polled.after_nil_codec, Polled.after_filled given, parsed]
    exact unfiltered
  · rw [Polled.after_nil_codec, Polled.after_filled given, parsed]

theorem feed_drains {frames : List RtuFrame} {held : Bytes}
    (drains : Drains clock polled chunk frames held) :
    ∃ next : Polled, next.codec.unitIdFilter = none ∧ next.codec.buffer = held ∧
      ∀ chunks, (reader clock).feed (polled, []) (chunk :: chunks) =
        ⟨frames ++ ((reader clock).feed (next, []) chunks).frames,
          ((reader clock).feed (next, []) chunks).left⟩ := by
  obtain ⟨next, drained, unfiltered, buffer⟩ := drains
  refine ⟨next, unfiltered, buffer, fun chunks => ?_⟩
  rw [feed, List.nil_append, drained]

end

/-- The frames whose last byte is among the first bytes of a stream. -/
def arrived : List RequestFrame → Nat → List RtuFrame
  | [], _ => []
  | request :: requests, received =>
    if request.bytes.length ≤ received then
      request.frame :: arrived requests (received - request.bytes.length)
    else []

/-- In order, each frame no later than the chunk with its last byte. What is held was received. -/
def DeliveredInTime (clock : Nat → Nat) (polled : Polled) (requests : List RequestFrame)
    (chunks : List Bytes) : Prop :=
  (∃ left, (reader clock).feed (polled, []) chunks = ⟨requests.map frame, .ok left⟩) ∧
  ∀ count, arrived requests (polled.codec.buffer.length + (chunks.take count).flatten.length) <+:
    ((reader clock).feed (polled, []) (chunks.take count)).frames

/-- No chunk completes two frames. -/
def OneAtATime (held : Nat) (requests : List RequestFrame) (chunks : List Bytes) : Prop :=
  ∀ count < chunks.length,
    (arrived requests (held + (chunks.take (count + 1)).flatten.length)).length ≤
      (arrived requests (held + (chunks.take count).flatten.length)).length + 1

section

variable {clock : Nat → Nat} {polled : Polled} {request : RequestFrame}
  {requests : List RequestFrame} {chunk : Bytes} {chunks : List Bytes}

theorem arrived_behind (received : Nat) :
    arrived (request :: requests) (request.bytes.length + received) =
      request.frame :: arrived requests received := by
  rw [arrived, if_pos (Nat.le_add_right _ _), Nat.add_sub_cancel_left]

theorem oneAtATime_cons {held : Nat} (quiet : arrived requests held = []) :
    OneAtATime held requests (chunk :: chunks) ↔
      (arrived requests (held + chunk.length)).length ≤ 1 ∧
        OneAtATime (held + chunk.length) requests chunks := by
  constructor
  · intro slow
    refine ⟨?_, fun count inside => ?_⟩
    · have first := slow 0 (by simp)
      simpa [quiet] using first
    · have next := slow (count + 1) (by simpa using inside)
      simpa [add_assoc] using next
  · rintro ⟨first, slow⟩ count inside
    cases count with
    | zero => simpa [quiet] using first
    | succ count =>
      have next := slow count (by simpa using inside)
      simpa [add_assoc] using next

theorem oneAtATime_behind {held : Nat} :
    OneAtATime (request.bytes.length + held) (request :: requests) chunks ↔
      OneAtATime held requests chunks := by
  simp [OneAtATime, add_assoc, arrived_behind]

theorem DeliveredInTime.quiet (delivered : DeliveredInTime clock polled requests chunks) :
    arrived requests polled.codec.buffer.length = [] := by
  have start := delivered.2 0
  simpa [feed] using start

theorem deliveredInTime_cons {frames : List RtuFrame} {held : Bytes}
    {later : List RequestFrame} (quiet : arrived requests polled.codec.buffer.length = [])
    (drains : Drains clock polled chunk frames held)
    (sent : requests.map frame = frames ++ later.map frame)
    (front : ∀ more, arrived requests (polled.codec.buffer.length + (chunk.length + more)) =
      frames ++ arrived later (held.length + more)) :
    ∃ next : Polled, next.codec.unitIdFilter = none ∧ next.codec.buffer = held ∧
      (DeliveredInTime clock polled requests (chunk :: chunks) ↔
        DeliveredInTime clock next later chunks) := by
  obtain ⟨next, unfiltered, buffer, feeds⟩ := feed_drains drains
  refine ⟨next, unfiltered, buffer, and_congr ?_ ⟨fun timely count => ?_, fun timely count => ?_⟩⟩
  · rw [feeds, sent]
    cases (reader clock).feed (next, []) chunks with
    | mk => simp
  · have next := timely (count + 1)
    rw [List.take_succ_cons, feeds] at next
    simpa [front, buffer] using next
  · cases count with
    | zero => simp [quiet]
    | succ count =>
      have next := timely count
      rw [List.take_succ_cons, feeds]
      simpa [front, buffer] using next

theorem drains_waiting {rest : Bytes} (unfiltered : polled.codec.unitIdFilter = none)
    (sent : polled.codec.buffer ++ chunk ++ rest = stream requests)
    (waits : arrived requests (polled.codec.buffer ++ chunk).length = []) :
    Drains clock polled chunk [] (polled.codec.buffer ++ chunk) := by
  by_cases given : chunk = []
  · rw [given, append_nil]
    exact drains_nil unfiltered
  · cases requests with
    | nil =>
      have empty : chunk = [] := by simp_all [stream]
      exact absurd empty given
    | cons =>
      rw [stream_cons] at sent
      refine drains_front unfiltered given sent ?_
      by_contra complete
      rw [arrived, if_pos (not_lt.mp complete)] at waits
      cases waits

theorem exists_rest_of_arrived {data rest : Bytes}
    (sent : data ++ rest = stream (request :: requests))
    (complete : arrived (request :: requests) data.length ≠ []) :
    ∃ left, data = request.bytes ++ left ∧ left ++ rest = stream requests := by
  have enough : request.bytes.length ≤ data.length := by
    by_contra short
    exact complete (by rw [arrived, if_neg short])
  rw [stream_cons] at sent
  obtain ⟨left, split⟩ := List.prefix_of_prefix_length_le (List.prefix_append _ _)
    (sent ▸ List.prefix_append data rest) enough
  refine ⟨left, split.symm, ?_⟩
  rw [← split, List.append_assoc] at sent
  exact List.append_cancel_left sent

theorem deliveredInTime_iff (chunks : List Bytes) (polled : Polled)
    (requests : List RequestFrame) (unfiltered : polled.codec.unitIdFilter = none)
    (sent : polled.codec.buffer ++ chunks.flatten = stream requests)
    (quiet : arrived requests polled.codec.buffer.length = []) :
    DeliveredInTime clock polled requests chunks ↔
      OneAtATime polled.codec.buffer.length requests chunks := by
  induction chunks generalizing polled requests with
  | nil =>
    have none_sent : requests = [] := by
      cases requests with
      | nil => rfl
      | cons =>
        rw [List.flatten_nil, append_nil, stream_cons] at sent
        rw [sent, length_append, arrived_behind] at quiet
        cases quiet
    subst none_sent
    refine iff_of_true ⟨⟨(polled, []), rfl⟩, fun count => ?_⟩ (fun count inside => ?_)
    · simp [arrived]
    · simp at inside
  | cons chunk chunks ih =>
    rw [List.flatten_cons, ← List.append_assoc] at sent
    rw [oneAtATime_cons quiet, ← length_append]
    by_cases waits : arrived requests (polled.codec.buffer ++ chunk).length = []
    · have drains := @drains_waiting clock _ _ _ _ unfiltered sent waits
      obtain ⟨next, free, buffer, shift⟩ := @deliveredInTime_cons _ _ _ _ chunks _ _ requests
        quiet drains rfl (by simp [add_assoc])
      rw [shift, ← buffer, ih next requests free (buffer ▸ sent) (buffer ▸ waits), buffer, waits]
      simp
    · cases requests with
      | nil => exact absurd rfl waits
      | cons request requests =>
        obtain ⟨rest, received, behind⟩ := exists_rest_of_arrived sent waits
        have given : chunk ≠ [] := by
          rintro rfl
          rw [append_nil] at waits
          exact waits quiet
        have drains := @drains_whole clock _ _ _ _ unfiltered given received
        have sizes := congrArg length received
        rw [length_append, length_append] at sizes
        obtain ⟨next, free, buffer, shift⟩ := @deliveredInTime_cons _ _ _ _ chunks _ _ requests
          quiet drains rfl fun more => by
            rw [← add_assoc, sizes, add_assoc, arrived_behind, List.singleton_append]
        have count : (arrived (request :: requests)
            (polled.codec.buffer ++ chunk).length).length ≤ 1 ↔
            arrived requests next.codec.buffer.length = [] := by
          rw [received, length_append, arrived_behind, buffer]
          simp
        rw [shift, count, received, length_append, oneAtATime_behind, ← buffer]
        -- a second complete frame would be late, and it would be one too many
        constructor
        · intro delivered
          exact ⟨delivered.quiet,
            (ih next requests free (buffer ▸ behind) delivered.quiet).mp delivered⟩
        · rintro ⟨later, slow⟩
          exact (ih next requests free (buffer ▸ behind) later).mpr slow

end

/-- A stream of request frames in chunks is delivered in time exactly if no chunk completes two of
them. -/
theorem frames_delivered_iff (clock : Nat → Nat) (timing : RtuTiming) (requests : List RequestFrame)
    (chunks : List Bytes) (sent : chunks.flatten = stream requests) :
    DeliveredInTime clock (Polled.new timing) requests chunks ↔ OneAtATime 0 requests chunks := by
  have quiet : arrived requests 0 = [] := by
    cases requests with
    | nil => rfl
    | cons request =>
      have size := request.length_bytes
      rw [arrived, if_neg (by omega)]
  exact deliveredInTime_iff chunks (Polled.new timing) requests rfl sent quiet

def readTen : RequestFrame :=
  ⟨1, .readHoldingRegisters, [3, 0, 0, 0, 10], rfl, rfl, Nat.le_of_ble_eq_true rfl⟩

theorem frames_delivered_in_three_chunks :
    DeliveredInTime id (Polled.new ⟨4010417⟩) [readTen, readTen]
      [[1, 3, 0, 0], [0, 10, 0xC5, 0xCD, 1, 3, 0, 0], [0, 10, 0xC5, 0xCD]] := by
  refine (frames_delivered_iff id ⟨4010417⟩ [readTen, readTen] _ ?_).mpr ?_
  · decide +kernel
  · unfold OneAtATime
    decide +kernel

/-- The second frame stays in the codec's own buffer. -/
theorem frame_not_delivered : [readTen.bytes ++ readTen.bytes].flatten = stream [readTen, readTen] ∧
      ((reader id).feed (Polled.new ⟨4010417⟩, []) [readTen.bytes ++ readTen.bytes]).frames =
        [readTen.frame] ∧
      ¬DeliveredInTime id (Polled.new ⟨4010417⟩) [readTen, readTen]
        [readTen.bytes ++ readTen.bytes] := by
  have given : readTen.bytes ++ readTen.bytes ≠ [] := by decide +kernel
  have drains : Drains id (Polled.new ⟨4010417⟩) (readTen.bytes ++ readTen.bytes)
      [readTen.frame] readTen.bytes := drains_whole rfl given rfl
  obtain ⟨next, _, _, feeds⟩ := feed_drains drains
  have frames : ((reader id).feed (Polled.new ⟨4010417⟩, [])
      [readTen.bytes ++ readTen.bytes]).frames = [readTen.frame] := by
    rw [feeds]
    rfl
  refine ⟨by simp [stream], frames, fun delivered => ?_⟩
  obtain ⟨⟨left, all⟩, _⟩ := delivered
  rw [all] at frames
  simp at frames

end RtuCodec

end Mabinogion.Modbus
