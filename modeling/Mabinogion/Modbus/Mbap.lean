import Mabinogion.Library.ByteCursor
import Mabinogion.Library.StreamDecoder

/-!
# Modbus TCP frames

The header in front of each request and response, and the codec that cuts frames
out of a TCP stream. The codec looks at a header before the rest has arrived and
keeps it until then.
-/

namespace Mabinogion.Modbus

open ByteCursor StreamDecoder List UInt16

def mbapHeaderSize : Nat := 7

def maxMbapLength : UInt16 := 253

def maxPduSize : Nat := 253

inductive ModbusError where
  | invalidFunction (function : UInt8)
  | invalidAddress (address max : UInt16)
  | invalidQuantity (quantity max : UInt16)
  | invalidData (message : String)

abbrev Fallible (State : Type) : Type → Type := Checked State ModbusError

structure MbapHeader where
  transactionId : UInt16
  protocolId : UInt16
  length : UInt16
  unitId : UInt8

namespace MbapHeader

def new (transactionId : UInt16) (unitId : UInt8) (pduLength : Nat) : MbapHeader :=
  ⟨transactionId, 0, UInt16.ofNat (pduLength + 1), unitId⟩

def parse : Bytes → Except ModbusError MbapHeader
  | t0 :: t1 :: p0 :: p1 :: l0 :: l1 :: unitId :: _ =>
    let protocolId := u16Of p0 p1
    let length := u16Of l0 l1
    if protocolId ≠ 0 then
      .error (.invalidData
        ("Invalid protocol ID: " ++ toString protocolId.toNat ++ " (expected 0)"))
    else if length = 0 ∨ length > maxMbapLength then
      .error (.invalidData ("Invalid MBAP length: " ++ toString length.toNat ++
        " (expected 1-" ++ toString maxMbapLength.toNat ++ ")"))
    else .ok ⟨u16Of t0 t1, protocolId, length, unitId⟩
  | bytes =>
    .error (.invalidData ("MBAP header too short: " ++ toString bytes.length ++
      " bytes (expected " ++ toString mbapHeaderSize ++ ")"))

variable (header : MbapHeader)

def encode : Bytes :=
  putU16 header.transactionId ++ putU16 header.protocolId ++ putU16 header.length ++ [header.unitId]

def pduLength : Nat := header.length.toNat - 1

def totalFrameLength : Nat := mbapHeaderSize + header.pduLength

end MbapHeader

open MbapHeader

structure MbapFrame where
  header : MbapHeader
  pdu : Bytes

namespace MbapFrame

def new (transactionId : UInt16) (unitId : UInt8) (pdu : Bytes) : MbapFrame :=
  ⟨.new transactionId unitId pdu.length, pdu⟩

def encode (frame : MbapFrame) : Bytes := frame.header.encode ++ frame.pdu

end MbapFrame

inductive DecodeState where
  | waitingForHeader
  | waitingForPdu (header : MbapHeader)

variable {frames : List MbapFrame}

namespace MbapCodec

/-- The loop once the header is known. -/
def decodePdu (header : MbapHeader) (src : Bytes) : Step DecodeState MbapFrame ModbusError :=
  if src.length < header.totalFrameLength then .needMore (.waitingForPdu header) src
  else
    .frame ⟨header, (src.drop mbapHeaderSize).take header.pduLength⟩ .waitingForHeader
      ((src.drop mbapHeaderSize).drop header.pduLength)

/-- The header at the front of a buffer, with the checks of the length that it announces. -/
def peekHeader (src : Bytes) : Except ModbusError MbapHeader :=
  match parse (src.take mbapHeaderSize) with
  | .error error => .error error
  | .ok header =>
    if header.pduLength = 0 then .error (.invalidData "PDU length cannot be zero")
    else if header.pduLength > maxPduSize then
      .error (.invalidData ("PDU length too large: " ++ toString header.pduLength ++
        " (max " ++ toString maxPduSize ++ ")"))
    else .ok header

def decode : DecodeState → Bytes → Step DecodeState MbapFrame ModbusError
  | .waitingForHeader, src =>
    if src.length < mbapHeaderSize then .needMore .waitingForHeader src
    else
      match peekHeader src with
      | .error error => .failed error
      | .ok header => decodePdu header src
  | .waitingForPdu header, src => decodePdu header src

def encode (item : MbapFrame) (dst : Bytes) : Except ModbusError Bytes :=
  if item.pdu.isEmpty then .error (.invalidData "PDU cannot be empty")
  else if item.pdu.length > maxPduSize then
    .error (.invalidData ("PDU too large: " ++ toString item.pdu.length ++
      " (max " ++ toString maxPduSize ++ ")"))
  else .ok (dst ++ item.encode)

def encodeAll (frames : List MbapFrame) : Except ModbusError Bytes :=
  frames.foldlM (fun dst item => encode item dst) []

section

variable {header : MbapHeader} {src : Bytes}

theorem decodePdu_short (short : src.length < header.totalFrameLength) :
    decodePdu header src = .needMore (.waitingForPdu header) src :=
  if_pos short

theorem decodePdu_append (complete : header.totalFrameLength ≤ src.length) (more : Bytes) :
    decodePdu header (src ++ more) =
      .frame ⟨header, (src.drop mbapHeaderSize).take header.pduLength⟩ .waitingForHeader
        ((src.drop mbapHeaderSize).drop header.pduLength ++ more) := by
  have total : mbapHeaderSize + header.pduLength ≤ src.length := complete
  have inside : mbapHeaderSize ≤ src.length := by omega
  have pduInside : header.pduLength ≤ (src.drop mbapHeaderSize).length := by
    rw [length_drop]
    omega
  have longer : ¬(src ++ more).length < header.totalFrameLength := by
    rw [length_append]
    omega
  rw [decodePdu, if_neg longer, drop_append_of_le_length inside,
    take_append_of_le_length pduInside, drop_append_of_le_length pduInside]

theorem peekHeader_append (enough : mbapHeaderSize ≤ src.length) (more : Bytes) :
    peekHeader (src ++ more) = peekHeader src := by
  rw [peekHeader, peekHeader, take_append_of_le_length enough]

theorem settles_of_known {state : DecodeState}
    (known : ∀ more, decode state (src ++ more) = decodePdu header (src ++ more)) :
    Settles decode state src := by
  by_cases short : src.length < header.totalFrameLength
  · have now := known []
    rw [append_nil, decodePdu_short short] at now
    exact .waits _ _ now known
  · have complete : header.totalFrameLength ≤ src.length := Nat.not_lt.mp short
    have total : mbapHeaderSize + header.pduLength ≤ src.length := complete
    refine .delivers _ _ _ ?_ fun more => (known more).trans (decodePdu_append complete more)
    rw [length_drop, length_drop]
    rw [mbapHeaderSize] at total ⊢
    omega

theorem decode_settles (state : DecodeState) (src : Bytes) : Settles decode state src := by
  cases state with
  | waitingForPdu => exact settles_of_known fun _ => rfl
  | waitingForHeader =>
    by_cases short : src.length < mbapHeaderSize
    · exact .waits _ _ (if_pos short) fun _ => rfl
    · have enough : mbapHeaderSize ≤ src.length := Nat.not_lt.mp short
      have unfolded (more : Bytes) : decode .waitingForHeader (src ++ more) =
          match peekHeader src with
          | .error error => .failed error
          | .ok header => decodePdu header (src ++ more) := by
        have longer : ¬(src ++ more).length < mbapHeaderSize := by
          rw [length_append]
          omega
        rw [decode, if_neg longer, peekHeader_append enough]
      cases peeked : peekHeader src with
      | error error =>
        rw [peeked] at unfolded
        exact .fails error unfolded
      | ok =>
        rw [peeked] at unfolded
        exact settles_of_known unfolded

end

def codec : StreamDecoder DecodeState MbapFrame ModbusError where
  decode
  consumes := (decode_settles _ _).consumes

theorem codec_incremental : codec.Incremental := decode_settles

section

variable {frame : MbapFrame} {dst : Bytes} (header : MbapHeader) {stream : Bytes}

theorem header_encode_length : header.encode.length = mbapHeaderSize := rfl

theorem parse_encode (known : header.protocolId = 0) : parse header.encode =
      if header.length = 0 ∨ header.length > maxMbapLength then
        .error (.invalidData ("Invalid MBAP length: " ++ toString header.length.toNat ++
          " (expected 1-" ++ toString maxMbapLength.toNat ++ ")"))
      else .ok header := by
  rcases exists_u16Of header.transactionId with ⟨t0, t1, transaction, transactionRead⟩
  rcases exists_u16Of header.protocolId with ⟨p0, p1, protocol, protocolRead⟩
  rcases exists_u16Of header.length with ⟨l0, l1, length, lengthRead⟩
  rw [MbapHeader.encode, transaction, protocol, length]
  simp only [cons_append, nil_append, parse, transactionRead, protocolRead,
    lengthRead, known, ne_eq, not_true_eq_false, if_false]
  rw [← known]

def Built (frame : MbapFrame) : Prop :=
  frame = .new frame.header.transactionId frame.header.unitId frame.pdu

theorem Built.protocolId (built : Built frame) : frame.header.protocolId = 0 := by
  rw [built]
  rfl

theorem Built.length (built : Built frame) (accepted : frame.pdu.length ≤ maxPduSize) :
    frame.header.length.toNat = frame.pdu.length + 1 := by
  have fits : frame.pdu.length + 1 < size := by
    rw [maxPduSize] at accepted
    have wide : size = 65536 := rfl
    omega
  rw [built]
  exact toNat_ofNat_of_lt' fits

/-- Taken unless the PDU has the largest size: the length in the header counts the unit as well. -/
theorem peekHeader_frame (built : Built frame) (filled : frame.pdu ≠ [])
    (accepted : frame.pdu.length ≤ maxPduSize) (rest : Bytes) :
    peekHeader (frame.encode ++ rest) = if frame.pdu.length < maxPduSize then .ok frame.header
      else .error (.invalidData "Invalid MBAP length: 254 (expected 1-253)") := by
  have size := built.length accepted
  have positive : 0 < frame.pdu.length := length_pos_iff.mpr filled
  have front : (frame.encode ++ rest).take mbapHeaderSize = frame.header.encode := by
    rw [MbapFrame.encode, append_assoc, ← header_encode_length frame.header, take_left]
  have nonzero : frame.header.length ≠ 0 := by
    intro zero
    rw [zero] at size
    cases size
  rw [peekHeader, front, parse_encode _ built.protocolId]
  by_cases fits : frame.pdu.length < maxPduSize
  · have within : ¬frame.header.length > maxMbapLength := by
      rw [gt_iff_lt, lt_iff_toNat_lt, size]
      exact Nat.not_lt.mpr fits
    have length : frame.header.pduLength = frame.pdu.length := by
      rw [pduLength, size, Nat.add_sub_cancel]
    rw [if_neg (not_or.mpr ⟨nonzero, within⟩), if_pos fits]
    simp only [length]
    rw [if_neg positive.ne', if_neg (Nat.not_lt.mpr accepted)]
  · have exactly : frame.header.length.toNat = 254 := by
      rw [size, Nat.le_antisymm accepted (Nat.not_lt.mp fits)]
      rfl
    have above : frame.header.length > maxMbapLength := by
      rw [gt_iff_lt, lt_iff_toNat_lt, exactly]
      decide
    rw [if_pos (Or.inr above), if_neg fits, exactly]
    rfl

theorem decode_frame (built : Built frame) (filled : frame.pdu ≠ [])
    (accepted : frame.pdu.length < maxPduSize) (rest : Bytes) :
    codec.decode .waitingForHeader (frame.encode ++ rest) =
      .frame frame .waitingForHeader rest := by
  have length : frame.header.pduLength = frame.pdu.length := by
    rw [pduLength, built.length accepted.le, Nat.add_sub_cancel]
  have behind : frame.encode.drop mbapHeaderSize = frame.pdu := by
    rw [MbapFrame.encode, ← header_encode_length frame.header, drop_left]
  have size : frame.encode.length = frame.header.totalFrameLength := by
    rw [MbapFrame.encode, length_append, header_encode_length, ← length]
    rfl
  have long : ¬(frame.encode ++ rest).length < mbapHeaderSize := by
    rw [length_append, size, totalFrameLength]
    omega
  show decode .waitingForHeader (frame.encode ++ rest) = _
  rw [decode, if_neg long, peekHeader_frame built filled accepted.le, if_pos accepted]
  show decodePdu frame.header (frame.encode ++ rest) = _
  rw [decodePdu_append size.ge, behind, length, take_length, drop_length, nil_append]

theorem decode_largest_frame (built : Built frame) (largest : frame.pdu.length = maxPduSize)
    (rest : Bytes) :
    codec.decode .waitingForHeader (frame.encode ++ rest) =
      .failed (.invalidData "Invalid MBAP length: 254 (expected 1-253)") := by
  have filled : frame.pdu ≠ [] := by
    intro empty
    rw [empty] at largest
    cases largest
  have long : ¬(frame.encode ++ rest).length < mbapHeaderSize := by
    rw [MbapFrame.encode, length_append, length_append, header_encode_length]
    omega
  show decode .waitingForHeader (frame.encode ++ rest) = _
  rw [decode, if_neg long, peekHeader_frame built filled largest.le,
    if_neg (Nat.not_lt.mpr largest.ge)]

theorem drain_nil : codec.drain .waitingForHeader [] = ⟨[], .ok (.waitingForHeader, [])⟩ :=
  drain_needMore codec rfl

theorem encode_eq_ok : encode frame dst = .ok stream ↔
      frame.pdu ≠ [] ∧ frame.pdu.length ≤ maxPduSize ∧ stream = dst ++ frame.encode := by
  unfold encode
  by_cases empty : frame.pdu = []
  · rw [if_pos (isEmpty_iff.mpr empty)]
    exact iff_of_false (fun equal => nomatch equal) (fun filled => filled.1 empty)
  · rw [if_neg (fun nothing => empty (isEmpty_iff.mp nothing))]
    by_cases large : frame.pdu.length > maxPduSize
    · rw [if_pos large]
      exact iff_of_false (fun equal => nomatch equal) (fun small => Nat.not_lt.mpr small.2.1 large)
    · rw [if_neg large, Except.ok.injEq]
      constructor
      · intro same
        exact ⟨empty, Nat.not_lt.mp large, same.symm⟩
      · intro encoded
        exact encoded.2.2.symm

theorem foldlM_encode
    (accepted : frames.foldlM (fun dst item => encode item dst) dst = .ok stream) :
    (∀ frame ∈ frames, frame.pdu ≠ [] ∧ frame.pdu.length ≤ maxPduSize) ∧ stream =
      dst ++ (frames.map MbapFrame.encode).flatten := by
  induction frames generalizing dst with
  | nil =>
    cases accepted
    exact ⟨(fun _ listed => nomatch listed), (append_nil _).symm⟩
  | cons frame frames ih =>
    rw [foldlM_cons] at accepted
    cases first : encode frame dst with
    | error =>
      rw [first] at accepted
      cases accepted
    | ok =>
      rw [first] at accepted
      rcases encode_eq_ok.mp first with ⟨filled, small, grown⟩
      rcases ih accepted with ⟨others, whole⟩
      constructor
      · intro other listed
        rcases mem_cons.mp listed with here | later
        · rw [here]
          exact ⟨filled, small⟩
        · exact others other later
      · rw [whole, grown, append_assoc, map_cons, flatten_cons]

theorem encodeAll_eq_ok (accepted : encodeAll frames = .ok stream) :
    (∀ frame ∈ frames, frame.pdu ≠ [] ∧ frame.pdu.length ≤ maxPduSize) ∧ stream =
      (frames.map MbapFrame.encode).flatten :=
  foldlM_encode accepted

theorem drain_frames (built : ∀ frame ∈ frames, Built frame)
    (filled : ∀ frame ∈ frames, frame.pdu ≠ [])
    (small : ∀ frame ∈ frames, frame.pdu.length < maxPduSize) :
    codec.drain .waitingForHeader (frames.map MbapFrame.encode).flatten =
      ⟨frames, .ok (.waitingForHeader, [])⟩ := by
  induction frames with
  | nil => exact drain_nil
  | cons frame frames ih =>
    rw [forall_mem_cons] at built filled small
    rw [map_cons, flatten_cons, drain_frame codec (decode_frame built.1 filled.1 small.1 _),
      ih built.2 filled.2 small.2]

theorem drain_largest (built : ∀ frame ∈ frames, Built frame)
    (accepted : ∀ frame ∈ frames, frame.pdu ≠ [] ∧ frame.pdu.length ≤ maxPduSize)
    (largest : ∃ frame ∈ frames, frame.pdu.length = maxPduSize) :
    (codec.drain .waitingForHeader (frames.map MbapFrame.encode).flatten).left =
      .error (.invalidData "Invalid MBAP length: 254 (expected 1-253)") := by
  induction frames with
  | nil =>
    rcases largest with ⟨_, listed, _⟩
    cases listed
  | cons frame frames ih =>
    rw [forall_mem_cons] at built accepted
    rw [map_cons, flatten_cons]
    by_cases here : frame.pdu.length = maxPduSize
    · rw [drain_failed codec (decode_largest_frame built.1 here _)]
    · have smaller : frame.pdu.length < maxPduSize := lt_of_le_of_ne accepted.1.2 here
      rw [drain_frame codec (decode_frame built.1 accepted.1.1 smaller _)]
      apply ih built.2 accepted.2
      rcases largest with ⟨other, listed, size⟩
      rcases mem_cons.mp listed with same | later
      · rw [same] at size
        exact absurd size here
      · exact ⟨other, later, size⟩

/-- The frames are all decoded exactly if no PDU has the largest size that the encoder takes. -/
theorem stream_read_back_iff (frames : List MbapFrame) (built : ∀ frame ∈ frames, Built frame)
    (pieces : List Bytes) (sent : encodeAll frames = .ok pieces.flatten) :
    codec.feed (.waitingForHeader, []) pieces = ⟨frames, .ok (.waitingForHeader, [])⟩ ↔
      ∀ frame ∈ frames, frame.pdu.length < maxPduSize := by
  rcases encodeAll_eq_ok sent with ⟨accepted, stream⟩
  rw [codec_incremental.feed_eq pieces drain_nil, nil_append, stream]
  constructor
  · intro decoded frame listed
    apply lt_of_le_of_ne (accepted frame listed).2
    intro size
    have failed := drain_largest built accepted ⟨frame, listed, size⟩
    rw [decoded] at failed
    cases failed
  · intro small
    exact drain_frames built (fun frame listed => (accepted frame listed).1) small

/-- Two frames in three pieces. -/
theorem frames_cut_within_header : encodeAll [.new 1 1 [3, 0], .new 2 1 [4]] =
        .ok [[0, 1, 0], [0, 0, 3, 1, 3, 0, 0, 2], [0, 0, 0, 2, 1, 4]].flatten ∧
      codec.feed (.waitingForHeader, []) [[0, 1, 0], [0, 0, 3, 1, 3, 0, 0, 2], [0, 0, 0, 2, 1, 4]] =
        ⟨[.new 1 1 [3, 0], .new 2 1 [4]], .ok (.waitingForHeader, [])⟩ := by
  refine ⟨rfl, (stream_read_back_iff _ ?_ _ rfl).mpr ?_⟩
  · intro frame listed
    rcases mem_pair.mp listed with rfl | rfl
    · rfl
    · rfl
  · decide

/-- The length counts the unit, the limit of the decoder does not. -/
theorem largest_pdu_not_decoded : encodeAll [.new 1 1 (List.replicate 253 0)] =
        .ok ((MbapFrame.new 1 1 (List.replicate 253 0)).encode) ∧
      (codec.feed (.waitingForHeader, [])
        [(MbapFrame.new 1 1 (List.replicate 253 0)).encode]).left =
          .error (.invalidData "Invalid MBAP length: 254 (expected 1-253)") := by
  have size : (replicate 253 (0 : UInt8)).length = maxPduSize := length_replicate
  constructor
  · have accepted : encode (.new 1 1 (replicate 253 0)) [] =
        .ok (MbapFrame.new 1 1 (replicate 253 0)).encode :=
      encode_eq_ok.mpr ⟨(fun empty => nomatch empty), size.le, rfl⟩
    rw [encodeAll, foldlM_cons, accepted]
    rfl
  · have failed := decode_largest_frame (rfl : Built (.new 1 1 (replicate 253 0))) size []
    rw [append_nil] at failed
    rw [feed, nil_append, drain_failed codec failed]

end

theorem parse_ok {bytes : Bytes} {header : MbapHeader} (parsed : parse bytes = .ok header) :
    bytes.take mbapHeaderSize = header.encode := by
  unfold parse at parsed
  split at parsed
  · dsimp only at parsed
    split_ifs at parsed
    cases parsed
    simp only [MbapHeader.encode, putU16_u16Of]
    rfl
  · cases parsed

theorem peekHeader_ok {src : Bytes} {header : MbapHeader} (peeked : peekHeader src = .ok header) :
    src.take mbapHeaderSize = header.encode ∧ header.pduLength ≤ maxPduSize := by
  unfold peekHeader at peeked
  split at peeked
  · cases peeked
  · rename_i parsed
    split_ifs at peeked with _ large
    cases peeked
    have front := parse_ok parsed
    rw [take_take, min_self] at front
    exact ⟨front, not_lt.mp large⟩

theorem codec_parses :
    codec.Parses .waitingForHeader MbapFrame.encode (mbapHeaderSize + maxPduSize) := by
  intro src
  have called : codec.decode .waitingForHeader src = decode .waitingForHeader src := rfl
  rw [called, decode]
  split_ifs with short
  · exact ⟨rfl, by omega⟩
  · cases peeked : peekHeader src with
    | error => trivial
    | ok header =>
      obtain ⟨front, small⟩ := peekHeader_ok peeked
      dsimp only
      by_cases waits : src.length < header.totalFrameLength
      · rw [decodePdu_short waits]
        exact ⟨rfl, waits.trans_le (Nat.add_le_add_left small _)⟩
      · rw [decodePdu, if_neg waits]
        refine ⟨rfl, ?_⟩
        rw [MbapFrame.encode, ← front, append_assoc, take_append_drop, take_append_drop]

/-- Every byte is in a frame or in the rest, which is no whole frame unless decoding failed. -/
theorem stream_accounted_for (pieces : List Bytes) :
    let read := codec.feed (.waitingForHeader, []) pieces
    ∃ rest, pieces.flatten = (read.frames.map MbapFrame.encode).flatten ++ rest ∧
      ∀ next kept, read.left = .ok (next, kept) →
        kept = rest ∧ rest.length < mbapHeaderSize + maxPduSize := by
  rw [codec_incremental.feed_eq pieces drain_nil, nil_append]
  exact codec_parses.drain pieces.flatten

end MbapCodec

end Mabinogion.Modbus
