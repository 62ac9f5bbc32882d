import Mabinogion.Library.StreamDecoder
import Mabinogion.Library.GuardedRead
import Mabinogion.Opcua.TransportMessages

/-!
# The transport codec

The codec cuts messages out of a TCP stream and takes nothing until the whole message is there.
The size that the encoder writes is that of the body, whatever the header says.
-/

namespace Mabinogion.Opcua

open Checked ByteCursor StreamDecoder MessageHeader
open List (append_assoc)

structure RawMessage where
  header : MessageHeader
  body : Bytes

namespace RawMessage

/-- What a message says: its size follows from the body. -/
def content (self : RawMessage) : MessageType × ChunkType × Bytes :=
  (self.header.messageType, self.header.chunkType, self.body)

def totalSize (self : RawMessage) : Nat := MessageHeader.size + self.body.length

end RawMessage

open RawMessage

structure OpcUaTransportCodec where
  maxReceiveBuffer : UInt32
  maxMessageSize : UInt32

namespace OpcUaTransportCodec

section

variable (codec : OpcUaTransportCodec)

def decodeBody (header : MessageHeader) (src : Bytes) : Decoder (Option RawMessage) := do
  let totalSize := header.messageSize.toNat
  failIf (totalSize < MessageHeader.size)
    (.codec ("Message size " ++ toString totalSize ++ " is less than header size"))
  failIf (codec.maxMessageSize.toNat < totalSize)
    (.messageTooLarge totalSize codec.maxMessageSize.toNat)
  if src.length < totalSize then do
    -- the space that is reserved for what is still to come
    let _missing ← checkedSub totalSize src.length
    pure none
  else do
    let _header ← copyToSlice MessageHeader.size
    let bodyLen ← checkedSub totalSize MessageHeader.size
    let body ← copyToSlice bodyLen
    pure (some ⟨header, body⟩)

def decode : Decoder (Option RawMessage) := do
  let src ← rest
  if src.length < MessageHeader.size then pure none
  else do
    let front ← checkedSlice src 0 MessageHeader.size
    let header ← MessageHeader.decode front
    codec.decodeBody header src

def encode (item : RawMessage) (dst : Bytes) : Bytes :=
  let totalSize := MessageHeader.size + item.body.length
  dst ++ (MessageHeader.mk item.header.messageType item.header.chunkType
    (UInt32.ofNat totalSize)).encode ++ item.body

def encodeAll (items : List RawMessage) : Bytes :=
  items.foldl (fun dst item => encode item dst) []

/-- A decoder does not go on behind an error or a panic. -/
def step (_state : Unit) (src : Bytes) : Step Unit RawMessage (Fault ⊕ OpcUaError) :=
  match codec.decode src with
  | .ok (some message) left => .frame message () left
  | .ok none left => .needMore () left
  | .err error _ => .failed (.inr error)
  | .fault fault => .failed (.inl fault)

end

section

variable (codec : OpcUaTransportCodec) {src : Bytes} {header : MessageHeader}

theorem decode_short (short : src.length < size) : codec.decode src = .ok none src := by
  have looked : (rest : Decoder Bytes) src = .ok src src := rfl
  rw [decode, bind_ok looked, if_pos short]
  rfl

theorem decode_long (enough : size ≤ src.length) : codec.decode src =
      (MessageHeader.decode (src.take size) >>= fun header => codec.decodeBody header src) src := by
  have looked : (rest : Decoder Bytes) src = .ok src src := rfl
  rw [decode, bind_ok looked, if_neg (Nat.not_lt.mpr enough),
    bind_ok (checkedSlice_ok src (Nat.zero_le _) enough), List.drop_zero]

variable {data : Bytes}

section

variable (sized : size ≤ header.messageSize.toNat)
  (allowed : header.messageSize.toNat ≤ codec.maxMessageSize.toNat)

include sized allowed

theorem limits_pass : decide (header.messageSize.toNat < size) = false ∧
      decide (codec.maxMessageSize.toNat < header.messageSize.toNat) = false :=
  ⟨decide_eq_false (Nat.not_lt.mpr sized), decide_eq_false (Nat.not_lt.mpr allowed)⟩

theorem decodeBody_waiting (short : src.length < header.messageSize.toNat) :
    codec.decodeBody header src data = .ok none data := by
  obtain ⟨large, small⟩ := limits_pass codec sized allowed
  rw [decodeBody, bind_ok (failIf_ok data _ large), bind_ok (failIf_ok data _ small),
    if_pos short, bind_ok (checkedSub_ok data short.le)]
  rfl

theorem decodeBody_complete (complete : header.messageSize.toNat ≤ src.length) :
    codec.decodeBody header src src = .ok (some ⟨header, (src.drop size).take
        (header.messageSize.toNat - size)⟩)
        (src.drop header.messageSize.toNat) := by
  obtain ⟨large, small⟩ := limits_pass codec sized allowed
  have inside : header.messageSize.toNat - size ≤ (src.drop size).length := by
    rw [List.length_drop]
    exact Nat.sub_le_sub_right complete _
  rw [decodeBody, bind_ok (failIf_ok src _ large), bind_ok (failIf_ok src _ small),
    if_neg (Nat.not_lt.mpr complete), bind_ok (copyToSlice_ok (sized.trans complete)),
    bind_ok (checkedSub_ok _ sized), bind_ok (copyToSlice_ok inside), List.drop_drop,
    Nat.add_sub_cancel' sized]
  rfl

end

theorem decodeBody_small (small : header.messageSize.toNat < MessageHeader.size) :
    codec.decodeBody header src data = .err (.codec ("Message size " ++
      toString header.messageSize.toNat ++ " is less than header size")) data :=
  bind_err (failIf_err data _ (decide_eq_true small))

theorem decodeBody_large (sized : size ≤ header.messageSize.toNat)
    (large : codec.maxMessageSize.toNat < header.messageSize.toNat) :
    codec.decodeBody header src data =
      .err (.messageTooLarge header.messageSize.toNat codec.maxMessageSize.toNat) data := by
  have enough : decide (header.messageSize.toNat < size) = false :=
    decide_eq_false (Nat.not_lt.mpr sized)
  rw [decodeBody, bind_ok (failIf_ok data _ enough)]
  exact bind_err (failIf_err data _ (decide_eq_true large))

end

section

variable {codec : OpcUaTransportCodec} {src : Bytes} {header : MessageHeader}

theorem settles_of_header (known : ∀ more, codec.decode (src ++ more) =
      codec.decodeBody header (src ++ more) (src ++ more)) : Settles codec.step () src := by
  by_cases sized : MessageHeader.size ≤ header.messageSize.toNat
  · by_cases allowed : header.messageSize.toNat ≤ codec.maxMessageSize.toNat
    · by_cases complete : header.messageSize.toNat ≤ src.length
      · have shorter : (src.drop header.messageSize.toNat).length < src.length := by
          rw [List.length_drop]
          rw [MessageHeader.size] at sized
          omega
        refine .delivers ⟨header, (src.drop MessageHeader.size).take
          (header.messageSize.toNat - MessageHeader.size)⟩ () _ shorter fun more => ?_
        have longer : header.messageSize.toNat ≤ (src ++ more).length := by
          rw [List.length_append]
          omega
        have inside : header.messageSize.toNat - MessageHeader.size ≤
            (src.drop MessageHeader.size).length := by
          rw [List.length_drop]
          exact Nat.sub_le_sub_right complete _
        rw [step, known, decodeBody_complete codec sized allowed longer,
          List.drop_append_of_le_length (sized.trans complete),
          List.drop_append_of_le_length complete, List.take_append_of_le_length inside]
      · have now := known []
        rw [List.append_nil, decodeBody_waiting codec sized allowed (Nat.not_le.mp complete)] at now
        exact .waits () src (by rw [step, now]) fun _ => rfl
    · refine .fails (.inr (.messageTooLarge header.messageSize.toNat codec.maxMessageSize.toNat))
        fun more => ?_
      rw [step, known, decodeBody_large codec sized (Nat.not_le.mp allowed)]
  · refine .fails (.inr (.codec ("Message size " ++ toString header.messageSize.toNat ++
      " is less than header size"))) fun more => ?_
    rw [step, known, decodeBody_small codec (Nat.not_le.mp sized)]

section

variable (codec : OpcUaTransportCodec)

theorem step_settles (state : Unit) (src : Bytes) : Settles codec.step state src := by
  by_cases short : src.length < size
  · exact .waits () src (by rw [step, decode_short codec short]) fun _ => rfl
  · have enough : size ≤ src.length := Nat.not_lt.mp short
    obtain ⟨result, parsed⟩ := decode_result (src.take size)
    have unfolded (more : Bytes) : codec.decode (src ++ more) =
        (ofExcept result >>= fun header => codec.decodeBody header (src ++ more))
          (src ++ more) := by
      have longer : size ≤ (src ++ more).length := by
        rw [List.length_append]
        omega
      rw [decode_long codec longer, List.take_append_of_le_length enough, parsed]
    cases result with
    | error error =>
      refine .fails (.inr error) fun more => ?_
      rw [step, unfolded]
      rfl
    | ok => exact settles_of_header unfolded

/-- The calls of the codec on the buffer of a connection. -/
def stream : StreamDecoder Unit RawMessage (Fault ⊕ OpcUaError) where
  decode := codec.step
  consumes := (step_settles codec _ _).consumes

theorem stream_incremental : codec.stream.Incremental :=
  step_settles codec

end

def sized (item : RawMessage) : RawMessage :=
  ⟨⟨item.header.messageType, item.header.chunkType, UInt32.ofNat item.totalSize⟩, item.body⟩

theorem encode_eq (item : RawMessage) (dst : Bytes) :
    encode item dst = dst ++ ((sized item).header.encode ++ item.body) := append_assoc _ _ _

theorem encodeAll_eq (items : List RawMessage) :
    encodeAll items = items.flatMap fun item => (sized item).header.encode ++ item.body := by
  have appended (dst : Bytes) : items.foldl (fun dst item => encode item dst) dst =
      dst ++ items.flatMap fun item => (sized item).header.encode ++ item.body := by
    induction items generalizing dst with
    | nil => simp
    | cons item items ih =>
      rw [List.foldl_cons, ih, encode_eq, List.flatMap_cons, append_assoc]
  exact appended []

theorem step_message {item : RawMessage} (fits : item.totalSize ≤ codec.maxMessageSize.toNat)
    (behind : Bytes) :
    codec.stream.decode () ((sized item).header.encode ++ item.body ++ behind) =
      .frame (sized item) () behind := by
  have small : item.totalSize < 2 ^ 32 := Nat.lt_of_le_of_lt fits codec.maxMessageSize.toNat_lt
  have size : (sized item).header.messageSize.toNat = item.totalSize :=
    UInt32.toNat_ofNat_of_lt' small
  have front := (sized item).header.encode_length
  generalize whole : (sized item).header.encode ++ item.body ++ behind = src
  have cut : src.take MessageHeader.size = (sized item).header.encode := by
    rw [← whole, append_assoc, ← front, List.take_left]
  have body : src.drop MessageHeader.size = item.body ++ behind := by
    rw [← whole, append_assoc, ← front, List.drop_left]
  have rest : src.drop item.totalSize = behind := by
    rw [totalSize, ← List.drop_drop, body, List.drop_left]
  have complete : item.totalSize ≤ src.length := by
    rw [← whole, List.length_append, List.length_append, front, totalSize]
    exact Nat.le_add_right _ _
  have header : MessageHeader.size ≤ item.totalSize := Nat.le_add_right _ _
  have decoded : codec.decode src = .ok (some (sized item)) behind := by
    rw [decode_long codec (header.trans complete), cut, decode_encode, return_bind,
      decodeBody_complete codec (by rwa [size]) (by rwa [size]) (by rwa [size]), size, body, rest,
      totalSize, Nat.add_sub_cancel_left, List.take_left]
    rfl
  show codec.step () src = _
  rw [step, decoded]

theorem drain_messages {items : List RawMessage}
    (fits : ∀ item ∈ items, item.totalSize ≤ codec.maxMessageSize.toNat) :
    codec.stream.drain () (items.flatMap fun item => (sized item).header.encode ++ item.body) =
      ⟨items.map sized, .ok ((), [])⟩ := by
  induction items with
  | nil => exact drain_needMore codec.stream rfl
  | cons item items ih =>
    rw [List.forall_mem_cons] at fits
    rw [List.flatMap_cons, drain_frame codec.stream (step_message fits.1 _), ih fits.2,
      List.map_cons]

/-- However the stream of messages within the limit is cut, they are decoded in order and nothing
is left. -/
theorem framing_ignores_segmentation (codec : OpcUaTransportCodec) (items : List RawMessage)
    (fits : ∀ item ∈ items, item.totalSize ≤ codec.maxMessageSize.toNat)
    (pieces : List Bytes) (sent : pieces.flatten = encodeAll items) :
    ∃ decoded, codec.stream.feed ((), []) pieces = ⟨decoded, .ok ((), [])⟩ ∧
      decoded.map content = items.map content := by
  have waiting : codec.stream.drain () [] = ⟨[], .ok ((), [])⟩ := drain_needMore codec.stream rfl
  refine ⟨items.map sized, ?_, ?_⟩
  · rw [(stream_incremental codec).feed_eq pieces waiting, sent, encodeAll_eq]
    exact drain_messages fits
  · rw [List.map_map]
    rfl

theorem messages_cut_within_headers :
    [[0x4D, 0x53, 0x47], [0x43, 10, 0, 0, 0, 1, 2, 0x4D, 0x53], [0x47, 0x46, 8, 0, 0, 0]].flatten =
        encodeAll [⟨⟨.message, .intermediate, 0⟩, [1, 2]⟩, ⟨⟨.message, .final, 0⟩, []⟩] ∧
      ∃ decoded, (OpcUaTransportCodec.mk 16 16).stream.feed ((), []) [[0x4D, 0x53, 0x47],
          [0x43, 10, 0, 0, 0, 1, 2, 0x4D, 0x53], [0x47, 0x46, 8, 0, 0, 0]] =
            ⟨decoded, .ok ((), [])⟩ ∧
        decoded.map content = [(.message, .intermediate, [1, 2]), (.message, .final, [])] :=
  ⟨rfl, framing_ignores_segmentation _
    [⟨⟨.message, .intermediate, 0⟩, [1, 2]⟩, ⟨⟨.message, .final, 0⟩, []⟩] (by decide) _ rfl⟩

end

end OpcUaTransportCodec

end Mabinogion.Opcua
