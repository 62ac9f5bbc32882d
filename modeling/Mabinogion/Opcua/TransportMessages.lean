import Mabinogion.Opcua.StructureRoundTrip

/-!
# Transport messages

Every message has a header of eight bytes: three letters for its type, one for the kind
of chunk, and the size of the whole. Hello and Acknowledge negotiate the limits of a
connection.
-/

namespace Mabinogion.Opcua

open Checked ByteCursor LittleEndian

inductive MessageType where
  | hello
  | acknowledge
  | error
  | openSecureChannel
  | closeSecureChannel
  | message

namespace MessageType

def bytes : MessageType → Bytes
  | hello => [0x48, 0x45, 0x4C]               -- HEL
  | acknowledge => [0x41, 0x43, 0x4B]         -- ACK
  | error => [0x45, 0x52, 0x52]               -- ERR
  | openSecureChannel => [0x4F, 0x50, 0x4E]   -- OPN
  | closeSecureChannel => [0x43, 0x4C, 0x4F]  -- CLO
  | message => [0x4D, 0x53, 0x47]             -- MSG

def all : List MessageType :=
  [hello, acknowledge, error, openSecureChannel, closeSecureChannel, message]

/-- How `{:?}` prints a letter; what is not ASCII is left as it is. -/
def escapeDebug (letter : Char) : String :=
  match letter.toNat with
  | 0 => "\\0"
  | 9 => "\\t"
  | 10 => "\\n"
  | 13 => "\\r"
  | 34 => "\\\""
  | 92 => "\\\\"
  | code =>
    if code < 32 ∨ code = 127 then
      "\\u\x7b" ++ String.ofList (Nat.toDigits 16 code) ++ "\x7d"
    else letter.toString

def unknown (front : Bytes) : OpcUaError :=
  let text := (Utf8.text? front).getD "???"
  .codec ("Unknown message type: \"" ++ String.join (text.toList.map escapeDebug) ++ "\"")

def fromBytes {State : Type} (bytes : Bytes) : Checked State OpcUaError MessageType := do
  failIf (bytes.length < 3) (.codec "Message type must be 3 bytes")
  let front ← checkedSlice bytes 0 3
  match all.find? fun messageType => messageType.bytes = front with
  | some messageType => pure messageType
  | none => do
    let front ← checkedSlice bytes 0 3
    fail (unknown front)

end MessageType

open MessageType

inductive ChunkType where
  | final
  | intermediate
  | abort

namespace ChunkType

def byte : ChunkType → UInt8
  | final => 0x46         -- F
  | intermediate => 0x43  -- C
  | abort => 0x41         -- A

def fromByte {State : Type} (b : UInt8) : Checked State OpcUaError ChunkType :=
  if b = final.byte then pure final
  else if b = intermediate.byte then pure intermediate
  else if b = abort.byte then pure abort
  else fail (.codec ("Unknown chunk type: 0x" ++ hexByte b))

end ChunkType

structure MessageHeader where
  messageType : MessageType
  chunkType : ChunkType
  messageSize : UInt32

namespace MessageHeader

def size : Nat := 8

def encode (self : MessageHeader) : Bytes :=
  self.messageType.bytes ++ ([self.chunkType.byte] ++ Opcua.encode self.messageSize)

def decode {State : Type} (buf : Bytes) : Checked State OpcUaError MessageHeader := do
  failIf (buf.length < size) (.codec "Not enough bytes for message header")
  let letters ← checkedSlice buf 0 3
  let messageType ← fromBytes letters
  let chunk ← checkedIndex buf 3
  let chunkType ← ChunkType.fromByte chunk
  let s0 ← checkedIndex buf 4
  let s1 ← checkedIndex buf 5
  let s2 ← checkedIndex buf 6
  let s3 ← checkedIndex buf 7
  pure ⟨messageType, chunkType, UInt32.ofNat (LittleEndian.value [s0, s1, s2, s3])⟩

end MessageHeader

structure HelloMessage where
  protocolVersion : UInt32
  receiveBufferSize : UInt32
  sendBufferSize : UInt32
  maxMessageSize : UInt32
  maxChunkCount : UInt32
  endpointUrl : String

instance : BinaryDecodable HelloMessage where
  decode := do
    let protocolVersion ← decode
    let receiveBufferSize ← decode
    let sendBufferSize ← decode
    let maxMessageSize ← decode
    let maxChunkCount ← decode
    let endpointUrl ← decode
    pure ⟨protocolVersion, receiveBufferSize, sendBufferSize, maxMessageSize, maxChunkCount,
      endpointUrl⟩

section

variable {State : Type}

theorem MessageType.fromBytes_result (t0 t1 t2 : UInt8) :
    ∃ result : Except OpcUaError MessageType, ∀ State : Type,
      (fromBytes [t0, t1, t2] : Checked State OpcUaError MessageType) = ofExcept result := by
  cases found : all.find? fun messageType => messageType.bytes = [t0, t1, t2] with
  | none =>
    refine ⟨.error (unknown [t0, t1, t2]), fun State => ?_⟩
    simp [fromBytes, failIf, checkedSlice, return_bind, found, ofExcept_error]
  | some messageType =>
    refine ⟨.ok messageType, fun State => ?_⟩
    simp [fromBytes, failIf, checkedSlice, return_bind, found, ofExcept_ok]

theorem MessageType.fromBytes_bytes (messageType : MessageType) :
    (fromBytes messageType.bytes : Checked State OpcUaError MessageType) = pure messageType := by
  cases messageType <;> rfl

theorem ChunkType.fromByte_byte (chunkType : ChunkType) :
    (fromByte chunkType.byte : Checked State OpcUaError ChunkType) = pure chunkType := by
  cases chunkType <;> rfl

theorem ChunkType.fromByte_result (b : UInt8) :
    ∃ result : Except OpcUaError ChunkType, ∀ State : Type,
      (fromByte b : Checked State OpcUaError ChunkType) = ofExcept result := by
  unfold fromByte
  split_ifs
  · exact ⟨.ok .final, fun _ => rfl⟩
  · exact ⟨.ok .intermediate, fun _ => rfl⟩
  · exact ⟨.ok .abort, fun _ => rfl⟩
  · exact ⟨.error _, fun _ => rfl⟩

namespace MessageHeader

theorem encode_length (header : MessageHeader) : header.encode.length = size := by
  have letters : header.messageType.bytes.length = 3 := by
    cases header.messageType <;> rfl
  rw [encode, List.length_append, letters, List.length_append, ← lawful_uint32.size]
  rfl

theorem decode_cons (t0 t1 t2 chunk s0 s1 s2 s3 : UInt8) (tail : Bytes) :
    (decode (t0 :: t1 :: t2 :: chunk :: s0 :: s1 :: s2 :: s3 :: tail) :
        Checked State OpcUaError MessageHeader) =
      fromBytes [t0, t1, t2] >>= fun messageType =>
        ChunkType.fromByte chunk >>= fun chunkType =>
          pure ⟨messageType, chunkType, UInt32.ofNat (value [s0, s1, s2, s3])⟩ := by
  have long : decide ((t0 :: t1 :: t2 :: chunk :: s0 :: s1 :: s2 :: s3 :: tail).length < size) =
      false := by
    apply decide_eq_false
    simp only [List.length_cons, size]
    omega
  rw [decode, long, failIf_false, return_bind]
  simp [checkedSlice, checkedIndex, return_bind]

theorem decode_result (buf : Bytes) : ∃ result : Except OpcUaError MessageHeader, ∀ State : Type,
      (decode buf : Checked State OpcUaError MessageHeader) = ofExcept result := by
  match buf with
  | t0 :: t1 :: t2 :: chunk :: s0 :: s1 :: s2 :: s3 :: tail =>
    obtain ⟨letters, known⟩ := fromBytes_result t0 t1 t2
    obtain ⟨letter, kind⟩ := ChunkType.fromByte_result chunk
    refine ⟨letters >>= fun messageType => letter >>= fun chunkType => .ok ⟨messageType, chunkType,
      UInt32.ofNat (value [s0, s1, s2, s3])⟩, fun State => ?_⟩
    rw [decode_cons, known, kind]
    simp only [ofExcept_bind]
    rfl
  | [] | [_] | [_, _] | [_, _, _] | [_, _, _, _] | [_, _, _, _, _] | [_, _, _, _, _, _]
  | [_, _, _, _, _, _, _] => exact ⟨.error (.codec "Not enough bytes for message header"), fun _ => rfl⟩

theorem decode_encode (header : MessageHeader) :
    (decode header.encode : Checked State OpcUaError MessageHeader) = pure header := by
  obtain ⟨messageType, chunkType, messageSize⟩ := header
  have spelled : UInt32.ofNat (value (bytes 4 messageSize.toNat)) = messageSize := by
    rw [value_bytes_of_lt 4 _ messageSize.toNat_lt, UInt32.ofNat_toNat]
  have letters : ∃ t0 t1 t2, messageType.bytes = [t0, t1, t2] := by
    cases messageType <;> exact ⟨_, _, _, rfl⟩
  obtain ⟨t0, t1, t2, same⟩ := letters
  rw [encode, same]
  show decode [t0, t1, t2, chunkType.byte, _, _, _, _] = _
  rw [decode_cons, ← same, fromBytes_bytes, ChunkType.fromByte_byte, return_bind, return_bind]
  exact congrArg (fun number => (pure ⟨messageType, chunkType, number⟩ :
    Checked State OpcUaError MessageHeader)) spelled

end MessageHeader

end

end Mabinogion.Opcua
