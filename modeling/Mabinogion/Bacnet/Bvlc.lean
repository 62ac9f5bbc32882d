import Mabinogion.Library.ByteCursor

/-!
# Virtual link control

The header in front of what a datagram carries. The decoder checks the declared
length against the datagram, and then reads the datagram to its end.
-/

namespace Mabinogion.Bacnet

open ByteCursor BigEndian
open List (length length_take)

def bvlcType : UInt8 := 0x81

def bvlcHeaderSize : Nat := 4

inductive BvlcFunction where
  | result | writeBroadcastDistributionTable | readBroadcastDistributionTable
  | readBroadcastDistributionTableAck | forwardedNpdu | registerForeignDevice
  | readForeignDeviceTable | readForeignDeviceTableAck | deleteForeignDeviceTableEntry
  | distributeBroadcastToNetwork | originalUnicastNpdu | originalBroadcastNpdu | secureBvll
deriving DecidableEq

namespace BvlcFunction

def code : BvlcFunction → UInt8
  | result => 0x00 | writeBroadcastDistributionTable => 0x01
  | readBroadcastDistributionTable => 0x02 | readBroadcastDistributionTableAck => 0x03
  | forwardedNpdu => 0x04 | registerForeignDevice => 0x05 | readForeignDeviceTable => 0x06
  | readForeignDeviceTableAck => 0x07 | deleteForeignDeviceTableEntry => 0x08
  | distributeBroadcastToNetwork => 0x09 | originalUnicastNpdu => 0x0A
  | originalBroadcastNpdu => 0x0B | secureBvll => 0x0C

def fromU8 : UInt8 → Option BvlcFunction
  | 0x00 => some result
  | 0x01 => some writeBroadcastDistributionTable
  | 0x02 => some readBroadcastDistributionTable
  | 0x03 => some readBroadcastDistributionTableAck
  | 0x04 => some forwardedNpdu
  | 0x05 => some registerForeignDevice
  | 0x06 => some readForeignDeviceTable
  | 0x07 => some readForeignDeviceTableAck
  | 0x08 => some deleteForeignDeviceTableEntry
  | 0x09 => some distributeBroadcastToNetwork
  | 0x0A => some originalUnicastNpdu
  | 0x0B => some originalBroadcastNpdu
  | 0x0C => some secureBvll
  | _ => none

theorem fromU8_code (function : BvlcFunction) : fromU8 function.code = some function := by
  cases function <;> rfl

theorem code_of_fromU8 {byte : UInt8} {function : BvlcFunction}
    (known : fromU8 byte = some function) : byte = function.code := by
  unfold fromU8 at known
  split at known <;> cases known <;> rfl

end BvlcFunction

open BvlcFunction

inductive BvlcResultCode where
  | success | writeBdtNak | readBdtNak | registerForeignDeviceNak | readFdtNak
  | deleteFdtEntryNak | distributeBroadcastNak

namespace BvlcResultCode

def code : BvlcResultCode → UInt16
  | success => 0x0000 | writeBdtNak => 0x0010 | readBdtNak => 0x0020
  | registerForeignDeviceNak => 0x0030 | readFdtNak => 0x0040 | deleteFdtEntryNak => 0x0050
  | distributeBroadcastNak => 0x0060

def fromU16 : UInt16 → Option BvlcResultCode
  | 0x0000 => some success
  | 0x0010 => some writeBdtNak
  | 0x0020 => some readBdtNak
  | 0x0030 => some registerForeignDeviceNak
  | 0x0040 => some readFdtNak
  | 0x0050 => some deleteFdtEntryNak
  | 0x0060 => some distributeBroadcastNak
  | _ => none

theorem code_of_fromU16 {value : UInt16} {resultCode : BvlcResultCode}
    (known : fromU16 value = some resultCode) : value = resultCode.code := by
  unfold fromU16 at known
  split at known <;> cases known <;> rfl

end BvlcResultCode

open BvlcResultCode

inductive BvlcError where
  | tooShort (expected actual : Nat)
  | invalidType (value : UInt8)
  | unknownFunction (value : UInt8)
  | invalidFormat

structure BvlcHeader where
  function : BvlcFunction
  length : UInt16

def u16FromBeBytes (high low : UInt8) : UInt16 := UInt16.ofNat (value [high, low])

namespace BvlcHeader

def encode (header : BvlcHeader) : Bytes :=
  bvlcType :: header.function.code :: putU16 header.length

def decode : Bytes → Except BvlcError BvlcHeader
  | typeByte :: functionByte :: high :: low :: _ =>
    if typeByte ≠ bvlcType then .error (.invalidType typeByte)
    else
      match fromU8 functionByte with
      | none => .error (.unknownFunction functionByte)
      | some function => .ok ⟨function, u16FromBeBytes high low⟩
  | data => .error (.tooShort bvlcHeaderSize data.length)

end BvlcHeader

structure Ipv4Addr where
  a : UInt8
  b : UInt8
  c : UInt8
  d : UInt8
deriving DecidableEq

def Ipv4Addr.octets (ip : Ipv4Addr) : Bytes := [ip.a, ip.b, ip.c, ip.d]

structure SocketAddrV4 where
  ip : Ipv4Addr
  port : UInt16
deriving DecidableEq

structure BvlcMessage where
  header : BvlcHeader
  npdu : Bytes
  originalSource : Option SocketAddrV4
  resultCode : Option BvlcResultCode

namespace BvlcMessage

def encodeBody (message : BvlcMessage) : Bytes :=
  match message.header.function with
  | .result => written (fun resultCode => putU16 resultCode.code) message.resultCode
  | .forwardedNpdu =>
    written (fun source => source.ip.octets ++ putU16 source.port) message.originalSource ++
      message.npdu
  | _ => message.npdu

def encode (message : BvlcMessage) : Bytes := message.header.encode ++ message.encodeBody

def decodeBody (header : BvlcHeader) (cursor : Bytes) : Except BvlcError BvlcMessage :=
  match header.function with
  | .result =>
    match cursor with
    | high :: low :: _ =>
      .ok ⟨header, [], none, fromU16 (u16FromBeBytes high low)⟩
    | short => .error (.tooShort 2 short.length)
  | .forwardedNpdu =>
    match cursor with
    | a :: b :: c :: d :: high :: low :: npdu =>
      .ok ⟨header, npdu, some ⟨⟨a, b, c, d⟩, u16FromBeBytes high low⟩, none⟩
    | short => .error (.tooShort 6 short.length)
  | _ => .ok ⟨header, cursor, none, none⟩

def decode (data : Bytes) : Except BvlcError BvlcMessage :=
  match BvlcHeader.decode data with
  | .error error => .error error
  | .ok header =>
    if data.length < header.length.toNat then
      .error (.tooShort header.length.toNat data.length)
    else decodeBody header (data.drop bvlcHeaderSize)

end BvlcMessage

def declaredLength (data : Bytes) : Nat := value ((data.drop 2).take 2)

theorem exists_putU16 (value : UInt16) :
    ∃ high low, putU16 value = [high, low] ∧ u16FromBeBytes high low = value :=
  exists_u16Of value

theorem putU16_u16FromBeBytes (high low : UInt8) : putU16 (u16FromBeBytes high low) = [high, low] :=
  putU16_ofNat high low

namespace BvlcHeader

variable {header : BvlcHeader} {data cursor : Bytes}

theorem encode_length : header.encode.length = bvlcHeaderSize := rfl

theorem decode_append : decode (header.encode ++ cursor) = .ok header := by
  obtain ⟨high, low, bytes, spelled⟩ := exists_putU16 header.length
  rw [encode, bytes]
  show decode (bvlcType :: header.function.code :: high :: low :: cursor) = .ok header
  rw [decode, if_neg (not_not.mpr rfl), fromU8_code, spelled]

theorem decode_eq_ok : decode data = .ok header ↔ ∃ cursor, data = header.encode ++ cursor := by
  constructor
  · intro accepted
    unfold decode at accepted
    split at accepted
    · rename_i typeByte functionByte high low cursor
      split at accepted
      · cases accepted
      · rename_i right
        split at accepted
        · cases accepted
        · rename_i function known
          cases accepted
          refine ⟨cursor, ?_⟩
          rw [encode, putU16_u16FromBeBytes, Decidable.not_not.mp right, code_of_fromU8 known]
          rfl
    · cases accepted
  · intro shape
    obtain ⟨cursor, rfl⟩ := shape
    exact decode_append

theorem declaredLength_append : declaredLength (header.encode ++ cursor) = header.length.toNat := by
  exact value_bytes_of_lt 2 _ header.length.toNat_lt

end BvlcHeader

namespace BvlcMessage

variable {header : BvlcHeader} {data cursor : Bytes} {message : BvlcMessage}

theorem decode_append (long : header.length.toNat ≤ (header.encode ++ cursor).length) :
    decode (header.encode ++ cursor) = decodeBody header cursor := by
  rw [decode, BvlcHeader.decode_append]
  exact if_neg (Nat.not_lt.mpr long)

theorem exists_of_decode_ok (accepted : decode data = .ok message) :
    ∃ header cursor, data = header.encode ++ cursor ∧ header.length.toNat ≤ data.length ∧
      decodeBody header cursor = .ok message := by
  unfold decode at accepted
  split at accepted
  · cases accepted
  · rename_i header known
    obtain ⟨cursor, shape⟩ := BvlcHeader.decode_eq_ok.mp known
    split at accepted
    · cases accepted
    · rename_i long
      refine ⟨header, cursor, shape, Nat.not_lt.mp long, ?_⟩
      rw [shape] at accepted
      exact accepted

theorem header_of_decodeBody (body : decodeBody header cursor = .ok message) :
    message.header = header := by
  unfold decodeBody at body
  split at body
  · split at body
    · cases body
      rfl
    · cases body
  · split at body
    · cases body
      rfl
    · cases body
  · cases body
    rfl

theorem encodeBody_of_decodeBody (carries : header.function ≠ .result)
    (body : decodeBody header cursor = .ok message) : message.encodeBody = cursor := by
  unfold decodeBody at body
  split at body
  · rename_i isResult
    exact absurd isResult carries
  · rename_i forwarded
    split at body
    · cases body
      simp only [encodeBody, forwarded, written, putU16_u16FromBeBytes]
      rfl
    · cases body
  · rename_i notForwarded
    cases body
    unfold encodeBody
    split
    · rename_i isResult
      exact absurd isResult carries
    · rename_i forwarded
      exact absurd forwarded notForwarded
    · rfl

theorem decodeBody_take_iff (carries : header.function ≠ .result)
    (body : decodeBody header cursor = .ok message) (count : Nat) :
    decodeBody header (cursor.take count) = .ok message ↔ cursor.take count = cursor := by
  constructor
  · intro shortened
    rw [← encodeBody_of_decodeBody carries shortened, encodeBody_of_decodeBody carries body]
  · intro same
    rw [same, body]

theorem decodeBody_result (isResult : header.function = .result) :
    decodeBody header cursor = .ok message ↔ ∃ high low tail, cursor = high :: low :: tail ∧
      message = ⟨header, [], none, fromU16 (u16FromBeBytes high low)⟩ := by
  unfold decodeBody
  rw [isResult]
  constructor
  · intro body
    simp only at body
    split at body
    · cases body
      exact ⟨_, _, _, rfl, rfl⟩
    · cases body
  · intro shape
    obtain ⟨high, low, tail, rfl, rfl⟩ := shape
    rfl

/-- The message is the same without what is behind the declared length, and is encoded as it was
received unless it is a result with an unknown code. -/
def HonoursLength (data : Bytes) (message : BvlcMessage) : Prop :=
  bvlcHeaderSize ≤ declaredLength data ∧ declaredLength data ≤ data.length ∧
    decode (data.take (declaredLength data)) = decode data ∧
    (¬(message.header.function = .result ∧ message.resultCode = none) →
      message.encode = data.take (declaredLength data))

/-- A datagram declares its own length; a result may declare its code only. -/
def DeclaredExactly (data : Bytes) : Prop :=
  if data[1]? = some result.code then
    6 ≤ declaredLength data ∧ ((fromU16 (UInt16.ofNat (value ((data.drop 4).take 2)))).isSome →
        declaredLength data = 6)
  else declaredLength data = data.length

theorem take_append_header {count : Nat} (enough : bvlcHeaderSize ≤ count) :
    (header.encode ++ cursor).take count =
      header.encode ++ cursor.take (count - bvlcHeaderSize) := by
  rw [List.take_append, List.take_of_length_le enough]
  rfl

theorem decode_take (enough : bvlcHeaderSize ≤ header.length.toNat)
    (long : header.length.toNat ≤ (header.encode ++ cursor).length) :
    decode ((header.encode ++ cursor).take header.length.toNat) =
      decodeBody header (cursor.take (header.length.toNat - bvlcHeaderSize)) := by
  rw [take_append_header enough, decode_append]
  rw [List.length_append, BvlcHeader.encode_length] at long ⊢
  rw [length_take]
  omega

theorem honoursLength_of_carries (carries : header.function ≠ .result)
    (long : header.length.toNat ≤ (header.encode ++ cursor).length)
    (body : decodeBody header cursor = .ok message) :
    HonoursLength (header.encode ++ cursor) message ↔
      header.length.toNat = (header.encode ++ cursor).length := by
  rw [HonoursLength, BvlcHeader.declaredLength_append, decode_append long, body]
  constructor
  · intro honours
    have shortened := honours.2.2.1
    rw [decode_take honours.1 long, decodeBody_take_iff carries body] at shortened
    have size := congrArg length shortened
    rw [length_take] at size
    rw [List.length_append, BvlcHeader.encode_length] at long ⊢
    omega
  · intro same
    have enough : bvlcHeaderSize ≤ header.length.toNat := by
      rw [same, List.length_append, BvlcHeader.encode_length]
      exact Nat.le_add_right _ _
    refine ⟨enough, long, ?_, ?_⟩
    · rw [same, List.take_length, decode_append long, body]
    · intro _
      rw [same, List.take_length, encode, header_of_decodeBody body,
        encodeBody_of_decodeBody carries body]

theorem encode_result (isResult : header.function = .result) {high low : UInt8}
    (known : (fromU16 (u16FromBeBytes high low)).isSome) :
    encode ⟨header, [], none, fromU16 (u16FromBeBytes high low)⟩ =
      header.encode ++ [high, low] := by
  obtain ⟨resultCode, found⟩ := Option.isSome_iff_exists.mp known
  simp only [encode, encodeBody, isResult, found, written]
  rw [← code_of_fromU16 found, putU16_u16FromBeBytes]

theorem honoursLength_of_result (isResult : header.function = .result) {high low : UInt8}
    {tail : Bytes} (long : header.length.toNat ≤ (header.encode ++ high :: low :: tail).length) :
    HonoursLength (header.encode ++ high :: low :: tail)
        ⟨header, [], none, fromU16 (u16FromBeBytes high low)⟩ ↔
      6 ≤ header.length.toNat ∧ ((fromU16 (u16FromBeBytes high low)).isSome →
          header.length.toNat = 6) := by
  have body : decodeBody header (high :: low :: tail) =
      .ok ⟨header, [], none, fromU16 (u16FromBeBytes high low)⟩ :=
    (decodeBody_result isResult).mpr ⟨high, low, tail, rfl, rfl⟩
  rw [HonoursLength, BvlcHeader.declaredLength_append, decode_append long, body]
  constructor
  · intro honours
    have enough := honours.1
    have shortened := honours.2.2.1
    rw [decode_take enough long] at shortened
    obtain ⟨_, _, _, kept, _⟩ := (decodeBody_result isResult).mp shortened
    have size := congrArg length kept
    simp only [length_take, List.length_cons, bvlcHeaderSize] at size
    rw [bvlcHeaderSize] at enough
    constructor
    · omega
    · intro known
      have carriesCode : ¬(header.function = .result ∧
          fromU16 (u16FromBeBytes high low) = none) := by
        intro unknown
        rw [unknown.2] at known
        cases known
      have encoded := honours.2.2.2 carriesCode
      rw [encode_result isResult known, take_append_header honours.1] at encoded
      have lengths := congrArg length (List.append_cancel_left encoded)
      rw [List.length_append, BvlcHeader.encode_length] at long
      simp only [length_take, List.length_cons, List.length_nil, bvlcHeaderSize] at lengths long
      omega
  · intro condition
    have enough : bvlcHeaderSize ≤ header.length.toNat := by
      rw [bvlcHeaderSize]
      omega
    refine ⟨enough, long, ?_, ?_⟩
    · rw [decode_take enough long, decodeBody_result isResult]
      have split : header.length.toNat - bvlcHeaderSize = header.length.toNat - 6 + 1 + 1 := by
        rw [bvlcHeaderSize]
        omega
      rw [split, List.take_succ_cons, List.take_succ_cons]
      exact ⟨high, low, _, rfl, rfl⟩
    · intro carriesCode
      have known : (fromU16 (u16FromBeBytes high low)).isSome := by
        rw [Option.isSome_iff_ne_none]
        intro unknown
        exact carriesCode ⟨isResult, unknown⟩
      rw [encode_result isResult known, condition.2 known]
      rfl

/-- Read as declared exactly if it declares its length, or is a result that declares its code. -/
theorem decode_honours_length_iff (data : Bytes) (message : BvlcMessage)
    (accepted : decode data = .ok message) : HonoursLength data message ↔ DeclaredExactly data := by
  obtain ⟨header, cursor, rfl, long, body⟩ := exists_of_decode_ok accepted
  have second : (header.encode ++ cursor)[1]? = some header.function.code := rfl
  rw [DeclaredExactly, second, BvlcHeader.declaredLength_append]
  by_cases isResult : header.function = .result
  · obtain ⟨high, low, tail, rfl, rfl⟩ := (decodeBody_result isResult).mp body
    rw [if_pos (by rw [isResult]), honoursLength_of_result isResult long]
    rfl
  · have different : some header.function.code ≠ some result.code := by
      intro same
      have functions := congrArg fromU8 (Option.some.inj same)
      rw [fromU8_code, fromU8_code] at functions
      exact isResult (Option.some.inj functions)
    rw [if_neg different, honoursLength_of_carries isResult long body]

theorem unicast_honours_length :
    decode [0x81, 0x0A, 0, 6, 1, 4] = .ok ⟨⟨.originalUnicastNpdu, 6⟩, [1, 4], none, none⟩ ∧
      HonoursLength [0x81, 0x0A, 0, 6, 1, 4] ⟨⟨.originalUnicastNpdu, 6⟩, [1, 4], none, none⟩ :=
  ⟨rfl, (decode_honours_length_iff _ _ rfl).mpr rfl⟩

/-- A byte behind the declared length is decoded. -/
theorem trailing_byte_decoded : declaredLength [0x81, 0x0A, 0, 4, 0xFF] = 4 ∧
      decode [0x81, 0x0A, 0, 4, 0xFF] = .ok ⟨⟨.originalUnicastNpdu, 4⟩, [0xFF], none, none⟩ ∧
      decode ([0x81, 0x0A, 0, 4, 0xFF].take 4) = .ok ⟨⟨.originalUnicastNpdu, 4⟩, [], none, none⟩ :=
  ⟨rfl, rfl, rfl⟩

end BvlcMessage

end Mabinogion.Bacnet
