import Mabinogion.Knx.Cemi
import Mathlib.Algebra.Order.BigOperators.Group.List

/-!
# Group telegrams over the wire

A group telegram with a payload is decoded to the telegram that was encoded. The
flag of a system broadcast is not written, and a payload of the single byte zero
is written like no payload.
-/

namespace Mabinogion.Knx

open Checked ByteCursor List UInt8 AdditionalInfo Apci

variable {infos : List AdditionalInfo}

namespace AdditionalInfo

theorem decode_encode (info : AdditionalInfo) (behind : Bytes)
    (short : info.data.length ≤ 255) : decode (info.encode ++ behind) = .ok info behind := by
  have size : (ofNat info.data.length).toNat = info.data.length :=
    toNat_ofNat_of_lt' (Nat.lt_succ_of_le short)
  have enough : (ofNat info.data.length).toNat ≤ (info.data ++ behind).length := by
    rw [size, length_append]
    exact Nat.le_add_right _ _
  have decoded := decode_ok info.infoType (ofNat info.data.length) enough
  rw [size, take_left, drop_left] at decoded
  exact decoded

theorem decode_eq_ok {data after : Bytes} {info : AdditionalInfo}
    (returned : decode data = .ok info after) :
    data = info.encode ++ after ∧ info.data.length ≤ 255 := by
  rcases decode_cases data with ⟨infoType, length, behind, shape, enough⟩ | ⟨error, middle, failed⟩
  · rw [shape, decode_ok infoType length enough] at returned
    injection returned with same left
    have size : (behind.take length.toNat).length = length.toNat := by
      rw [length_take]
      exact min_eq_left enough
    rw [shape, ← same, ← left, encode, size, UInt8.ofNat_toNat, cons_append, cons_append,
      take_append_drop]
    exact ⟨rfl, Nat.le_of_lt_succ length.toNat_lt⟩
  · rw [failed] at returned
    injection returned

theorem consumes_decode : Consumes length decode := by
  intro data info after returned
  rw [(decode_eq_ok returned).1, encode, length_append, length_cons]
  omega

theorem collectFrom_encode {infos : List AdditionalInfo}
    (short : ∀ info ∈ infos, info.data.length ≤ 255) (before : List AdditionalInfo) :
    collectFrom length isEmpty decode before (infos.flatMap encode) = .ok (before ++ infos) [] := by
  induction infos generalizing before with
  | nil =>
    rw [append_nil]
    exact collectFrom_stop before rfl
  | cons info infos ih =>
    have first := decode_encode info (infos.flatMap encode) (short info mem_cons_self)
    have others := ih (fun other later => short other (mem_cons_of_mem info later))
      (before ++ [info])
    rw [flatMap_cons, collectFrom_next consumes_decode before rfl first, others,
      append_assoc, singleton_append]

theorem encode_length (info : AdditionalInfo) : info.encode.length = info.encodedLen := by
  rw [encode, encodedLen, length_cons, length_cons]
  omega

theorem data_short (short : (encodeAll infos).length ≤ 255) :
    ∀ info ∈ infos, info.data.length ≤ 255 := by
  intro info listed
  have part : info.encodedLen ≤ (encodeAll infos).length := by
    rw [encodeAll, length_flatMap, ← encode_length]
    exact le_sum_of_mem (mem_map_of_mem listed)
  rw [encodedLen] at part
  omega

theorem eq_nil_of_encodeAll (none : encodeAll infos = []) : infos = [] := by
  cases infos with
  | nil => rfl
  | cons =>
    rw [encodeAll, flatMap_cons, encode] at none
    exact absurd none (cons_ne_nil _ _)

end AdditionalInfo

namespace CemiFrame

open AdditionalInfo (encodeAll)

theorem addInfoLen_eq (frame : CemiFrame) :
    frame.addInfoLen = (encodeAll frame.additionalInfo).length := by
  rw [encodeAll, length_flatMap, addInfoLen]
  simp only [encode_length]

theorem decodeAdditionalInfo_encode (behind : Bytes) (short : (encodeAll infos).length ≤ 255) :
    decodeAdditionalInfo (ofNat (encodeAll infos).length :: (encodeAll infos ++ behind)) =
      .ok infos behind := by
  have listed : decodeAll (encodeAll infos) = .ok infos [] :=
    collectFrom_encode (data_short short) []
  have size : (ofNat (encodeAll infos).length).toNat = (encodeAll infos).length :=
    toNat_ofNat_of_lt' (Nat.lt_succ_of_le short)
  have enough : (encodeAll infos).length ≤ (encodeAll infos ++ behind).length := by
    rw [length_append]
    exact Nat.le_add_right _ _
  rw [decodeAdditionalInfo, bind_ok (getU8_cons _ _)]
  split_ifs with present
  · rw [size, bind_ok (requireBytes_ok enough), bind_ok (copyToSlice_append _ _)]
    exact onSlice_ok behind listed
  · have none : encodeAll infos = [] := by
      apply eq_nil_of_length_eq_zero
      rw [← size]
      apply Nat.eq_zero_of_not_pos
      intro positive
      exact present (lt_iff_toNat_lt.mpr positive)
    rw [eq_nil_of_encodeAll none]
    rfl

def readBack (data : Bytes) : Bytes := if data = [0] then [] else data

variable (apciByte : UInt8) {apci : Apci} {frame : CemiFrame}

theorem apci_byte (service : apci = .groupValueWrite ∨ apci = .groupValueResponse) :
    apci.encode.toUInt8 &&& 0xFC ≠ 0 ∧ Apci.decode apci.encode.toUInt8.toUInt16 = apci := by
  rcases service with write | response
  · rw [write]
    decide
  · rw [response]
    decide

theorem merged (service : apci = .groupValueWrite ∨ apci = .groupValueResponse) {byte : UInt8}
    (small : byte ≤ 0x3F) :
    smallData (apci.encode.toUInt8 ||| (byte &&& 0x3F)) =
      readBack [byte] ∧ Apci.decode (apci.encode.toUInt8 ||| (byte &&& 0x3F)).toUInt16 = apci := by
  have below : byte.toNat < 64 := Nat.lt_succ_of_le (UInt8.le_iff_toNat_le.mp small)
  have writes : ∀ number : Fin 64, smallData (0x80 ||| (UInt8.ofNat number.val &&& 0x3F)) =
          readBack [UInt8.ofNat number.val] ∧
        Apci.decode (0x80 ||| (UInt8.ofNat number.val &&& 0x3F)).toUInt16 = .groupValueWrite := by
    decide
  have responses : ∀ number : Fin 64, smallData (0x40 ||| (UInt8.ofNat number.val &&& 0x3F)) =
          readBack [UInt8.ofNat number.val] ∧
        Apci.decode (0x40 ||| (UInt8.ofNat number.val &&& 0x3F)).toUInt16 =
          .groupValueResponse := by
    decide
  rw [← UInt8.ofNat_toNat (x := byte)]
  rcases service with write | response
  · rw [write]
    exact writes ⟨byte.toNat, below⟩
  · rw [response]
    exact responses ⟨byte.toNat, below⟩

theorem decodeNpdu_merged :
    decodeNpdu [1, apciByte] = .ok (Apci.decode apciByte.toUInt16, smallData apciByte) [] :=
  rfl

variable {data : Bytes}

theorem decodeNpdu_full {apciByte : UInt8} (compact : apciByte &&& 0xFC ≠ 0)
    (present : data ≠ []) (short : data.length ≤ 254) :
    decodeNpdu (UInt8.ofNat (data.length + 1) :: apciByte :: data) =
      .ok (Apci.decode apciByte.toUInt16, data) [] := by
  have size : (UInt8.ofNat (data.length + 1)).toNat = data.length + 1 :=
    toNat_ofNat_of_lt' (Nat.lt_succ_of_le (Nat.succ_le_succ short))
  have positive : 0 < data.length := length_pos_iff.mpr present
  have enough : data.length + 1 ≤ (apciByte :: data).length := le_refl _
  have whole : (copyToSlice data.length : Cursor KnxError Bytes) data = .ok data [] := by
    rw [copyToSlice_ok (le_refl _), take_length, drop_length]
  rw [decodeNpdu, bind_ok (getU8_cons _ _), size,
    bind_ok (requireBytes_ok enough), bind_ok (getU8_cons _ _), decodeService,
    if_neg (fun both => compact both.2), if_neg (by omega),
    bind_ok (checkedSub_ok _ (Nat.le_add_left 1 data.length)), Nat.add_sub_cancel,
    bind_ok whole]
  rfl

theorem readBack_of_ne (other : data ≠ [0]) : readBack data = data :=
  if_neg other

theorem decodeNpdu_encodeNpdu (service : apci = .groupValueWrite ∨ apci = .groupValueResponse)
    (present : data ≠ []) (short : data.length ≤ 254) :
    decodeNpdu (encodeNpdu apci.encode.toUInt8 data) = .ok (apci, readBack data) [] := by
  have byte := apci_byte service
  have full := decodeNpdu_full byte.1 present short
  rw [byte.2] at full
  match data with
  | [] => exact absurd rfl present
  | [single] =>
    rw [encodeNpdu]
    split_ifs with small
    · rw [decodeNpdu_merged, (merged service small).1, (merged service small).2]
    · rw [full, readBack_of_ne]
      intro zero
      rw [List.singleton_inj.mp zero] at small
      exact small (by decide)
  | first :: second :: others =>
    rw [readBack_of_ne (by simp)]
    exact full

structure GroupTelegram (frame : CemiFrame) : Prop where
  isData : frame.messageCode.isData
  toGroup : frame.addressType = .group
  service : frame.apci = .groupValueWrite ∨ frame.apci = .groupValueResponse
  hops : frame.hopCount ≤ 7
  infoShort : frame.addInfoLen ≤ 255
  present : frame.data ≠ []
  dataShort : frame.data.length ≤ 254

theorem control1_fields (frame : CemiFrame) :
    Priority.fromBits ((frame.control1 >>> 2) &&& 0x03) = frame.priority ∧
      (frame.control1 &&& 0x01 != 0) = frame.confirm ∧
      (frame.control1 &&& 0x20 == 0) = frame.ackRequest ∧
      (frame.control1 &&& 0x10 != 0) = false := by
  unfold control1
  cases frame.priority <;> cases frame.confirm <;> cases frame.ackRequest <;> decide

theorem control2_fields (toGroup : frame.addressType = .group) (hops : frame.hopCount ≤ 7) :
    AddressType.fromBit (frame.control2 &&& 0x80 != 0) = .group ∧ frame.control2 &&& 0x07 =
      frame.hopCount := by
  have below : frame.hopCount.toNat < 8 := Nat.lt_succ_of_le (le_iff_toNat_le.mp hops)
  have counts : ∀ number : Fin 8,
      AddressType.fromBit ((0x80 ||| (ofNat number.val &&& 0x07)) &&& 0x80 != 0) = .group ∧
        (0x80 ||| (ofNat number.val &&& 0x07)) &&& 0x07 = ofNat number.val := by
    decide
  rw [control2, toGroup, ← UInt8.ofNat_toNat (x := frame.hopCount)]
  exact counts ⟨frame.hopCount.toNat, below⟩

theorem encodeNpdu_length_pos (data : Bytes) : 1 ≤ (encodeNpdu apciByte data).length := by
  unfold encodeNpdu
  split
  · exact Nat.le_add_left 1 1
  · split_ifs
    · exact Nat.le_add_left 1 1
    · exact Nat.le_add_left 1 _
  · exact Nat.le_add_left 1 _

theorem GroupTelegram.decodeLData_encode (telegram : frame.GroupTelegram) :
    decodeLData frame.messageCode frame.additionalInfo
        (frame.control1 :: frame.control2 :: (putU16 frame.source.encode ++
          (putU16 frame.destination ++ encodeNpdu frame.apci.encode.toUInt8 frame.data))) =
      .ok { frame with systemBroadcast := false, data := readBack frame.data } [] := by
  have npdu := decodeNpdu_encodeNpdu telegram.service telegram.present telegram.dataShort
  have first := frame.control1_fields
  have second := control2_fields telegram.toGroup telegram.hops
  have enough : 7 ≤ (frame.control1 :: frame.control2 :: (putU16 frame.source.encode ++
      (putU16 frame.destination ++ encodeNpdu frame.apci.encode.toUInt8 frame.data))).length := by
    have some := encodeNpdu_length_pos frame.apci.encode.toUInt8 frame.data
    simp only [putU16, length_cons, length_append, BigEndian.bytes_length]
    omega
  rw [decodeLData, bind_ok (requireBytes_ok enough), bind_ok (getU8_cons _ _),
    bind_ok (getU8_cons _ _), bind_ok (getU16_putU16 _ _),
    bind_ok (getU16_putU16 _ _), bind_ok npdu]
  simp only [pure_apply, IndividualAddress.decode_encode, first.1, first.2.1, first.2.2.1,
    first.2.2.2, second.1, second.2, ← telegram.toGroup]

theorem GroupTelegram.decode_encode (telegram : frame.GroupTelegram) : decode frame.encode =
      some (.ok { frame with systemBroadcast := false, data := readBack frame.data }) := by
  have data := telegram.isData
  have notRaw : (frame.messageCode.isPropertyService || frame.messageCode.isResetService) = false ∧
      frame.messageCode ≠ .lBusmonInd := by
    revert data
    cases frame.messageCode <;> decide
  have body : frame.encodeBody = frame.control1 :: frame.control2 :: (putU16 frame.source.encode ++
        (putU16 frame.destination ++ encodeNpdu frame.apci.encode.toUInt8 frame.data)) := by
    rw [encodeBody, notRaw.1, if_neg Bool.false_ne_true, if_neg notRaw.2]
  have two : 2 ≤ frame.encode.length := Nat.le_add_left 2 _
  have known (behind : Bytes) : (liftOption (.unknownMessageCode frame.messageCode.code)
        (MessageCode.tryFromU8 frame.messageCode.code) : Cursor KnxError MessageCode) behind =
      .ok frame.messageCode behind := by
    rw [MessageCode.tryFromU8_code]
    rfl
  have infos : decodeAdditionalInfo (ofNat frame.addInfoLen ::
      (encodeAll frame.additionalInfo ++ frame.encodeBody)) =
        .ok frame.additionalInfo frame.encodeBody := by
    rw [addInfoLen_eq]
    apply decodeAdditionalInfo_encode
    rw [← addInfoLen_eq]
    exact telegram.infoShort
  have decoded : decodeFrame frame.encode =
      .ok { frame with systemBroadcast := false, data := readBack frame.data } [] := by
    rw [decodeFrame, bind_ok (requireBytes_ok two), encode, bind_ok (getU8_cons _ _),
      bind_ok (known _), bind_ok infos, decodeBody, notRaw.1, if_neg Bool.false_ne_true,
      if_neg notRaw.2, body, telegram.decodeLData_encode]
  rw [decode, decoded]
  rfl

/-- A group telegram survives the wire exactly if its payload is not the single byte zero. -/
theorem telegram_survives_iff {frame : CemiFrame} (telegram : frame.GroupTelegram) :
    decode frame.encode = some (.ok { frame with systemBroadcast := false }) ↔
      frame.data ≠ [0] := by
  rw [telegram.decode_encode, Option.some_inj, Except.ok.injEq]
  constructor
  · intro same zero
    have data : readBack frame.data = frame.data := congrArg CemiFrame.data same
    rw [zero] at data
    exact absurd data (by decide)
  · intro other
    rw [readBack_of_ne other]

/-- A dimming value over the wire. -/
theorem one_byte_survives :
    let frame : CemiFrame := ⟨.lDataInd, [⟨3, [7]⟩], ⟨1, 1, 5, by decide, by decide⟩, 0x0801, .group,
      6, .low, false, true, false, .groupValueWrite, [0x7F]⟩
    frame.GroupTelegram ∧ decode frame.encode = some (.ok frame) := by
  intro frame
  have telegram : frame.GroupTelegram :=
    ⟨rfl, rfl, Or.inl rfl, by decide, by decide, by decide, by decide⟩
  exact ⟨telegram, (telegram_survives_iff telegram).mpr (by decide)⟩

/-- Switching off is sent without its payload. -/
theorem zero_byte_lost :
    let frame : CemiFrame := ⟨.lDataInd, [], ⟨1, 1, 5, by decide, by decide⟩, 0x0801, .group,
      6, .low, false, false, false, .groupValueWrite, [0]⟩
    frame.GroupTelegram ∧ decode frame.encode = some (.ok { frame with data := [] }) :=
  ⟨⟨rfl, rfl, Or.inl rfl, by decide, by decide, by decide, by decide⟩, by decide⟩

end CemiFrame

end Mabinogion.Knx
