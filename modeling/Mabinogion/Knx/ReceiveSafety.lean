import Mabinogion.Knx.CemiRoundTrip
import Mabinogion.Knx.Frame

/-!
# Panics of the receive path

A total length below the size of the header underflows, and a data frame that ends behind a
length of zero has no byte for its service; on every other datagram the receive path returns.
-/

namespace Mabinogion.Knx

open Checked ByteCursor ServiceType TunnellingRequest MessageCode KnxFrame Within
open List (length length_append)

variable {data : Bytes}

section

variable {Result : Type} {expected : Nat} {next : Unit → Cursor KnxError Result}

theorem faults_requireBytes_bind : Faults (requireBytes expected >>= next) data ↔
      expected ≤ data.length ∧ Faults (next ()) data := by
  by_cases enough : expected ≤ data.length
  · rw [Faults, bind_ok (requireBytes_ok enough), ← Faults]
    simp [enough]
  · rw [Faults, bind_err (requireBytes_err (Nat.lt_of_not_le enough))]
    simp [enough]

theorem safe_requireBytes_bind (covered : Within expected (next ())) :
    Safe (requireBytes expected >>= next) := by
  intro data faulted
  rw [faults_requireBytes_bind] at faulted
  exact covered data faulted.1 faulted.2

end

theorem safe_hpai : Safe Hpai.decode := by
  apply safe_requireBytes_bind
  refine getU8_bind (n := 7) fun length => failIf_bind ?_
  refine getU8_bind (n := 6) fun protocolCode => liftOption_bind fun protocol => ?_
  refine getU8_bind fun a => getU8_bind fun b => getU8_bind fun c =>
    getU8_bind fun d => ?_
  exact getU16_bind (n := 0) fun port => within_of_safe (safe_pure _)

theorem safe_connectionRequestInfo : Safe ConnectionRequestInfo.decode := by
  apply safe_requireBytes_bind
  refine getU8_bind (n := 3) fun length => failIf_bind ?_
  refine getU8_bind (n := 2) fun type => liftOption_bind fun connectionType => ?_
  exact getU8_bind (n := 1) fun layer => getU8_bind (n := 0) fun reserved =>
    within_of_safe (safe_pure _)

theorem safe_channelRequest : Safe ChannelRequest.decode := by
  apply safe_requireBytes_bind
  refine getU8_bind (n := 9) fun channelId => getU8_bind (n := 8) fun reserved => ?_
  exact rest_bind fun behind => onSlice_bind safe_hpai fun endpoint =>
    within_of_safe (safe_pure _)

theorem safe_tunnellingAck : Safe TunnellingAck.decode := by
  apply safe_requireBytes_bind
  exact getU8_bind (n := 3) fun headerLength => getU8_bind (n := 2) fun channelId =>
    getU8_bind (n := 1) fun sequenceCounter => getU8_bind (n := 0) fun status =>
      within_of_safe (safe_pure _)

theorem safe_connectRequest : Safe ConnectRequest.decode := by
  apply safe_requireBytes_bind
  refine rest_bind fun data => onSlice_bind safe_hpai fun controlEndpoint => ?_
  refine sliceFrom_bind (by decide) fun behindControl => ?_
  refine onSlice_bind safe_hpai fun dataEndpoint => ?_
  refine sliceFrom_bind (by decide) fun behindData => ?_
  exact onSlice_bind safe_connectionRequestInfo fun cri => within_of_safe (safe_pure _)

variable {infos : List AdditionalInfo}

namespace AdditionalInfo

theorem safe_decode : Safe decode := by
  intro data faulted
  rcases faulted with ⟨fault, ran⟩
  rcases decode_cases data with ⟨infoType, length, behind, shape, enough⟩ | ⟨error, after, failed⟩
  · rw [shape, decode_ok infoType length enough] at ran
    injection ran
  · rw [failed] at ran
    injection ran

theorem safe_decodeAll : Safe decodeAll := Safe.collectUntil consumes_decode safe_decode

theorem decodeAll_eq_ok {data after : Bytes} (returned : decodeAll data = .ok infos after) :
    data = encodeAll infos := by
  have read := @collectUntil_invariant _ _ _ _ _ _ _ _ consumes_decode
    (fun infos left => data = encodeAll infos ++ left) ?_ rfl _ returned
  · rw [read.1, List.isEmpty_iff.mp read.2, List.append_nil]
  · rintro infos left info after rfl ran
    rw [(decode_eq_ok ran).1, encodeAll, encodeAll, List.flatMap_append, List.flatMap_singleton,
      List.append_assoc]

end AdditionalInfo

variable {messageCode : MessageCode} {additionalInfo : List AdditionalInfo}

namespace CemiFrame

open AdditionalInfo (encodeAll)

theorem within_decodeAdditionalInfo : Within 1 decodeAdditionalInfo := by
  apply getU8_bind (n := 0)
  intro addInfoLen
  apply within_of_safe
  split_ifs with present
  · apply safe_requireBytes_bind
    apply copyToSlice_bind (le_refl _)
    intro addInfoBuf data _ faulted
    exact AdditionalInfo.safe_decodeAll addInfoBuf (faults_onSlice.mp faulted)
  · exact safe_pure []

theorem decodeAdditionalInfo_eq_ok {data after : Bytes}
    (returned : decodeAdditionalInfo data = .ok infos after) :
    (encodeAll infos).length ≤ 255 ∧ data =
      UInt8.ofNat (encodeAll infos).length :: (encodeAll infos ++ after) := by
  match data with
  | [] => injection returned
  | addInfoLen :: behind =>
    rw [decodeAdditionalInfo, bind_ok (getU8_cons _ _)] at returned
    split_ifs at returned with present
    · by_cases enough : addInfoLen.toNat ≤ behind.length
      · rw [bind_ok (requireBytes_ok enough), bind_ok (copyToSlice_ok enough)] at returned
        rcases onSlice_eq_ok returned with ⟨left, rest, listed⟩
        have bytes := AdditionalInfo.decodeAll_eq_ok listed
        have size : (encodeAll infos).length = addInfoLen.toNat := by
          rw [← bytes, List.length_take]
          exact Nat.min_eq_left enough
        rw [size, UInt8.ofNat_toNat, ← bytes, left, List.take_append_drop]
        exact ⟨Nat.le_of_lt_succ addInfoLen.toNat_lt, rfl⟩
      · rw [bind_err (requireBytes_err (Nat.lt_of_not_le enough))] at returned
        injection returned
    · injection returned with none left
      have zero : addInfoLen = 0 := by
        apply UInt8.toNat_inj.mp
        apply Nat.eq_zero_of_not_pos
        intro positive
        exact present (UInt8.lt_iff_toNat_lt.mpr positive)
      rw [zero, ← none, left]
      exact ⟨Nat.zero_le 255, rfl⟩

theorem within_decodeService (npduLen : Nat) (apciByte1 : UInt8) :
    Within (npduLen - 1) (decodeService npduLen apciByte1) := by
  apply Within.ite
  · intro twoBytes
    have long : npduLen - 1 = npduLen - 2 + 1 := by
      have two := twoBytes.1
      omega
    rw [long]
    apply getU8_bind
    intro apciByte2
    apply Within.checkedSub_bind twoBytes.1
    apply Within.ite
    · intro _
      exact within_of_safe (safe_pure _)
    · intro _
      apply copyToSlice_bind (le_refl _)
      intro data
      exact within_of_safe (safe_pure _)
  · intro _
    apply Within.ite
    · intro _
      exact within_of_safe (safe_pure _)
    · intro long
      apply Within.checkedSub_bind (Nat.le_of_not_le long)
      apply copyToSlice_bind (le_refl _)
      intro data
      exact within_of_safe (safe_pure _)

theorem faults_decodeNpdu (byte : UInt8) (behind : Bytes) :
    Faults decodeNpdu (byte :: behind) ↔ byte = 0 ∧ behind = [] := by
  rw [decodeNpdu, Faults, bind_ok (getU8_cons _ _), ← Faults, faults_requireBytes_bind]
  cases behind with
  | nil =>
    have empty : Faults (getU8 : Cursor KnxError UInt8) [] := ⟨.indexOutOfRange, rfl⟩
    rw [faults_bind]
    constructor
    · intro both
      exact ⟨UInt8.toNat_inj.mp (Nat.eq_zero_of_le_zero both.1), rfl⟩
    · intro both
      rw [both.1]
      exact ⟨le_refl 0, Or.inl empty⟩
  | cons apciByte1 behind =>
    rw [Faults, bind_ok (getU8_cons _ _)]
    constructor
    · intro both
      have covered : byte.toNat - 1 ≤ behind.length := Nat.sub_le_of_le_add both.1
      exact absurd both.2 (within_decodeService byte.toNat apciByte1 behind covered)
    · intro both
      exact absurd both.2 (List.cons_ne_nil apciByte1 behind)

theorem faults_decodeLData_cons (messageCode : MessageCode) (additionalInfo : List AdditionalInfo)
    (ctrl1 ctrl2 source1 source2 destination1 destination2 npduLen : UInt8) (behind : Bytes) :
    Faults (decodeLData messageCode additionalInfo) (ctrl1 :: ctrl2 :: source1 :: source2 ::
        destination1 :: destination2 :: npduLen :: behind) ↔ npduLen = 0 ∧ behind = [] := by
  have enough : 7 ≤ (ctrl1 :: ctrl2 :: source1 :: source2 :: destination1 :: destination2 ::
      npduLen :: behind).length := Nat.le_add_left 7 behind.length
  rw [decodeLData, faults_requireBytes_bind, ← faults_decodeNpdu]
  constructor
  · intro both
    exact (faults_bind_safe fun _ => safe_pure _).mp both.2
  · intro faulted
    exact ⟨enough, (faults_bind_safe fun _ => safe_pure _).mpr faulted⟩

theorem faults_decodeLData : Faults (decodeLData messageCode additionalInfo) data ↔
      ∃ fields : Bytes, fields.length = 6 ∧ data = fields ++ [0] := by
  constructor
  · intro faulted
    have enough := (faults_requireBytes_bind.mp faulted).1
    match data with
    | ctrl1 :: ctrl2 :: source1 :: source2 :: destination1 :: destination2 :: npduLen :: behind =>
      rcases (faults_decodeLData_cons _ _ _ _ _ _ _ _ _ _).mp faulted with ⟨zero, last⟩
      rw [zero, last]
      exact ⟨[ctrl1, ctrl2, source1, source2, destination1, destination2], rfl, rfl⟩
    | [] | [_] | [_, _] | [_, _, _] | [_, _, _, _] | [_, _, _, _, _] | [_, _, _, _, _, _] =>
      exact absurd enough (by simp)
  · intro ends
    rcases ends with ⟨fields, six, shape⟩
    match fields with
    | [ctrl1, ctrl2, source1, source2, destination1, destination2] =>
      rw [shape]
      exact (faults_decodeLData_cons _ _ _ _ _ _ _ _ _ _).mpr ⟨rfl, rfl⟩

end CemiFrame

/-- Frames with control bytes, addresses and a network protocol data unit. -/
def MessageCode.hasNpdu (messageCode : MessageCode) : Bool :=
  !(messageCode.isPropertyService || messageCode.isResetService) && messageCode != .lBusmonInd

theorem MessageCode.eq_code {byte : UInt8} (known : tryFromU8 byte = some messageCode) :
    byte = messageCode.code := by
  unfold tryFromU8 at known
  split at known <;> first | injection known with same; rw [← same]; rfl | injection known

namespace CemiFrame

open AdditionalInfo (encodeAll)

/-- A frame that ends behind the zero length of its unit. -/
def LacksService (cemi : Bytes) : Prop :=
  ∃ (messageCode : MessageCode) (infos : List AdditionalInfo) (fields : Bytes),
    messageCode.hasNpdu ∧ (encodeAll infos).length ≤ 255 ∧ fields.length = 6 ∧
      cemi = messageCode.code :: UInt8.ofNat (encodeAll infos).length ::
        (encodeAll infos ++ (fields ++ [0]))

theorem faults_decodeBody : Faults (decodeBody messageCode additionalInfo) data ↔
      messageCode.hasNpdu ∧ ∃ fields : Bytes, fields.length = 6 ∧ data = fields ++ [0] := by
  have returns (view : Bytes → CemiFrame) :
      ¬Faults (do let data ← rest; pure (view data) : Cursor KnxError CemiFrame) data := by
    rw [faults_rest_bind]
    exact safe_pure _ data
  unfold decodeBody hasNpdu
  split_ifs with property busMonitor
  · simp [property, returns]
  · simp [busMonitor, returns]
  · rw [Bool.not_eq_true] at property
    simp only [property, busMonitor, Bool.not_false, Bool.true_and, bne_iff_ne, ne_eq,
      not_false_eq_true, true_and]
    exact faults_decodeLData

theorem faults_decodeFrame {cemi : Bytes} : Faults decodeFrame cemi ↔ LacksService cemi := by
  rw [decodeFrame, faults_requireBytes_bind]
  constructor
  · intro both
    cases cemi with
    | nil => exact absurd both.1 (by simp)
    | cons byte behind =>
      have inside : 1 ≤ behind.length := Nat.le_of_succ_le_succ both.1
      have faulted := both.2
      rw [Faults, bind_ok (getU8_cons _ _), ← Faults, faults_liftOption_bind] at faulted
      rcases faulted with ⟨messageCode, known, later⟩
      rw [faults_bind, or_iff_right (within_decodeAdditionalInfo behind inside)] at later
      rcases later with ⟨infos, after, returned, fault⟩
      rcases faults_decodeBody.mp fault with ⟨npdu, fields, six, last⟩
      rcases decodeAdditionalInfo_eq_ok returned with ⟨short, shape⟩
      rw [eq_code known, shape, last]
      exact ⟨messageCode, infos, fields, npdu, short, six, rfl⟩
  · intro lacks
    rcases lacks with ⟨messageCode, infos, fields, npdu, short, six, shape⟩
    rw [shape]
    constructor
    · exact Nat.le_add_left 2 _
    · rw [Faults, bind_ok (getU8_cons _ _), ← Faults, faults_liftOption_bind]
      refine ⟨messageCode, tryFromU8_code messageCode, ?_⟩
      rw [Faults, bind_ok (decodeAdditionalInfo_encode (fields ++ [0]) short), ← Faults,
        faults_decodeBody]
      exact ⟨npdu, fields, six, rfl⟩

end CemiFrame

theorem ServiceType.eq_code {value : UInt16} {serviceType : ServiceType}
    (known : fromValue value = some serviceType) : value = serviceType.code := by
  unfold fromValue at known
  split at known <;> first | injection known with same; rw [← same]; rfl | injection known

def datagram (serviceType : ServiceType) (total : UInt16) (behind : Bytes) : Bytes :=
  headerSize :: protocolVersion :: (putU16 serviceType.code ++ (putU16 total ++ behind))

theorem datagram_length (serviceType : ServiceType) (total : UInt16) (behind : Bytes) :
    (datagram serviceType total behind).length = 6 + behind.length := by
  simp only [datagram, putU16, List.length_cons, length_append, BigEndian.bytes_length]
  omega

namespace KnxFrame

theorem decode_datagram (serviceType : ServiceType) (total : UInt16) (behind : Bytes) :
    decode (datagram serviceType total behind) = (do
        failIf (6 + behind.length < total.toNat)
          (.frameLengthMismatch total.toNat (6 + behind.length))
        let bodyLength ← checkedSub total.toNat headerSize.toNat
        let body ← copyToSlice bodyLength
        pure ⟨serviceType, body⟩ : Cursor KnxError KnxFrame) behind := by
  have six : headerSize.toNat ≤ (datagram serviceType total behind).length := by
    rw [datagram_length]
    exact Nat.le_add_right 6 _
  have known (after : Bytes) : tryFrom serviceType.code after = .ok serviceType after := by
    rw [tryFrom, fromValue_code]
    rfl
  have all : (rest : Cursor KnxError Bytes) (datagram serviceType total behind) =
      .ok (datagram serviceType total behind) (datagram serviceType total behind) := rfl
  rw [decode, bind_ok all, bind_ok (requireBytes_ok six), datagram_length, datagram,
    bind_ok (getU8_cons _ _), bind_ok (failIf_ok _ _ (bne_self_eq_false headerSize)),
    bind_ok (getU8_cons _ _),
    bind_ok (failIf_ok _ _ (bne_self_eq_false protocolVersion)),
    bind_ok (getU16_putU16 _ _), bind_ok (known _), bind_ok (getU16_putU16 _ _)]

section

variable (serviceType : ServiceType) {total : UInt16} {behind : Bytes}

theorem decode_mismatch (long : 6 + behind.length < total.toNat) :
    decode (datagram serviceType total behind) =
      .err (.frameLengthMismatch total.toNat (6 + behind.length)) behind := by
  rw [decode_datagram, bind_err (failIf_err _ _ (decide_eq_true long))]

theorem decode_underflow (short : total.toNat < headerSize.toNat) :
    decode (datagram serviceType total behind) = .fault .underflow := by
  have inside : ¬6 + behind.length < total.toNat := by
    have six : total.toNat < 6 := short
    omega
  rw [decode_datagram, bind_ok (failIf_ok _ _ (decide_eq_false inside)),
    bind_fault (checkedSub_underflow _ short)]

theorem decode_ok (covered : headerSize.toNat ≤ total.toNat)
    (inside : total.toNat ≤ 6 + behind.length) :
    decode (datagram serviceType total behind) =
      .ok ⟨serviceType, behind.take (total.toNat - headerSize.toNat)⟩
        (behind.drop (total.toNat - headerSize.toNat)) := by
  have enough : total.toNat - headerSize.toNat ≤ behind.length := Nat.sub_le_of_le_add (by
    rw [add_comm]
    exact inside)
  rw [decode_datagram, bind_ok (failIf_ok _ _ (decide_eq_false (not_lt.mpr inside))),
    bind_ok (checkedSub_ok _ covered), bind_ok (copyToSlice_ok enough)]
  rfl

end

/-- Everything else is refused. -/
theorem decode_cases (data : Bytes) :
    (∃ serviceType total behind, data = datagram serviceType total behind) ∨
      ∃ error after, decode data = .err error after := by
  have all : (rest : Cursor KnxError Bytes) data = .ok data data := rfl
  by_cases enough : headerSize.toNat ≤ data.length
  · match data with
    | size :: version :: service1 :: service2 :: total1 :: total2 :: behind =>
      rw [decode, bind_ok all, bind_ok (requireBytes_ok enough), bind_ok (getU8_cons _ _)]
      by_cases sameSize : size = headerSize
      · rw [sameSize, bind_ok (failIf_ok _ _ (bne_self_eq_false headerSize)),
          bind_ok (getU8_cons _ _)]
        by_cases sameVersion : version = protocolVersion
        · have value (after : Bytes) : (getU16 : Cursor KnxError UInt16)
              (service1 :: service2 :: after) = .ok (u16Of service1 service2) after := rfl
          rw [sameVersion, bind_ok (failIf_ok _ _ (bne_self_eq_false protocolVersion)),
            bind_ok (value _), tryFrom]
          cases known : fromValue (u16Of service1 service2) with
          | some serviceType =>
            refine Or.inl ⟨serviceType, u16Of total1 total2, behind, ?_⟩
            rw [datagram, ← eq_code known, putU16_u16Of, putU16_u16Of]
            rfl
          | none => exact Or.inr ⟨_, _, rfl⟩
        · exact Or.inr ⟨_, _, bind_err (failIf_err _ _ (bne_iff_ne.mpr sameVersion))⟩
      · exact Or.inr ⟨_, _, bind_err (failIf_err _ _ (bne_iff_ne.mpr sameSize))⟩
    | [] | [_] | [_, _] | [_, _, _] | [_, _, _, _] | [_, _, _, _, _] =>
      exact absurd enough (by simp [headerSize])
  · right
    rw [decode, bind_ok all, bind_err (requireBytes_err (Nat.lt_of_not_le enough))]
    exact ⟨_, _, rfl⟩

end KnxFrame

theorem faults_tunnellingRequest {body : Bytes} : Faults TunnellingRequest.decode body ↔
      ∃ connectionHeader cemi : Bytes, connectionHeader.length = 4 ∧
        CemiFrame.LacksService cemi ∧ body = connectionHeader ++ cemi := by
  have behindHeader (headerLength channelId sequenceCounter reserved : UInt8) (cemi : Bytes) :
      Faults TunnellingRequest.decode
          (headerLength :: channelId :: sequenceCounter :: reserved :: cemi) ↔
        CemiFrame.LacksService cemi := by
    have enough : 4 ≤ (headerLength :: channelId :: sequenceCounter :: reserved :: cemi).length :=
      Nat.le_add_left 4 cemi.length
    rw [TunnellingRequest.decode, faults_requireBytes_bind, ← CemiFrame.faults_decodeFrame]
    constructor
    · intro both
      exact (faults_bind_safe fun _ => safe_pure _).mp both.2
    · intro faulted
      exact ⟨enough, (faults_bind_safe fun _ => safe_pure _).mpr faulted⟩
  constructor
  · intro faulted
    have enough := (faults_requireBytes_bind.mp faulted).1
    match body with
    | headerLength :: channelId :: sequenceCounter :: reserved :: cemi =>
      exact ⟨[headerLength, channelId, sequenceCounter, reserved], cemi, rfl,
        (behindHeader _ _ _ _ _).mp faulted, rfl⟩
    | [] | [_] | [_, _] | [_, _, _] => exact absurd enough (by simp)
  · intro lacks
    rcases lacks with ⟨connectionHeader, cemi, four, lacks, shape⟩
    match connectionHeader with
    | [headerLength, channelId, sequenceCounter, reserved] =>
      rw [shape]
      exact (behindHeader headerLength channelId sequenceCounter reserved cemi).mpr lacks

namespace Packet

theorem faults_decodeBody {frame : KnxFrame} : Faults (decodeBody frame) data ↔
      frame.serviceType = .tunnellingRequest ∧ Faults TunnellingRequest.decode frame.body := by
  have handled {Value : Type} (read : Cursor KnxError Value) (view : Value → Packet) :
      Faults (do let value ← onSlice frame.body read; pure (view value) :
        Cursor KnxError Packet) data ↔ Faults read frame.body := by
    rw [faults_bind_safe fun _ => safe_pure _, faults_onSlice]
  unfold decodeBody
  split
  case h_1 service => simp [service, safe_pure _ data]
  case h_2 service => simp [service, safe_pure _ data]
  case h_3 service => simp [service, handled, safe_connectRequest frame.body]
  case h_4 service =>
      simp [service, handled, ConnectionStateRequest.decode, safe_channelRequest frame.body]
  case h_5 service =>
      simp [service, handled, DisconnectRequest.decode, safe_channelRequest frame.body]
  case h_6 service => simp [service, handled]
  case h_7 service => simp [service, handled, safe_tunnellingAck frame.body]
  case h_8 tunnelling _ => exact iff_of_false (safe_pure _ data) fun both => tunnelling both.1

/-- The total length does not cover the header. -/
def HeaderUnderflow (data : Bytes) : Prop :=
  ∃ serviceType total behind, data = datagram serviceType total behind ∧ total < 6

/-- The cEMI frame that the total length delimits ends where its service should be. -/
def ServiceMissing (data : Bytes) : Prop :=
  ∃ (total : UInt16) (connectionHeader cemi behind : Bytes), connectionHeader.length = 4 ∧
    total.toNat = 10 + cemi.length ∧ CemiFrame.LacksService cemi ∧
      data = datagram .tunnellingRequest total (connectionHeader ++ cemi ++ behind)

theorem faults_decode_of_underflow (underflow : HeaderUnderflow data) : Faults decode data := by
  rcases underflow with ⟨serviceType, total, behind, shape, short⟩
  rw [shape, decode, faults_bind]
  exact Or.inl ⟨.underflow, decode_underflow serviceType (UInt16.lt_iff_toNat_lt.mp short)⟩

theorem faults_decode_of_missing (missing : ServiceMissing data) : Faults decode data := by
  rcases missing with ⟨total, connectionHeader, cemi, behind, four, size, lacks, shape⟩
  have covered : headerSize.toNat ≤ total.toNat := by
    show 6 ≤ total.toNat
    omega
  have bodyLength : total.toNat - headerSize.toNat = (connectionHeader ++ cemi).length := by
    show total.toNat - 6 = _
    rw [length_append]
    omega
  have inside : total.toNat ≤ 6 + (connectionHeader ++ cemi ++ behind).length := by
    rw [length_append, length_append]
    omega
  have framed := decode_ok .tunnellingRequest covered inside
  rw [bodyLength, List.take_left, List.drop_left] at framed
  rw [shape, decode, Faults, bind_ok framed, ← Faults, faults_decodeBody]
  exact ⟨rfl, faults_tunnellingRequest.mpr ⟨connectionHeader, cemi, four, lacks, rfl⟩⟩

theorem faults_decode : Faults decode data ↔ HeaderUnderflow data ∨ ServiceMissing data := by
  constructor
  · intro faulted
    rcases decode_cases data with ⟨serviceType, total, behind, shape⟩ | ⟨error, after, failed⟩
    · by_cases covered : headerSize.toNat ≤ total.toNat
      · by_cases inside : total.toNat ≤ 6 + behind.length
        · -- The header is fine, so that the fault is in the body.
          rw [shape, decode, Faults, bind_ok (decode_ok serviceType covered inside),
            ← Faults, faults_decodeBody, faults_tunnellingRequest] at faulted
          rcases faulted with ⟨tunnelling, connectionHeader, cemi, four, lacks, body⟩
          right
          refine ⟨total, connectionHeader, cemi, behind.drop (total.toNat - 6), four, ?_, lacks, ?_⟩
          · have sizes := congrArg length body
            rw [List.length_take, length_append, four] at sizes
            have six : headerSize.toNat = 6 := rfl
            omega
          · rw [shape, ← body, ← tunnelling]
            exact congrArg _ (List.take_append_drop _ _).symm
        · rw [shape, decode, Faults,
            bind_err (decode_mismatch serviceType (Nat.lt_of_not_le inside))] at faulted
          rcases faulted with ⟨fault, impossible⟩
          injection impossible
      · exact Or.inl ⟨serviceType, total, behind, shape,
          UInt16.lt_iff_toNat_lt.mpr (Nat.lt_of_not_le covered)⟩
    · rw [decode, Faults, bind_err failed] at faulted
      rcases faulted with ⟨fault, impossible⟩
      injection impossible
  · intro panics
    rcases panics with underflow | missing
    · exact faults_decode_of_underflow underflow
    · exact faults_decode_of_missing missing

/-- Exactly if the total length covers the header and the cEMI frame has its service. -/
theorem receive_returns_iff (data : Bytes) :
    receive data ≠ none ↔ ¬HeaderUnderflow data ∧ ¬ServiceMissing data := by
  rw [ne_eq, receive, ← faults_iff_returned_none, faults_decode, not_or]

/-- A total length below that of the header, and an empty unit. -/
theorem length_zero_and_empty_unit_panic : receive [0x06, 0x10, 0x04, 0x20, 0, 0] = none ∧
      receive [0x06, 0x10, 0x04, 0x20, 0, 19, 4, 1, 0, 0, 0x11, 0, 0xBC, 0xE0, 0x11, 0x05, 0x08,
        0x01, 0] = none :=
  ⟨rfl, rfl⟩

end Packet

end Mabinogion.Knx
