import Mabinogion.Library.ByteCursor
import Mabinogion.Library.MeasuredLoop
import Mabinogion.Knx.Address

/-!
# cEMI frames

The frames that a tunnel carries. Property, reset and bus monitor frames only have raw data.
A payload of one byte below `0x40` is written into the byte of the service; the decoder also
takes a service of two bytes.
-/

namespace Mabinogion.Knx

open Checked ByteCursor

inductive KnxError where
  | frameTooShort (expected actual : Nat)
  | invalidHeader (reason : String)
  | invalidProtocolVersion (expected actual : UInt8)
  | unknownServiceType (value : UInt16)
  | frameLengthMismatch (headerLength actualLength : Nat)
  | invalidHpai (reason : String)
  | unknownMessageCode (value : UInt8)
deriving DecidableEq

/-- `if buf.len() < expected { return Err(frame_too_short(expected, buf.len())) }`. -/
def requireBytes (expected : Nat) : Cursor KnxError Unit := do
  let buf ← rest
  failIf (buf.length < expected) (.frameTooShort expected buf.length)

variable {data : Bytes}

theorem requireBytes_ok {expected : Nat} (enough : expected ≤ data.length) :
    requireBytes expected data = .ok () data := by
  have long : decide (data.length < expected) = false := decide_eq_false (Nat.not_lt.mpr enough)
  show failIf (decide (data.length < expected)) _ data = .ok () data
  rw [long]
  rfl

theorem requireBytes_err {expected : Nat} (short : data.length < expected) :
    requireBytes expected data = .err (.frameTooShort expected data.length) data := by
  show failIf (decide (data.length < expected)) _ data = _
  rw [decide_eq_true short]
  rfl

inductive MessageCode where
  | lDataReq | lDataCon | lDataInd | lBusmonInd | lRawReq | lRawInd | lRawCon | mPropReadReq
  | mPropReadCon | mPropWriteReq | mPropWriteCon | mResetReq | mResetInd
deriving DecidableEq

namespace MessageCode

def code : MessageCode → UInt8
  | lDataReq => 0x11 | lDataCon => 0x2E | lDataInd => 0x29 | lBusmonInd => 0x2B | lRawReq => 0x10
  | lRawInd => 0x2D | lRawCon => 0x2F | mPropReadReq => 0xFC | mPropReadCon => 0xFB
  | mPropWriteReq => 0xF6 | mPropWriteCon => 0xF5 | mResetReq => 0xF1 | mResetInd => 0xF0

def tryFromU8 : UInt8 → Option MessageCode
  | 0x11 => some lDataReq
  | 0x2E => some lDataCon
  | 0x29 => some lDataInd
  | 0x2B => some lBusmonInd
  | 0x10 => some lRawReq
  | 0x2D => some lRawInd
  | 0x2F => some lRawCon
  | 0xFC => some mPropReadReq
  | 0xFB => some mPropReadCon
  | 0xF6 => some mPropWriteReq
  | 0xF5 => some mPropWriteCon
  | 0xF1 => some mResetReq
  | 0xF0 => some mResetInd
  | _ => none

def isData : MessageCode → Bool
  | lDataReq | lDataCon | lDataInd => true
  | _ => false

def isPropertyService : MessageCode → Bool
  | mPropReadReq | mPropReadCon | mPropWriteReq | mPropWriteCon => true
  | _ => false

def isResetService : MessageCode → Bool
  | mResetReq | mResetInd => true
  | _ => false

def toConfirmation : MessageCode → Option MessageCode
  | lDataReq => some lDataCon
  | lRawReq => some lRawCon
  | mPropReadReq => some mPropReadCon
  | mPropWriteReq => some mPropWriteCon
  | mResetReq => some mResetInd
  | _ => none

theorem tryFromU8_code (messageCode : MessageCode) :
    tryFromU8 messageCode.code = some messageCode := by
  cases messageCode <;> rfl

end MessageCode

inductive Priority where
  | system | normal | urgent | low
deriving DecidableEq

def Priority.toBits : Priority → UInt8
  | .system => 0 | .normal => 1 | .urgent => 2 | .low => 3

def Priority.fromBits (value : UInt8) : Priority :=
  match value &&& 0x03 with
  | 0 => .system
  | 1 => .normal
  | 2 => .urgent
  | _ => .low

inductive Apci where
  | groupValueRead | groupValueResponse | groupValueWrite | individualAddressWrite
  | individualAddressRead | individualAddressResponse | adcRead | adcResponse | memoryRead
  | memoryResponse | memoryWrite | userMessage | deviceDescriptorRead | deviceDescriptorResponse
  | restart | escape
  | unknown (value : UInt16)
deriving DecidableEq

namespace Apci

def decode (value : UInt16) : Apci :=
  let apci := value &&& 0x03FF
  let within (first last : UInt16) : Bool := first ≤ apci && apci ≤ last
  if apci = 0x0000 then groupValueRead
  else if within 0x0040 0x007F then groupValueResponse
  else if within 0x0080 0x00FF then groupValueWrite
  else if within 0x0100 0x013F then individualAddressWrite
  else if within 0x0140 0x017F then individualAddressRead
  else if within 0x0180 0x01BF then individualAddressResponse
  else if within 0x01C0 0x01FF then adcRead
  else if within 0x0200 0x023F then adcResponse
  else if within 0x0240 0x027F then memoryRead
  else if within 0x0280 0x02BF then memoryResponse
  else if within 0x02C0 0x02FF then memoryWrite
  else if within 0x0300 0x033F then userMessage
  else if within 0x0340 0x037F then deviceDescriptorRead
  else if within 0x0380 0x03BF then deviceDescriptorResponse
  else if within 0x03C0 0x03DF then restart
  else if within 0x03E0 0x03FF then escape
  else unknown value

/-- From the individual addresses on the values are not those of `decode`. -/
def encode : Apci → UInt16
  | groupValueRead => 0x0000 | groupValueResponse => 0x0040 | groupValueWrite => 0x0080
  | individualAddressWrite => 0x0100 | individualAddressRead => 0x0100
  | individualAddressResponse => 0x0140 | adcRead => 0x0180 | adcResponse => 0x01C0
  | memoryRead => 0x0200 | memoryResponse => 0x0240 | memoryWrite => 0x0280
  | userMessage => 0x02C0 | deviceDescriptorRead => 0x0300 | deviceDescriptorResponse => 0x0340
  | restart => 0x0380 | escape => 0x03C0
  | unknown value => value

def isGroupValue : Apci → Bool
  | groupValueRead | groupValueResponse | groupValueWrite => true
  | _ => false

end Apci

structure AdditionalInfo where
  infoType : UInt8
  data : Bytes
deriving DecidableEq

namespace AdditionalInfo

/-- The length is written as one byte. -/
def encode (info : AdditionalInfo) : Bytes :=
  info.infoType :: UInt8.ofNat info.data.length :: info.data

def encodedLen (info : AdditionalInfo) : Nat := 2 + info.data.length

def encodeAll (infos : List AdditionalInfo) : Bytes := infos.flatMap encode

def decode : Cursor KnxError AdditionalInfo := do
  requireBytes 2
  let infoType ← getU8
  let length ← getU8
  requireBytes length.toNat
  let data ← copyToSlice length.toNat
  pure ⟨infoType, data⟩

theorem decode_ok (infoType length : UInt8) (enough : length.toNat ≤ data.length) :
    decode (infoType :: length :: data) =
      .ok ⟨infoType, data.take length.toNat⟩ (data.drop length.toNat) := by
  have two : 2 ≤ (infoType :: length :: data).length := Nat.le_add_left 2 data.length
  rw [decode, bind_ok (requireBytes_ok two), bind_ok (getU8_cons _ _),
    bind_ok (getU8_cons _ _), bind_ok (requireBytes_ok enough),
    bind_ok (copyToSlice_ok enough)]
  rfl

theorem decode_cases (data : Bytes) :
    (∃ infoType length behind, data = infoType :: length :: behind ∧
      length.toNat ≤ behind.length) ∨ ∃ error after, decode data = .err error after := by
  match data with
  | [] => exact Or.inr ⟨_, _, rfl⟩
  | [infoType] => exact Or.inr ⟨_, _, rfl⟩
  | infoType :: length :: behind =>
    by_cases enough : length.toNat ≤ behind.length
    · exact Or.inl ⟨infoType, length, behind, rfl, enough⟩
    · have two : 2 ≤ (infoType :: length :: behind).length := Nat.le_add_left 2 behind.length
      refine Or.inr ⟨.frameTooShort length.toNat behind.length, behind, ?_⟩
      rw [decode, bind_ok (requireBytes_ok two), bind_ok (getU8_cons _ _),
        bind_ok (getU8_cons _ _), bind_err (requireBytes_err (Nat.lt_of_not_le enough))]

def decodeAll : Cursor KnxError (List AdditionalInfo) :=
  collectUntil List.length List.isEmpty decode

end AdditionalInfo

structure CemiFrame where
  messageCode : MessageCode
  additionalInfo : List AdditionalInfo
  source : IndividualAddress
  destination : UInt16
  addressType : AddressType
  hopCount : UInt8
  priority : Priority
  confirm : Bool
  ackRequest : Bool
  systemBroadcast : Bool
  apci : Apci
  data : Bytes
deriving DecidableEq

namespace CemiFrame

variable (frame : CemiFrame)

def control1 : UInt8 :=
  let ack : UInt8 := if frame.ackRequest then 0x00 else 0x20
  let confirm : UInt8 := if !frame.confirm then 0x00 else 0x01
  (0x80 : UInt8) ||| ack ||| confirm ||| ((frame.priority.toBits &&& 0x03) <<< 2)

def control2 : UInt8 :=
  let address : UInt8 := if frame.addressType = .group then 0x80 else 0x00
  address ||| (frame.hopCount &&& 0x07)

/-- The length, the byte of the service and the data that is not merged into it. -/
def encodeNpdu (apciByte : UInt8) (data : Bytes) : Bytes :=
  let full := UInt8.ofNat (data.length + 1) :: apciByte :: data
  match data with
  | [] => [1, apciByte]
  | [byte] => if byte ≤ 0x3F then [1, apciByte ||| (byte &&& 0x3F)] else full
  | _ => full

def encodeBody : Bytes :=
  if frame.messageCode.isPropertyService || frame.messageCode.isResetService then frame.data
  else if frame.messageCode = .lBusmonInd then frame.data
  else
    frame.control1 :: frame.control2 :: (putU16 frame.source.encode ++
      (putU16 frame.destination ++ encodeNpdu frame.apci.encode.toUInt8 frame.data))

def addInfoLen : Nat :=
  (frame.additionalInfo.map AdditionalInfo.encodedLen).sum

def encode : Bytes :=
  frame.messageCode.code :: UInt8.ofNat frame.addInfoLen ::
    (AdditionalInfo.encodeAll frame.additionalInfo ++ frame.encodeBody)

def decodeAdditionalInfo : Cursor KnxError (List AdditionalInfo) := do
  let addInfoLen ← getU8
  if addInfoLen > 0 then do
    requireBytes addInfoLen.toNat
    let addInfoBuf ← copyToSlice addInfoLen.toNat
    onSlice addInfoBuf AdditionalInfo.decodeAll
  else pure []

/-- The six bits of data in the byte of the service; no bit set is no data. -/
def smallData (apciByte : UInt8) : Bytes :=
  let small := apciByte &&& 0x3F
  if small != 0 then [small] else []

/-- The service and its data, behind the first of its bytes. -/
def decodeService (npduLen : Nat) (apciByte1 : UInt8) : Cursor KnxError (Apci × Bytes) :=
  if npduLen ≥ 2 ∧ apciByte1 &&& 0xFC = 0 then do
    let apciByte2 ← getU8
    let apciRaw := ((apciByte1 &&& 0x03).toUInt16 <<< 8) ||| apciByte2.toUInt16
    let remainingLen ← checkedSub npduLen 2
    if remainingLen = 0 then pure (Apci.decode apciRaw, smallData apciByte2)
    else do
      let data ← copyToSlice remainingLen
      pure (Apci.decode apciRaw, data)
  else if npduLen ≤ 1 then pure (Apci.decode apciByte1.toUInt16, smallData apciByte1)
  else do
    let dataLen ← checkedSub npduLen 1
    let data ← copyToSlice dataLen
    pure (Apci.decode apciByte1.toUInt16, data)

def decodeNpdu : Cursor KnxError (Apci × Bytes) := do
  let npduLen ← getU8
  requireBytes npduLen.toNat
  let apciByte1 ← getU8
  decodeService npduLen.toNat apciByte1

variable (messageCode : MessageCode) (additionalInfo : List AdditionalInfo)

def decodeLData : Cursor KnxError CemiFrame := do
  requireBytes 7
  let ctrl1 ← getU8
  let ctrl2 ← getU8
  let source ← getU16
  let destination ← getU16
  let (apci, data) ← decodeNpdu
  pure {
    messageCode, additionalInfo, destination, apci, data
    source := .decode source
    addressType := .fromBit (ctrl2 &&& 0x80 != 0)
    hopCount := ctrl2 &&& 0x07
    priority := .fromBits ((ctrl1 >>> 2) &&& 0x03)
    confirm := ctrl1 &&& 0x01 != 0
    ackRequest := ctrl1 &&& 0x20 == 0
    systemBroadcast := ctrl1 &&& 0x10 != 0 }

def raw (addressType : AddressType) (priority : Priority) (data : Bytes) : CemiFrame where
  messageCode
  additionalInfo
  source := ⟨0, 0, 0, by decide, by decide⟩
  destination := 0
  addressType
  hopCount := 7
  priority
  confirm := false
  ackRequest := false
  systemBroadcast := false
  apci := .unknown 0
  data

def decodeBody : Cursor KnxError CemiFrame :=
  if messageCode.isPropertyService || messageCode.isResetService then do
    let data ← rest
    pure (raw messageCode additionalInfo .individual .system data)
  else if messageCode = .lBusmonInd then do
    let data ← rest
    pure (raw messageCode additionalInfo .group .low data)
  else decodeLData messageCode additionalInfo

def decodeFrame : Cursor KnxError CemiFrame := do
  requireBytes 2
  let byte ← getU8
  let messageCode ← liftOption (.unknownMessageCode byte) (MessageCode.tryFromU8 byte)
  let additionalInfo ← decodeAdditionalInfo
  decodeBody messageCode additionalInfo

def decode (data : Bytes) : Option (Except KnxError CemiFrame) := (decodeFrame data).returned

def destinationGroup : Option GroupAddress :=
  if frame.addressType = .group then some (.fromRaw frame.destination) else none

def groupValueResponse (source : IndividualAddress) (destination : GroupAddress)
    (data : Bytes) : CemiFrame where
  messageCode := .lDataInd
  additionalInfo := []
  source
  destination := destination.raw
  addressType := .group
  hopCount := 6
  priority := .low
  confirm := false
  ackRequest := false
  systemBroadcast := false
  apci := .groupValueResponse
  data

/-- The status and the time as additional information. -/
def busMonitorIndication (rawFrame : Bytes) (status : UInt8) (timestampMs : UInt16) : CemiFrame :=
  raw .lBusmonInd [⟨0x03, [status]⟩, ⟨0x04, putU16 timestampMs⟩] .group .low rawFrame

structure PropertyRequest where
  objectIndex : UInt16
  propertyId : UInt16
  count : UInt8
  startIndex : UInt8

variable (request : PropertyRequest)

/-- The fields in front of the data; the count has four bits and the index twelve. -/
def PropertyRequest.encode : Bytes :=
  putU16 request.objectIndex ++ putU16 request.propertyId ++
    putU16 ((request.count.toUInt16 <<< 12) ||| (request.startIndex.toUInt16 &&& 0x0FFF))

def propReadCon (value : Bytes) : CemiFrame :=
  raw .mPropReadCon [] .individual .system (request.encode ++ value)

def propWriteCon (success : Bool) : CemiFrame :=
  let count := if success then request.count else 0
  let frame := raw .mPropWriteCon [] .individual .system { request with count }.encode
  { frame with confirm := !success }

def resetInd : CemiFrame := raw .mResetInd [] .individual .system []

/-- The data behind the fields is not used by the handlers. -/
def parsePropertyRequest : Option PropertyRequest :=
  match frame.data with
  | object1 :: object2 :: property1 :: property2 :: count1 :: count2 :: _ =>
    let countIndex := u16Of count1 count2
    some {
      objectIndex := u16Of object1 object2
      propertyId := u16Of property1 property2
      count := (countIndex >>> 12).toUInt8
      startIndex := (countIndex &&& 0x0FFF).toUInt8 }
  | _ => none

end CemiFrame

end Mabinogion.Knx
