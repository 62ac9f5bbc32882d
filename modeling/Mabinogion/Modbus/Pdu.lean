import Mabinogion.Library.BitPacking
import Mabinogion.Modbus.Mbap

/-!
# Modbus requests and responses

The parser of request PDUs and the encoder of response PDUs. What a PDU asks for is also said
without indices, and the two agree on every byte string.
-/

namespace Mabinogion.Modbus

open Checked ByteCursor BitPacking

inductive ExceptionCode where
  | illegalFunction
  | illegalDataAddress
  | illegalDataValue
  | slaveDeviceFailure
deriving DecidableEq

abbrev Guarded (State : Type) : Type → Type := Checked State ExceptionCode

inductive FunctionCode where
  | readCoils
  | readDiscreteInputs
  | readHoldingRegisters
  | readInputRegisters
  | writeSingleCoil
  | writeSingleRegister
  | writeMultipleCoils
  | writeMultipleRegisters
  | maskWriteRegister
  | readWriteMultipleRegisters
deriving DecidableEq

namespace FunctionCode

def toU8 : FunctionCode → UInt8
  | readCoils => 0x01
  | readDiscreteInputs => 0x02
  | readHoldingRegisters => 0x03
  | readInputRegisters => 0x04
  | writeSingleCoil => 0x05
  | writeSingleRegister => 0x06
  | writeMultipleCoils => 0x0F
  | writeMultipleRegisters => 0x10
  | maskWriteRegister => 0x16
  | readWriteMultipleRegisters => 0x17

def tryFrom (value : UInt8) : Except ModbusError FunctionCode :=
  match value with
  | 0x01 => .ok readCoils
  | 0x02 => .ok readDiscreteInputs
  | 0x03 => .ok readHoldingRegisters
  | 0x04 => .ok readInputRegisters
  | 0x05 => .ok writeSingleCoil
  | 0x06 => .ok writeSingleRegister
  | 0x0F => .ok writeMultipleCoils
  | 0x10 => .ok writeMultipleRegisters
  | 0x16 => .ok maskWriteRegister
  | 0x17 => .ok readWriteMultipleRegisters
  | _ => .error (.invalidFunction value)

theorem tryFrom_toU8 (function : FunctionCode) : tryFrom function.toU8 = .ok function := by
  cases function <;> rfl

theorem tryFrom_eq_error {value : UInt8} {error : ModbusError}
    (unknown : tryFrom value = .error error) : error = .invalidFunction value := by
  unfold tryFrom at unknown
  split at unknown <;> cases unknown
  rfl

end FunctionCode

open FunctionCode

inductive SemanticRequest where
  | readCoils (address quantity : UInt16)
  | readDiscreteInputs (address quantity : UInt16)
  | readHoldingRegisters (address quantity : UInt16)
  | readInputRegisters (address quantity : UInt16)
  | writeSingleCoil (address : UInt16) (value : Bool)
  | writeSingleRegister (address value : UInt16)
  | writeMultipleCoils (address : UInt16) (values : List Bool)
  | writeMultipleRegisters (address : UInt16) (values : List UInt16)
  | maskWriteRegister (address andMask orMask : UInt16)
  | readWriteMultipleRegisters (readAddress readQuantity writeAddress : UInt16)
      (values : List UInt16)
  | custom (functionCode : UInt8) (payload : Bytes)

def SemanticRequest.allowsBroadcast : SemanticRequest → Bool
  | writeSingleCoil .. | writeSingleRegister .. | writeMultipleCoils ..
  | writeMultipleRegisters .. | maskWriteRegister .. => true
  | _ => false

inductive SemanticResponse where
  | bits (function : FunctionCode) (values : List Bool)
  | registers (function : FunctionCode) (values : List UInt16)
  | writeSingleCoilAck (address : UInt16) (value : Bool)
  | writeSingleRegisterAck (address value : UInt16)
  | writeMultipleAck (function : FunctionCode) (address quantity : UInt16)
  | maskWriteAck (address andMask orMask : UInt16)
  | custom (response : Bytes)

/-- Pairs of bytes, high byte first; an odd byte at the end is left out. -/
def words : Bytes → List UInt16
  | high :: low :: rest => u16Of high low :: words rest
  | _ => []

section

variable {State : Type} (pdu : Bytes)

def ensureLen (minimum : Nat) : Guarded State Unit :=
  failIf (pdu.length < minimum) .illegalDataValue

def ensureQuantity (quantity maximum : UInt16) : Guarded State Unit :=
  failIf (quantity == 0 || quantity > maximum) .illegalDataValue

def ensureSpan (address quantity : UInt16) : Guarded State Unit := do
  failIf (quantity == 0) .illegalDataValue
  failIf (address.toNat + quantity.toNat - 1 > 65535) .illegalDataAddress

def wordAt (offset : Nat) : Guarded State UInt16 := do
  let high ← checkedIndex pdu offset
  let low ← checkedIndex pdu (offset + 1)
  pure (u16Of high low)

/-- The requests differ in the limit; the source asserts that no other one is built. -/
def parseRead (maximum : UInt16) (request : UInt16 → UInt16 → SemanticRequest)
    (pdu : Bytes) : Guarded State SemanticRequest := do
  ensureLen pdu 5
  let address ← wordAt pdu 1
  let quantity ← wordAt pdu 3
  ensureQuantity quantity maximum
  ensureSpan address quantity
  pure (request address quantity)

def parseReadBits (request : UInt16 → UInt16 → SemanticRequest) (pdu : Bytes) :
    Guarded State SemanticRequest :=
  parseRead 2000 request pdu

def parseReadRegisters (request : UInt16 → UInt16 → SemanticRequest) (pdu : Bytes) :
    Guarded State SemanticRequest :=
  parseRead 125 request pdu

def coilValue (raw : UInt16) : Option Bool :=
  if raw = 0x0000 then some false else if raw = 0xFF00 then some true else none

def parseWriteSingleCoil : Guarded State SemanticRequest := do
  ensureLen pdu 5
  let address ← wordAt pdu 1
  let rawValue ← wordAt pdu 3
  let value ← liftOption .illegalDataValue (coilValue rawValue)
  pure (.writeSingleCoil address value)

def parseWriteSingleRegister : Guarded State SemanticRequest := do
  ensureLen pdu 5
  let address ← wordAt pdu 1
  let value ← wordAt pdu 3
  pure (.writeSingleRegister address value)

def unpackBits (data : Bytes) (quantity : Nat) : Guarded State (List Bool) :=
  visitAll (fun index => do
    let byte ← checkedIndex data (index / 8)
    pure (testBit byte (index % 8))) (List.range quantity)

def parseWriteMultipleCoils : Guarded State SemanticRequest := do
  ensureLen pdu 6
  let address ← wordAt pdu 1
  let quantity ← wordAt pdu 3
  ensureQuantity quantity 1968
  ensureSpan address quantity
  let byteCount ← checkedIndex pdu 5
  failIf (byteCount.toNat != (quantity.toNat + 7) / 8 || pdu.length < 6 + byteCount.toNat)
    .illegalDataValue
  let data ← checkedSlice pdu 6 (6 + byteCount.toNat)
  let values ← unpackBits data quantity.toNat
  pure (.writeMultipleCoils address values)

def parseWriteMultipleRegisters : Guarded State SemanticRequest := do
  ensureLen pdu 6
  let address ← wordAt pdu 1
  let quantity ← wordAt pdu 3
  ensureQuantity quantity 123
  ensureSpan address quantity
  let byteCount ← checkedIndex pdu 5
  failIf (byteCount.toNat != quantity.toNat * 2 || pdu.length < 6 + byteCount.toNat)
    .illegalDataValue
  let data ← checkedSlice pdu 6 (6 + byteCount.toNat)
  pure (.writeMultipleRegisters address (words data))

def parseMaskWriteRegister : Guarded State SemanticRequest := do
  ensureLen pdu 7
  let address ← wordAt pdu 1
  let andMask ← wordAt pdu 3
  let orMask ← wordAt pdu 5
  pure (.maskWriteRegister address andMask orMask)

def parseReadWriteMultipleRegisters : Guarded State SemanticRequest := do
  ensureLen pdu 10
  let readAddress ← wordAt pdu 1
  let readQuantity ← wordAt pdu 3
  ensureQuantity readQuantity 125
  ensureSpan readAddress readQuantity
  let writeAddress ← wordAt pdu 5
  let writeQuantity ← wordAt pdu 7
  ensureQuantity writeQuantity 121
  ensureSpan writeAddress writeQuantity
  let byteCount ← checkedIndex pdu 9
  failIf (byteCount.toNat != writeQuantity.toNat * 2 || pdu.length < 10 + byteCount.toNat)
    .illegalDataValue
  let data ← checkedSlice pdu 10 (10 + byteCount.toNat)
  pure (.readWriteMultipleRegisters readAddress readQuantity writeAddress (words data))

def parseCustom (functionCode : UInt8) (pdu : Bytes) : Guarded State SemanticRequest := do
  let payload ← checkedSlice pdu 1 pdu.length
  pure (.custom functionCode payload)

def parseFunction (functionCode : UInt8) (pdu : Bytes) : Guarded State SemanticRequest :=
  match tryFrom functionCode with
  | .ok .readCoils => parseReadBits .readCoils pdu
  | .ok .readDiscreteInputs => parseReadBits .readDiscreteInputs pdu
  | .ok .readHoldingRegisters => parseReadRegisters .readHoldingRegisters pdu
  | .ok .readInputRegisters => parseReadRegisters .readInputRegisters pdu
  | .ok .writeSingleCoil => parseWriteSingleCoil pdu
  | .ok .writeSingleRegister => parseWriteSingleRegister pdu
  | .ok .writeMultipleCoils => parseWriteMultipleCoils pdu
  | .ok .writeMultipleRegisters => parseWriteMultipleRegisters pdu
  | .ok .maskWriteRegister => parseMaskWriteRegister pdu
  | .ok .readWriteMultipleRegisters => parseReadWriteMultipleRegisters pdu
  | .error (.invalidFunction _) => parseCustom functionCode pdu
  | .error _ => fail .illegalFunction

def parseSemanticRequest (isBroadcast : Bool) : Guarded State SemanticRequest := do
  let functionCode ← liftOption .illegalDataValue pdu.head?
  let request ← parseFunction functionCode pdu
  failIf (isBroadcast && !request.allowsBroadcast) .illegalFunction
  pure request

end

section

variable {State Error : Type}

def markBit (value : Bool) (index : Nat) (packed : Bytes) : Checked State Error Bytes :=
  if value then do
    let byte ← checkedIndex packed (index / 8)
    checkedSet packed (index / 8) (setBit byte (index % 8))
  else pure packed

def markBits : List (Bool × Nat) → Bytes → Checked State Error Bytes
  | [], packed => pure packed
  | (value, index) :: rest, packed => do
    let marked ← markBit value index packed
    markBits rest marked

def packBits (values : List Bool) : Checked State Error Bytes :=
  markBits values.zipIdx (List.replicate ((values.length + 7) / 8) 0)

def ResponsePdu.new (bytes : Bytes) : Fallible State Bytes := do
  failIf bytes.isEmpty (.invalidData "response PDU must contain at least a function code")
  pure bytes

namespace SemanticResponse

def encode : SemanticResponse → Fallible State Bytes
  | bits function values => do
    let packed ← packBits values
    ResponsePdu.new ([function.toU8, UInt8.ofNat ((values.length + 7) / 8)] ++ packed)
  | registers function values =>
    ResponsePdu.new
      ([function.toU8, UInt8.ofNat (values.length * 2)] ++ values.flatMap putU16)
  | writeSingleCoilAck address value =>
    ResponsePdu.new ([writeSingleCoil.toU8] ++ putU16 address ++
      putU16 (if value then 0xFF00 else 0x0000))
  | writeSingleRegisterAck address value =>
    ResponsePdu.new ([writeSingleRegister.toU8] ++ putU16 address ++ putU16 value)
  | writeMultipleAck function address quantity =>
    ResponsePdu.new ([function.toU8] ++ putU16 address ++ putU16 quantity)
  | maskWriteAck address andMask orMask =>
    ResponsePdu.new ([maskWriteRegister.toU8] ++ putU16 address ++ putU16 andMask ++ putU16 orMask)
  | custom response => pure response

end SemanticResponse

end

/-! What a PDU asks for, field by field. -/

abbrev Meaning := Except ExceptionCode SemanticRequest

/-- A quantity from one to the limit, and no address beyond the last one. -/
def checkSpan (maximum : Nat) (address quantity : UInt16) : Except ExceptionCode Unit :=
  if quantity.toNat = 0 ∨ maximum < quantity.toNat then .error .illegalDataValue
  else if 65536 < address.toNat + quantity.toNat then .error .illegalDataAddress
  else .ok ()

section

-- The parsers and the older handlers understand a request alike but for this check.
variable (check : Nat → UInt16 → UInt16 → Except ExceptionCode Unit)

def readRequest (maximum : Nat) (request : UInt16 → UInt16 → SemanticRequest) : Bytes → Meaning
  | a0 :: a1 :: q0 :: q1 :: _ => do
    check maximum (u16Of a0 a1) (u16Of q0 q1)
    pure (request (u16Of a0 a1) (u16Of q0 q1))
  | _ => .error .illegalDataValue

def singleCoilRequest : Bytes → Meaning
  | a0 :: a1 :: v0 :: v1 :: _ =>
    match coilValue (u16Of v0 v1) with
    | some value => .ok (.writeSingleCoil (u16Of a0 a1) value)
    | none => .error .illegalDataValue
  | _ => .error .illegalDataValue

def singleRegisterRequest : Bytes → Meaning
  | a0 :: a1 :: v0 :: v1 :: _ => .ok (.writeSingleRegister (u16Of a0 a1) (u16Of v0 v1))
  | _ => .error .illegalDataValue

/-- The data behind a byte count, which has to be the one that the quantity needs. -/
def countedData (needed : Nat) (byteCount : UInt8) (data : Bytes) : Except ExceptionCode Bytes :=
  if byteCount.toNat = needed ∧ needed ≤ data.length then .ok (data.take needed)
  else .error .illegalDataValue

def multipleRequest (maximum : Nat) (needed : Nat → Nat)
    (request : UInt16 → Nat → Bytes → SemanticRequest) :
    Bytes → Meaning
  | a0 :: a1 :: q0 :: q1 :: byteCount :: data => do
    check maximum (u16Of a0 a1) (u16Of q0 q1)
    let values ← countedData (needed (u16Of q0 q1).toNat) byteCount data
    pure (request (u16Of a0 a1) (u16Of q0 q1).toNat values)
  | _ => .error .illegalDataValue

def multipleCoilsRequest : Bytes → Meaning :=
  multipleRequest check 1968 (fun quantity => (quantity + 7) / 8)
    fun address quantity packed => .writeMultipleCoils address (unpack packed quantity)

def multipleRegistersRequest : Bytes → Meaning :=
  multipleRequest check 123 (· * 2)
    fun address _ values => .writeMultipleRegisters address (words values)

def maskRequest : Bytes → Meaning
  | a0 :: a1 :: m0 :: m1 :: o0 :: o1 :: _ =>
    .ok (.maskWriteRegister (u16Of a0 a1) (u16Of m0 m1) (u16Of o0 o1))
  | _ => .error .illegalDataValue

def readWriteRequest : Bytes → Meaning
  | r0 :: r1 :: n0 :: n1 :: w0 :: w1 :: q0 :: q1 :: byteCount :: data => do
    check 125 (u16Of r0 r1) (u16Of n0 n1)
    check 121 (u16Of w0 w1) (u16Of q0 q1)
    let values ← countedData ((u16Of q0 q1).toNat * 2) byteCount data
    pure (.readWriteMultipleRegisters (u16Of r0 r1) (u16Of n0 n1) (u16Of w0 w1) (words values))
  | _ => .error .illegalDataValue

def requestFor (function : FunctionCode) (fields : Bytes) : Meaning :=
  match function with
  | .readCoils => readRequest check 2000 .readCoils fields
  | .readDiscreteInputs => readRequest check 2000 .readDiscreteInputs fields
  | .readHoldingRegisters => readRequest check 125 .readHoldingRegisters fields
  | .readInputRegisters => readRequest check 125 .readInputRegisters fields
  | .writeSingleCoil => singleCoilRequest fields
  | .writeSingleRegister => singleRegisterRequest fields
  | .writeMultipleCoils => multipleCoilsRequest check fields
  | .writeMultipleRegisters => multipleRegistersRequest check fields
  | .maskWriteRegister => maskRequest fields
  | .readWriteMultipleRegisters => readWriteRequest check fields

end

/-- The meaning of a PDU; one whose function code is not built in is left to extensions. -/
def requestOf : Bytes → Meaning
  | [] => .error .illegalDataValue
  | code :: fields =>
    match tryFrom code with
    | .ok function => requestFor checkSpan function fields
    | .error _ => .ok (.custom code fields)

def responseBytes : SemanticResponse → Bytes
  | .bits function values =>
    function.toU8 :: UInt8.ofNat ((values.length + 7) / 8) :: pack values
  | .registers function values =>
    function.toU8 :: UInt8.ofNat (values.length * 2) :: values.flatMap putU16
  | .writeSingleCoilAck address value =>
    writeSingleCoil.toU8 :: (putU16 address ++ putU16 (if value then 0xFF00 else 0x0000))
  | .writeSingleRegisterAck address value =>
    writeSingleRegister.toU8 :: (putU16 address ++ putU16 value)
  | .writeMultipleAck function address quantity =>
    function.toU8 :: (putU16 address ++ putU16 quantity)
  | .maskWriteAck address andMask orMask =>
    maskWriteRegister.toU8 :: (putU16 address ++ putU16 andMask ++ putU16 orMask)
  | .custom response => response

theorem checkSpan_ok {maximum : Nat} {address quantity : UInt16}
    (allowed : checkSpan maximum address quantity = .ok ()) :
    0 < quantity.toNat ∧ quantity.toNat ≤ maximum ∧ address.toNat + quantity.toNat ≤ 65536 := by
  unfold checkSpan at allowed
  split_ifs at allowed with outside beyond
  omega

theorem countedData_ok {needed : Nat} {byteCount : UInt8} {data packed : Bytes}
    (counted : countedData needed byteCount data = .ok packed) :
    byteCount.toNat = needed ∧ needed ≤ data.length ∧ packed = data.take needed := by
  unfold countedData at counted
  split_ifs at counted with fits
  cases counted
  exact ⟨fits.1, fits.2, rfl⟩

theorem except_bind_ok {Value Result : Type} {result : Except ExceptionCode Value}
    {next : Value → Except ExceptionCode Result} {value : Result}
    (returned : result >>= next = .ok value) :
    ∃ middle, result = .ok middle ∧ next middle = .ok value := by
  cases result with
  | error => cases returned
  | ok middle => exact ⟨middle, rfl, returned⟩

section

variable {fields : Bytes} {request : SemanticRequest}

theorem singleCoilRequest_ok (meant : singleCoilRequest fields = .ok request) :
    ∃ address value, request = .writeSingleCoil address value := by
  unfold singleCoilRequest at meant
  split at meant
  · split at meant
    · cases meant
      exact ⟨_, _, rfl⟩
    · cases meant
  · cases meant

theorem singleRegisterRequest_ok (meant : singleRegisterRequest fields = .ok request) :
    ∃ address value, request = .writeSingleRegister address value := by
  unfold singleRegisterRequest at meant
  split at meant
  · cases meant
    exact ⟨_, _, rfl⟩
  · cases meant

theorem maskRequest_ok (meant : maskRequest fields = .ok request) :
    ∃ address andMask orMask, request = .maskWriteRegister address andMask orMask := by
  unfold maskRequest at meant
  split at meant
  · cases meant
    exact ⟨_, _, _, rfl⟩
  · cases meant

variable {check : Nat → UInt16 → UInt16 → Except ExceptionCode Unit} {maximum : Nat}

theorem readRequest_ok {make : UInt16 → UInt16 → SemanticRequest}
    (meant : readRequest check maximum make fields = .ok request) :
    ∃ address quantity, check maximum address quantity = .ok () ∧
      request = make address quantity := by
  unfold readRequest at meant
  split at meant
  · obtain ⟨_, span, made⟩ := except_bind_ok meant
    exact ⟨_, _, span, (Except.ok.inj made).symm⟩
  · cases meant

theorem multipleRequest_ok {needed : Nat → Nat} {make : UInt16 → Nat → Bytes → SemanticRequest}
    (meant : multipleRequest check maximum needed make fields = .ok request) :
    ∃ a0 a1 q0 q1 byteCount data packed, fields = a0 :: a1 :: q0 :: q1 :: byteCount :: data ∧
      check maximum (u16Of a0 a1) (u16Of q0 q1) = .ok () ∧
      countedData (needed (u16Of q0 q1).toNat) byteCount data = .ok packed ∧
      request = make (u16Of a0 a1) (u16Of q0 q1).toNat packed := by
  unfold multipleRequest at meant
  split at meant
  · obtain ⟨_, span, later⟩ := except_bind_ok meant
    obtain ⟨packed, counted, made⟩ := except_bind_ok later
    exact ⟨_, _, _, _, _, _, packed, rfl, span, counted, (Except.ok.inj made).symm⟩
  · cases meant

theorem readWriteRequest_ok (meant : readWriteRequest check fields = .ok request) :
    ∃ r0 r1 n0 n1 w0 w1 q0 q1 byteCount data packed,
      fields = r0 :: r1 :: n0 :: n1 :: w0 :: w1 :: q0 :: q1 :: byteCount :: data ∧
      check 125 (u16Of r0 r1) (u16Of n0 n1) = .ok () ∧
      check 121 (u16Of w0 w1) (u16Of q0 q1) = .ok () ∧
      countedData ((u16Of q0 q1).toNat * 2) byteCount data = .ok packed ∧
      request = .readWriteMultipleRegisters (u16Of r0 r1) (u16Of n0 n1) (u16Of w0 w1)
        (words packed) := by
  unfold readWriteRequest at meant
  split at meant
  · obtain ⟨_, read, next⟩ := except_bind_ok meant
    obtain ⟨_, written, later⟩ := except_bind_ok next
    obtain ⟨packed, counted, made⟩ := except_bind_ok later
    exact ⟨_, _, _, _, _, _, _, _, _, _, packed, rfl, read, written, counted,
      (Except.ok.inj made).symm⟩
  · cases meant

end

theorem length_words (data : Bytes) : (words data).length = data.length / 2 := by
  induction data using words.induct with
  | case1 high low rest ih =>
    simp only [words, List.length_cons, ih]
    omega
  | case2 data short =>
    rcases data with _ | ⟨high, _ | ⟨low, rest⟩⟩
    · simp [words]
    · simp [words]
    · exact (short high low rest rfl).elim

variable (code : UInt8)

section

variable {State Value : Type}

theorem ensureLen_eq {pdu : Bytes} {minimum : Nat} (enough : minimum ≤ pdu.length) :
    (ensureLen pdu minimum : Guarded State Unit) = pure () := by
  rw [ensureLen, decide_eq_false (Nat.not_lt.mpr enough), failIf_false]

theorem quantity_zero (quantity : UInt16) : (quantity == 0) = decide (quantity.toNat = 0) := by
  rw [beq_eq_decide, decide_eq_decide, ← UInt16.toNat_inj]
  rfl

theorem quantity_above (quantity maximum : UInt16) :
    decide (quantity > maximum) = decide (maximum.toNat < quantity.toNat) := by
  rw [decide_eq_decide, gt_iff_lt, UInt16.lt_iff_toNat_lt]

theorem ensureSpan_bind (maximum address quantity : UInt16)
    (next : Unit → Guarded State Value) :
    (ensureQuantity quantity maximum >>= fun _ => ensureSpan address quantity >>= next) =
      ofExcept (checkSpan maximum.toNat address quantity) >>= next := by
  rw [ensureQuantity, ensureSpan, quantity_zero, quantity_above, checkSpan]
  by_cases empty : quantity.toNat = 0
  · simp [empty, failIf_true, ofExcept_error, fail_bind]
  · by_cases large : maximum.toNat < quantity.toNat
    · simp [large, failIf_true, ofExcept_error, fail_bind]
    · by_cases wide : 65536 < address.toNat + quantity.toNat
      · have beyond : address.toNat + quantity.toNat - 1 > 65535 := by omega
        simp [empty, large, wide, beyond, failIf_true, failIf_false, ofExcept_error, fail_bind,
          return_bind]
      · have within : ¬address.toNat + quantity.toNat - 1 > 65535 := by omega
        simp [empty, large, wide, within, failIf_false, ofExcept_ok, return_bind]

theorem parseRead_eq (maximum : UInt16) (request : UInt16 → UInt16 → SemanticRequest)
    (code : UInt8) (fields : Bytes) :
    (parseRead maximum request (code :: fields) : Guarded State SemanticRequest) =
      ofExcept (readRequest checkSpan maximum.toNat request fields) := by
  rcases fields with _ | ⟨a0, _ | ⟨a1, _ | ⟨q0, _ | ⟨q1, rest⟩⟩⟩⟩
  · rfl
  · rfl
  · rfl
  · rfl
  · rw [parseRead, ensureLen_eq (by simp), readRequest, ofExcept_bind]
    exact ensureSpan_bind maximum (u16Of a0 a1) (u16Of q0 q1) _

variable (fields : Bytes)

theorem parseWriteSingleCoil_eq :
    (parseWriteSingleCoil (code :: fields) : Guarded State SemanticRequest) =
      ofExcept (singleCoilRequest fields) := by
  rcases fields with _ | ⟨a0, _ | ⟨a1, _ | ⟨v0, _ | ⟨v1, rest⟩⟩⟩⟩
  · rfl
  · rfl
  · rfl
  · rfl
  · rw [parseWriteSingleCoil, ensureLen_eq (by simp), singleCoilRequest]
    show (liftOption _ (coilValue (u16Of v0 v1)) >>= _) = _
    cases coilValue (u16Of v0 v1) with
    | none | some => rfl

theorem parseWriteSingleRegister_eq :
    (parseWriteSingleRegister (code :: fields) : Guarded State SemanticRequest) =
      ofExcept (singleRegisterRequest fields) := by
  rcases fields with _ | ⟨a0, _ | ⟨a1, _ | ⟨v0, _ | ⟨v1, rest⟩⟩⟩⟩
  · rfl
  · rfl
  · rfl
  · rfl
  · rw [parseWriteSingleRegister, ensureLen_eq (by simp)]
    rfl

theorem parseMaskWriteRegister_eq :
    (parseMaskWriteRegister (code :: fields) : Guarded State SemanticRequest) =
      ofExcept (maskRequest fields) := by
  rcases fields with _ | ⟨a0, _ | ⟨a1, _ | ⟨m0, _ | ⟨m1, _ | ⟨o0, _ | ⟨o1, rest⟩⟩⟩⟩⟩⟩
  · rfl
  · rfl
  · rfl
  · rfl
  · rfl
  · rfl
  · rw [parseMaskWriteRegister, ensureLen_eq (by simp)]
    rfl

theorem countedData_bind (front data : Bytes) (needed : Nat) (byteCount : UInt8)
    (next : Bytes → Guarded State Value) :
    (failIf (byteCount.toNat != needed ||
        decide ((front ++ data).length < front.length + byteCount.toNat)) .illegalDataValue >>=
      fun _ => checkedSlice (front ++ data) front.length (front.length + byteCount.toNat) >>=
        next) =
      ofExcept (countedData needed byteCount data) >>= next := by
  rw [countedData, List.length_append]
  by_cases counts : byteCount.toNat = needed
  · by_cases enough : needed ≤ data.length
    · have long : ¬front.length + data.length < front.length + byteCount.toNat := by omega
      have slice : (checkedSlice (front ++ data) front.length (front.length + byteCount.toNat) :
          Guarded State Bytes) = pure (data.take needed) := by
        funext state
        rw [checkedSlice_ok state (by omega) (by rw [List.length_append]; omega),
          List.take_length_add_append, List.drop_left, counts]
        rfl
      rw [if_pos ⟨counts, enough⟩, decide_eq_false long, slice, counts]
      simp [failIf_false, return_bind, ofExcept_ok]
    · have short : front.length + data.length < front.length + byteCount.toNat := by omega
      rw [if_neg (fun both => enough both.2), decide_eq_true short]
      simp [failIf_true, fail_bind, ofExcept_error]
  · have differs : (byteCount.toNat != needed) = true := bne_iff_ne.mpr counts
    rw [if_neg (fun both => counts both.1), differs, Bool.true_or, failIf_true]
    rfl

theorem unpackBits_eq {data : Bytes} {quantity : Nat} (enough : quantity ≤ 8 * data.length) :
    (unpackBits data quantity : Guarded State (List Bool)) = pure (unpack data quantity) := by
  funext state
  rw [unpackBits, unpack]
  apply visitAll_ok
  intro index listed
  have below : index < quantity := List.mem_range.mp listed
  have inside : index / 8 < data.length := by omega
  rw [bind_ok (checkedIndex_getD state 0 inside), bitAt_eq_testBit]
  rfl

theorem length_countedData {needed : Nat} {byteCount : UInt8} {data packed : Bytes}
    (counted : countedData needed byteCount data = .ok packed) : packed.length = needed := by
  unfold countedData at counted
  split_ifs at counted with fits
  cases counted
  rw [List.length_take, Nat.min_eq_left fits.2]

theorem parseWriteMultipleCoils_eq :
    (parseWriteMultipleCoils (code :: fields) : Guarded State SemanticRequest) =
      ofExcept (multipleCoilsRequest checkSpan fields) := by
  rcases fields with _ | ⟨a0, _ | ⟨a1, _ | ⟨q0, _ | ⟨q1, _ | ⟨byteCount, data⟩⟩⟩⟩⟩
  · rfl
  · rfl
  · rfl
  · rfl
  · rfl
  · rw [parseWriteMultipleCoils, ensureLen_eq (by simp), multipleCoilsRequest, multipleRequest,
      ofExcept_bind]
    refine (ensureSpan_bind 1968 (u16Of a0 a1) (u16Of q0 q1) _).trans ?_
    congr 1
    funext _
    rw [ofExcept_bind]
    refine (countedData_bind [code, a0, a1, q0, q1, byteCount] data _ byteCount _).trans ?_
    cases counted : countedData (((u16Of q0 q1).toNat + 7) / 8) byteCount data with
    | error => rfl
    | ok =>
      have size := length_countedData counted
      rw [ofExcept_ok, return_bind, return_bind, unpackBits_eq (by omega)]
      rfl

theorem parseWriteMultipleRegisters_eq :
    (parseWriteMultipleRegisters (code :: fields) : Guarded State SemanticRequest) =
      ofExcept (multipleRegistersRequest checkSpan fields) := by
  rcases fields with _ | ⟨a0, _ | ⟨a1, _ | ⟨q0, _ | ⟨q1, _ | ⟨byteCount, data⟩⟩⟩⟩⟩
  · rfl
  · rfl
  · rfl
  · rfl
  · rfl
  · rw [parseWriteMultipleRegisters, ensureLen_eq (by simp), multipleRegistersRequest,
      multipleRequest, ofExcept_bind]
    refine (ensureSpan_bind 123 (u16Of a0 a1) (u16Of q0 q1) _).trans ?_
    congr 1
    funext _
    rw [ofExcept_bind]
    exact countedData_bind [code, a0, a1, q0, q1, byteCount] data _ byteCount _

theorem parseReadWriteMultipleRegisters_eq :
    (parseReadWriteMultipleRegisters (code :: fields) : Guarded State SemanticRequest)
    = ofExcept (readWriteRequest checkSpan fields) := by
  rcases fields with _ | ⟨r0, _ | ⟨r1, _ | ⟨n0, _ | ⟨n1, _ | ⟨w0, _ | ⟨w1, _ | ⟨q0, _ |
    ⟨q1, _ | ⟨byteCount, data⟩⟩⟩⟩⟩⟩⟩⟩⟩
  · rfl
  · rfl
  · rfl
  · rfl
  · rfl
  · rfl
  · rfl
  · rfl
  · rfl
  · rw [parseReadWriteMultipleRegisters, ensureLen_eq (by simp), readWriteRequest, ofExcept_bind]
    refine (ensureSpan_bind 125 (u16Of r0 r1) (u16Of n0 n1) _).trans ?_
    congr 1
    funext _
    rw [ofExcept_bind]
    refine (ensureSpan_bind 121 (u16Of w0 w1) (u16Of q0 q1) _).trans ?_
    congr 1
    funext _
    rw [ofExcept_bind]
    exact countedData_bind [code, r0, r1, n0, n1, w0, w1, q0, q1, byteCount] data _ byteCount _

theorem parseFunction_eq : (parseFunction code (code :: fields) : Guarded State SemanticRequest) =
      ofExcept (requestOf (code :: fields)) := by
  rw [parseFunction, requestOf]
  cases known : tryFrom code with
  | ok function =>
    cases function with
    | readCoils | readDiscreteInputs => exact parseRead_eq 2000 _ code fields
    | readHoldingRegisters | readInputRegisters => exact parseRead_eq 125 _ code fields
    | writeSingleCoil => exact parseWriteSingleCoil_eq code fields
    | writeSingleRegister => exact parseWriteSingleRegister_eq code fields
    | writeMultipleCoils => exact parseWriteMultipleCoils_eq code fields
    | writeMultipleRegisters => exact parseWriteMultipleRegisters_eq code fields
    | maskWriteRegister => exact parseMaskWriteRegister_eq code fields
    | readWriteMultipleRegisters => exact parseReadWriteMultipleRegisters_eq code fields
  | error =>
    rw [tryFrom_eq_error known]
    have whole : (checkedSlice (code :: fields) 1 (code :: fields).length :
        Guarded State Bytes) = pure fields := by
      funext state
      rw [checkedSlice_ok state (by simp) le_rfl, List.take_length]
      rfl
    show (checkedSlice (code :: fields) 1 (code :: fields).length >>= _) = _
    rw [whole]
    rfl

theorem parseSemanticRequest_eq (pdu : Bytes) :
    (parseSemanticRequest pdu false : Guarded State SemanticRequest) =
      ofExcept (requestOf pdu) := by
  cases pdu with
  | nil => rfl
  | cons code fields =>
    show (parseFunction code (code :: fields) >>= _) = _
    rw [parseFunction_eq]
    cases requestOf (code :: fields) with
    | error | ok => rfl

section

variable {Error : Type}

theorem markBit_eq {packed : Bytes} (value : Bool) {index : Nat}
    (inside : index / 8 < packed.length) (state : State) :
    ∃ marked, (markBit value index packed : Checked State Error Bytes) state =
        .ok marked state ∧ marked.length = packed.length ∧
      ∀ bit, bitAt marked bit = (bitAt packed bit || (value && decide (bit = index))) := by
  cases value with
  | false => exact ⟨packed, rfl, rfl, fun bit => by simp⟩
  | true =>
    refine ⟨packed.set (index / 8) (setBit (packed.getD (index / 8) 0) (index % 8)), ?_,
      List.length_set, fun bit => ?_⟩
    · rw [markBit, if_pos rfl, bind_ok (checkedIndex_getD state 0 inside),
        checkedSet_ok state _ inside]
    · rw [bitAt_set_setBit inside, Bool.true_and]

theorem markBits_eq (values : List Bool) (start : Nat) (packed : Bytes)
    (inside : start + values.length ≤ 8 * packed.length) (state : State) :
    ∃ marked, (markBits (values.zipIdx start) packed : Checked State Error Bytes) state =
        .ok marked state ∧ marked.length = packed.length ∧
      ∀ bit, bitAt marked bit =
        (bitAt packed bit || (decide (start ≤ bit) && values.getD (bit - start) false)) := by
  induction values generalizing start packed with
  | nil => exact ⟨packed, rfl, rfl, fun bit => by simp⟩
  | cons value values ih =>
    rw [List.length_cons] at inside
    obtain ⟨first, ran, size, bits⟩ := @markBit_eq State Error packed value start (by omega) state
    obtain ⟨marked, others, length, later⟩ := ih (start + 1) first (by omega)
    refine ⟨marked, ?_, length.trans size, fun bit => ?_⟩
    · rw [List.zipIdx_cons, markBits, bind_ok ran, others]
    · rw [later, bits]
      rcases Nat.lt_trichotomy bit start with before | here | behind
      · have notYet : ¬start ≤ bit := by omega
        have notLater : ¬start + 1 ≤ bit := by omega
        simp [notYet, notLater, before.ne]
      · subst here
        simp
      · have reached : start ≤ bit := by omega
        have passed : start + 1 ≤ bit := by omega
        have offset : bit - start = bit - (start + 1) + 1 := by omega
        rw [offset, List.getD_cons_succ]
        simp [reached, passed, behind.ne']

theorem packBits_eq (values : List Bool) :
    (packBits values : Checked State Error Bytes) = pure (pack values) := by
  funext state
  have room : 0 + values.length ≤
      8 * (List.replicate ((values.length + 7) / 8) (0 : UInt8)).length := by
    rw [List.length_replicate]
    omega
  obtain ⟨marked, ran, length, bits⟩ := @markBits_eq State Error values 0 _ room state
  have same : marked = pack values := by
    apply eq_of_bitAt
    · rw [length, List.length_replicate, length_pack]
    · intro bit
      have blank : bitAt (List.replicate ((values.length + 7) / 8) 0) bit = false := by
        simp [bitAt]
      rw [bits, blank, bitAt_pack]
      simp
  rw [packBits, ran, same]
  rfl

end

theorem encode_eq (response : SemanticResponse) :
    (response.encode : Fallible State Bytes) = pure (responseBytes response) := by
  cases response with
  | bits =>
    rw [SemanticResponse.encode, packBits_eq]
    rfl
  | registers => rfl
  | writeSingleCoilAck | writeSingleRegisterAck | writeMultipleAck | maskWriteAck | custom => rfl

end

end Mabinogion.Modbus
