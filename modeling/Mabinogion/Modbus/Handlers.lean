import Mabinogion.Library.KeyedTable
import Mabinogion.Modbus.Service

/-!
# The function handlers

The older way to execute a request: a handler for each function code reads the PDU by index
and calls the register store. It understands what the parser of the service does, but for the
end of the address space.
-/

namespace Mabinogion.Modbus

open Checked ByteCursor BitPacking ExceptionCode FunctionCode UInt16 AddressSpace
open List (range)

namespace RegisterType

def isBitType : RegisterType → Bool
  | coil | discreteInput => true
  | holdingRegister | inputRegister => false

def maxReadQuantity (kind : RegisterType) : UInt16 := if kind.isBitType then 2000 else 125

def maxWriteQuantity (kind : RegisterType) : UInt16 := if kind.isBitType then 1968 else 123

end RegisterType

structure HandlerContext (Store : Type) where
  unitId : UInt8
  registers : AddressSpace Store

structure FunctionHandler (Store : Type) where
  functionCode : UInt8
  minPduLength : Nat
  supportsBroadcast : Bool
  handle : Bytes → HandlerContext Store → Guarded Store Bytes

section

variable {Store : Type}

def validatePduLength (minimum : Nat) (pdu : Bytes) : Guarded Store Unit :=
  failIf (pdu.length < minimum) .illegalDataValue

def parseAddress (pdu : Bytes) (offset : Nat) : Guarded Store UInt16 := do
  failIf (pdu.length < offset + 2) .illegalDataValue
  wordAt pdu offset

def parseQuantity (pdu : Bytes) (offset : Nat) : Guarded Store UInt16 := do
  failIf (pdu.length < offset + 2) .illegalDataValue
  wordAt pdu offset

def validateQuantity (quantity maximum : UInt16) : Guarded Store Unit := do
  failIf (quantity == 0) .illegalDataValue
  failIf (quantity > maximum) .illegalDataValue

def validateReadQuantity (quantity : UInt16) (kind : RegisterType) : Guarded Store Unit :=
  validateQuantity quantity kind.maxReadQuantity

def validateWriteQuantity (quantity : UInt16) (kind : RegisterType) : Guarded Store Unit :=
  validateQuantity quantity kind.maxWriteQuantity

/-- Every error of the store is a wrong address. -/
def onRegisters {Value : Type} (operation : Fallible Store Value) : Guarded Store Value :=
  mapErr (fun _ => .illegalDataAddress) operation

/-- `data[2 * i]` and `data[2 * i + 1]` for every `i` below the quantity. -/
def registerValues (data : Bytes) (quantity : Nat) : Guarded Store (List UInt16) :=
  visitAll (fun index => wordAt data (index * 2)) (range quantity)

end

section

variable {Store : Type}

/-- The two handlers for bits differ in the code, the kind and the operation. -/
def handleReadBits (code : UInt8) (kind : RegisterType)
    (read : AddressSpace Store → UInt16 → UInt16 → Fallible Store (List Bool))
    (pdu : Bytes) (ctx : HandlerContext Store) : Guarded Store Bytes := do
  validatePduLength 5 pdu
  let address ← parseAddress pdu 1
  let quantity ← parseQuantity pdu 3
  validateReadQuantity quantity kind
  let values ← onRegisters (read ctx.registers address quantity)
  let byteCount := UInt8.ofNat ((quantity.toNat + 7) / 8)
  let packed ← markBits values.zipIdx (List.replicate byteCount.toNat 0)
  pure ([code, byteCount] ++ packed)

def readCoilsHandler : FunctionHandler Store :=
  ⟨0x01, 5, false, handleReadBits 0x01 .coil readCoils⟩

def readDiscreteInputsHandler : FunctionHandler Store :=
  ⟨0x02, 5, false, handleReadBits 0x02 .discreteInput readDiscreteInputs⟩

def handleReadRegisters (code : UInt8) (kind : RegisterType)
    (read : AddressSpace Store → UInt16 → UInt16 → Fallible Store (List UInt16))
    (pdu : Bytes) (ctx : HandlerContext Store) : Guarded Store Bytes := do
  validatePduLength 5 pdu
  let address ← parseAddress pdu 1
  let quantity ← parseQuantity pdu 3
  validateReadQuantity quantity kind
  let values ← onRegisters (read ctx.registers address quantity)
  let byteCount ← checkedMul 65536 quantity.toNat 2
  pure ([code, UInt8.ofNat byteCount] ++ values.flatMap putU16)

def readHoldingRegistersHandler : FunctionHandler Store :=
  ⟨0x03, 5, false, handleReadRegisters 0x03 .holdingRegister readHoldingRegisters⟩

def readInputRegistersHandler : FunctionHandler Store :=
  ⟨0x04, 5, false, handleReadRegisters 0x04 .inputRegister readInputRegisters⟩

variable (pdu : Bytes) (ctx : HandlerContext Store)

def handleWriteSingleCoil : Guarded Store Bytes := do
  validatePduLength 5 pdu
  let address ← parseAddress pdu 1
  let value ← wordAt pdu 3
  failIf (value != 0x0000 && value != 0xFF00) .illegalDataValue
  onRegisters (ctx.registers.writeCoil address (value == 0xFF00))
  pure pdu

def writeSingleCoilHandler : FunctionHandler Store := ⟨0x05, 5, true, handleWriteSingleCoil⟩

def handleWriteSingleRegister : Guarded Store Bytes := do
  validatePduLength 5 pdu
  let address ← parseAddress pdu 1
  let value ← wordAt pdu 3
  onRegisters (ctx.registers.writeHoldingRegister address value)
  pure pdu

def writeSingleRegisterHandler : FunctionHandler Store :=
  ⟨0x06, 5, true, handleWriteSingleRegister⟩

def handleWriteMultipleCoils : Guarded Store Bytes := do
  validatePduLength 6 pdu
  let address ← parseAddress pdu 1
  let quantity ← parseQuantity pdu 3
  validateWriteQuantity quantity .coil
  let byteCount ← checkedIndex pdu 5
  failIf (byteCount.toNat != (quantity.toNat + 7) / 8) .illegalDataValue
  failIf (pdu.length < 6 + byteCount.toNat) .illegalDataValue
  let data ← checkedSlice pdu 6 (6 + byteCount.toNat)
  let coils ← unpackBits data quantity.toNat
  onRegisters (ctx.registers.writeCoils address coils)
  pure ([0x0F] ++ putU16 address ++ putU16 quantity)

def writeMultipleCoilsHandler : FunctionHandler Store :=
  ⟨0x0F, 6, true, handleWriteMultipleCoils⟩

def handleWriteMultipleRegisters : Guarded Store Bytes := do
  validatePduLength 6 pdu
  let address ← parseAddress pdu 1
  let quantity ← parseQuantity pdu 3
  validateWriteQuantity quantity .holdingRegister
  let expectedBytes ← checkedMul 65536 quantity.toNat 2
  let byteCount ← checkedIndex pdu 5
  failIf (byteCount.toNat != expectedBytes) .illegalDataValue
  failIf (pdu.length < 6 + byteCount.toNat) .illegalDataValue
  let data ← checkedSlice pdu 6 (6 + byteCount.toNat)
  let values ← registerValues data quantity.toNat
  onRegisters (ctx.registers.writeHoldingRegisters address values)
  pure ([0x10] ++ putU16 address ++ putU16 quantity)

def writeMultipleRegistersHandler : FunctionHandler Store :=
  ⟨0x10, 6, true, handleWriteMultipleRegisters⟩

def handleReadWriteMultipleRegisters : Guarded Store Bytes := do
  validatePduLength 10 pdu
  let readAddress ← parseAddress pdu 1
  let readQuantity ← parseQuantity pdu 3
  let writeAddress ← parseAddress pdu 5
  let writeQuantity ← parseQuantity pdu 7
  failIf (readQuantity == 0 || readQuantity > 125) .illegalDataValue
  failIf (writeQuantity == 0 || writeQuantity > 121) .illegalDataValue
  let expectedBytes ← checkedMul 65536 writeQuantity.toNat 2
  let byteCount ← checkedIndex pdu 9
  failIf (byteCount.toNat != expectedBytes) .illegalDataValue
  failIf (pdu.length < 10 + byteCount.toNat) .illegalDataValue
  let data ← checkedSlice pdu 10 (10 + byteCount.toNat)
  let writeValues ← registerValues data writeQuantity.toNat
  onRegisters (ctx.registers.writeHoldingRegisters writeAddress writeValues)
  let readValues ← onRegisters (ctx.registers.readHoldingRegisters readAddress readQuantity)
  let responseByteCount ← checkedMul 65536 readQuantity.toNat 2
  pure ([0x17, UInt8.ofNat responseByteCount] ++ readValues.flatMap putU16)

def readWriteMultipleRegistersHandler : FunctionHandler Store :=
  ⟨0x17, 10, false, handleReadWriteMultipleRegisters⟩

def handleMaskWriteRegister : Guarded Store Bytes := do
  validatePduLength 7 pdu
  let address ← parseAddress pdu 1
  let andMask ← wordAt pdu 3
  let orMask ← wordAt pdu 5
  onRegisters (ctx.registers.maskWriteHoldingRegister address andMask orMask)
  pure pdu

def maskWriteRegisterHandler : FunctionHandler Store := ⟨0x16, 7, true, handleMaskWriteRegister⟩

end

structure HandlerRegistry (Store : Type) where
  handlers : KeyedTable.Table UInt8 (FunctionHandler Store)

namespace HandlerRegistry

variable {Store : Type}

def new : HandlerRegistry Store := ⟨∅⟩

variable (registry : HandlerRegistry Store)

def register (handler : FunctionHandler Store) : HandlerRegistry Store :=
  ⟨registry.handlers.insert handler.functionCode handler⟩

def withDefaults : HandlerRegistry Store :=
  [readCoilsHandler, readDiscreteInputsHandler, readHoldingRegistersHandler,
    readInputRegistersHandler, writeSingleCoilHandler, writeSingleRegisterHandler,
    writeMultipleCoilsHandler, writeMultipleRegistersHandler, readWriteMultipleRegistersHandler,
    maskWriteRegisterHandler].foldl register new

/-- A handler that was found says itself whether it supports broadcast. -/
def dispatch (pdu : Bytes) (ctx : HandlerContext Store) : Guarded Store Bytes :=
  match pdu with
  | [] => fail .illegalFunction
  | functionCode :: _ =>
    match registry.handlers.lookup functionCode with
    | none => fail .illegalFunction
    | some handler => do
      failIf (ctx.unitId == 0 && !handler.supportsBroadcast) .illegalFunction
      failIf (pdu.length < handler.minPduLength) .illegalDataValue
      handler.handle pdu ctx

end HandlerRegistry

variable {request : SemanticRequest} {fields : Bytes}
variable {make : UInt16 → UInt16 → SemanticRequest} {function : FunctionCode}

/-! What a handler understands, field by field. -/

def checkQuantity (maximum : Nat) (_address quantity : UInt16) : Except ExceptionCode Unit :=
  if quantity.toNat = 0 ∨ maximum < quantity.toNat then .error .illegalDataValue else .ok ()

def handledRequest : FunctionCode → Bytes → Meaning :=
  requestFor checkQuantity

/-- No address beyond the last one. -/
def SemanticRequest.InSpan : SemanticRequest → Prop
  | readCoils address quantity | readDiscreteInputs address quantity
  | readHoldingRegisters address quantity | readInputRegisters address quantity =>
    address.toNat + quantity.toNat ≤ 65536
  | writeMultipleCoils address values => address.toNat + values.length ≤ 65536
  | writeMultipleRegisters address values => address.toNat + values.length ≤ 65536
  | readWriteMultipleRegisters readAddress readQuantity writeAddress values =>
    readAddress.toNat + readQuantity.toNat ≤ 65536 ∧ writeAddress.toNat + values.length ≤ 65536
  | _ => True

variable {maximum : Nat}

theorem checkSpan_ok_iff {address quantity : UInt16} {result : Unit} :
    checkSpan maximum address quantity = .ok result ↔
      checkQuantity maximum address quantity = .ok result ∧
        address.toNat + quantity.toNat ≤ 65536 := by
  unfold checkSpan checkQuantity
  split_ifs with wrong beyond
  · simp
  · simp only [true_and, false_iff]
    omega
  · simp only [true_and, true_iff]
    omega

theorem except_bind_ok_iff {Value Result : Type} {result : Except ExceptionCode Value}
    {next : Value → Except ExceptionCode Result} {value : Result} :
    result >>= next = .ok value ↔ ∃ middle, result = .ok middle ∧ next middle = .ok value := by
  constructor
  · exact except_bind_ok
  · intro both
    obtain ⟨middle, rfl, rest⟩ := both
    exact rest

theorem spanned_ok_iff {address quantity : UInt16} {next : Meaning}
    (span : next = .ok request → (request.InSpan ↔ address.toNat + quantity.toNat ≤ 65536)) :
    (checkSpan maximum address quantity >>= fun _ => next) = .ok request ↔
      (checkQuantity maximum address quantity >>= fun _ => next) = .ok request ∧ request.InSpan := by
  simp only [except_bind_ok_iff, checkSpan_ok_iff]
  constructor
  · intro ⟨done, ⟨allowed, small⟩, made⟩
    exact ⟨⟨done, allowed, made⟩, (span made).mpr small⟩
  · intro ⟨⟨done, allowed, made⟩, inside⟩
    exact ⟨done, ⟨allowed, (span made).mp inside⟩, made⟩

theorem readRequest_ok_iff (span : ∀ address quantity,
      (make address quantity).InSpan ↔ address.toNat + quantity.toNat ≤ 65536) :
    readRequest checkSpan maximum make fields = .ok request ↔
      readRequest checkQuantity maximum make fields = .ok request ∧ request.InSpan := by
  fun_cases readRequest checkQuantity maximum make fields with
  | case1 =>
    apply spanned_ok_iff
    intro made
    cases made
    exact span _ _
  | case2 fields short => simp [readRequest.eq_2 _ _ _ fields short]

theorem length_unpack (bytes : Bytes) (count : Nat) : (unpack bytes count).length = count := by
  simp [unpack]

theorem multipleRequest_ok_iff {needed : Nat → Nat} {make : UInt16 → Nat → Bytes → SemanticRequest}
    (span : ∀ address quantity byteCount data values,
      countedData (needed quantity) byteCount data = .ok values →
        ((make address quantity values).InSpan ↔ address.toNat + quantity ≤ 65536)) :
    multipleRequest checkSpan maximum needed make fields = .ok request ↔
      multipleRequest checkQuantity maximum needed make fields = .ok request ∧ request.InSpan := by
  fun_cases multipleRequest checkQuantity maximum needed make fields with
  | case1 =>
    apply spanned_ok_iff
    intro made
    obtain ⟨values, counted, made⟩ := except_bind_ok made
    cases made
    exact span _ _ _ _ _ counted
  | case2 fields short => simp [multipleRequest.eq_2 _ _ _ _ fields short]

theorem readWriteRequest_ok_iff : readWriteRequest checkSpan fields = .ok request ↔
      readWriteRequest checkQuantity fields = .ok request ∧ request.InSpan := by
  fun_cases readWriteRequest checkQuantity fields with
  | case1 r0 r1 n0 n1 w0 w1 q0 q1 byteCount data =>
    simp only [readWriteRequest, except_bind_ok_iff, checkSpan_ok_iff]
    have span {values : Bytes}
        (counted : countedData ((u16Of q0 q1).toNat * 2) byteCount data = .ok values) :
        (SemanticRequest.readWriteMultipleRegisters (u16Of r0 r1) (u16Of n0 n1) (u16Of w0 w1)
          (words values)).InSpan ↔ (u16Of r0 r1).toNat + (u16Of n0 n1).toNat ≤ 65536 ∧
              (u16Of w0 w1).toNat + (u16Of q0 q1).toNat ≤ 65536 := by
      rw [SemanticRequest.InSpan, length_words_countedData counted]
    constructor
    · intro meant
      obtain ⟨first, ⟨readable, near⟩, second, ⟨writable, small⟩, values, counted, made⟩ := meant
      cases made
      exact ⟨⟨first, readable, second, writable, values, counted, rfl⟩,
        (span counted).mpr ⟨near, small⟩⟩
    · intro both
      obtain ⟨⟨first, readable, second, writable, values, counted, made⟩, inside⟩ := both
      cases made
      obtain ⟨near, small⟩ := (span counted).mp inside
      exact ⟨first, ⟨readable, near⟩, second, ⟨writable, small⟩, values, counted, rfl⟩
  | case2 fields short => simp [readWriteRequest.eq_2 _ fields short]

theorem unspanned_ok_iff {meaning : Bytes → Meaning}
    (inside : meaning fields = .ok request → request.InSpan) :
    meaning fields = .ok request ↔ meaning fields = .ok request ∧ request.InSpan :=
  ⟨fun meant => ⟨meant, inside meant⟩, And.left⟩

theorem requestFor_ok_iff : requestFor checkSpan function fields = .ok request ↔
      handledRequest function fields = .ok request ∧ request.InSpan := by
  cases function with
  | readCoils | readDiscreteInputs | readHoldingRegisters | readInputRegisters =>
    exact readRequest_ok_iff fun _ _ => Iff.rfl
  | writeMultipleCoils =>
    rw [requestFor, handledRequest, requestFor]
    apply multipleRequest_ok_iff
    intro _ _ _ _ _ _
    rw [SemanticRequest.InSpan, length_unpack]
  | writeMultipleRegisters =>
    rw [requestFor, handledRequest, requestFor]
    apply multipleRequest_ok_iff
    intro _ _ _ _ _ counted
    rw [SemanticRequest.InSpan, length_words_countedData counted]
  | readWriteMultipleRegisters => exact readWriteRequest_ok_iff
  | writeSingleCoil =>
    apply unspanned_ok_iff
    intro meant
    obtain ⟨_, _, rfl⟩ := singleCoilRequest_ok meant
    trivial
  | writeSingleRegister =>
    apply unspanned_ok_iff
    intro meant
    obtain ⟨_, _, rfl⟩ := singleRegisterRequest_ok meant
    trivial
  | maskWriteRegister =>
    apply unspanned_ok_iff
    intro meant
    obtain ⟨_, _, _, rfl⟩ := maskRequest_ok meant
    trivial

/-- A read is answered with as many values as were asked for. -/
def Counts {Store Cell : Type}
    (read : UInt16 → UInt16 → Fallible Store (List Cell)) : Prop :=
  ∀ address quantity store values after, read address quantity store = .ok values after →
    values.length = quantity.toNat

structure AddressSpace.Counted {Store : Type} (space : AddressSpace Store) : Prop where
  readCoils : Counts space.readCoils
  readDiscreteInputs : Counts space.readDiscreteInputs
  readHoldingRegisters : Counts space.readHoldingRegisters
  readInputRegisters : Counts space.readInputRegisters

section

variable {Store Value : Type} {space : AddressSpace Store} {unit : UInt8}

/-- A request that is executed as the service executes it, every error being a wrong address. -/
def handled (space : AddressSpace Store) (request : SemanticRequest) : Guarded Store Bytes := do
  let response ← mapErr (fun _ => ExceptionCode.illegalDataAddress) (executeBuiltin space request)
  pure (responseBytes response)

theorem mapErr_onStore_bind {Result : Type} (operation : Fallible Store Value)
    (next : Value → Checked Store SemanticFailure Result) :
    mapErr (fun _ => illegalDataAddress) (onStore operation >>= next) =
      onRegisters operation >>= fun value => mapErr (fun _ => illegalDataAddress) (next value) := by
  funext store
  rw [bind_apply, andThen, onRegisters, mapErr, mapErr, bind_apply, andThen, onStore, mapErr]
  cases operation store with
  | ok | err | fault => rfl

theorem handled_eq (operation : Fallible Store Value)
    (respond : Value → SemanticResponse) :
    (mapErr (fun _ => illegalDataAddress)
        (onStore operation >>= fun value => pure (respond value)) >>= fun response =>
      pure (responseBytes response)) =
      onRegisters operation >>= fun value => pure (responseBytes (respond value)) := by
  rw [mapErr_onStore_bind, bind_bind]
  rfl

theorem validateQuantity_eq (address quantity maximum : UInt16) :
    (validateQuantity quantity maximum : Guarded Store Unit) =
      ofExcept (checkQuantity maximum.toNat address quantity) := by
  rw [validateQuantity, quantity_zero, quantity_above, checkQuantity]
  by_cases empty : quantity.toNat = 0
  · simp [empty, failIf_true, ofExcept_error, fail_bind]
  · by_cases large : maximum.toNat < quantity.toNat
    · simp [empty, large, failIf_true, failIf_false, ofExcept_error, return_bind]
    · simp [empty, large, failIf_false, ofExcept_ok, return_bind]

theorem checkQuantity_ok {address quantity : UInt16} {result : Unit}
    (allowed : checkQuantity maximum address quantity = .ok result) :
    0 < quantity.toNat ∧ quantity.toNat ≤ maximum := by
  unfold checkQuantity at allowed
  split_ifs at allowed with wrong
  omega

theorem parseAddress_eq {pdu : Bytes} {offset : Nat} (enough : offset + 2 ≤ pdu.length) :
    (parseAddress pdu offset : Guarded Store UInt16) = wordAt pdu offset := by
  rw [parseAddress, decide_eq_false (Nat.not_lt.mpr enough), failIf_false, return_bind]

theorem addressAndQuantity_bind (code a0 a1 q0 q1 : UInt8) {rest : Bytes} {minimum : Nat}
    (enough : minimum ≤ rest.length + 5) (next : UInt16 → UInt16 → Guarded Store Value) :
    (validatePduLength minimum (code :: a0 :: a1 :: q0 :: q1 :: rest) >>= fun _ =>
      parseAddress (code :: a0 :: a1 :: q0 :: q1 :: rest) 1 >>= fun address =>
        parseQuantity (code :: a0 :: a1 :: q0 :: q1 :: rest) 3 >>= fun quantity =>
          next address quantity) = next (u16Of a0 a1) (u16Of q0 q1) := by
  have long : (validatePduLength minimum (code :: a0 :: a1 :: q0 :: q1 :: rest) :
      Guarded Store Unit) = pure () := ensureLen_eq enough
  have address : (parseAddress (code :: a0 :: a1 :: q0 :: q1 :: rest) 1 :
      Guarded Store UInt16) = pure (u16Of a0 a1) := parseAddress_eq (by simp)
  have quantity : (parseQuantity (code :: a0 :: a1 :: q0 :: q1 :: rest) 3 :
      Guarded Store UInt16) = pure (u16Of q0 q1) := parseAddress_eq (by simp)
  rw [long, return_bind, address, return_bind, quantity, return_bind]

variable {kind : RegisterType}

theorem readHandler_eq {Cell : Type} {limit : Nat}
    {read : UInt16 → UInt16 → Fallible Store (List Cell)}
    {respond : UInt16 → List Cell → Guarded Store Bytes}
    (maximum : kind.maxReadQuantity.toNat = limit)
    (answered : ∀ address quantity, quantity.toNat ≤ limit →
      (onRegisters (read address quantity) >>= respond quantity) =
        handled space (make address quantity)) (code : UInt8) (fields : Bytes) :
    (validatePduLength 5 (code :: fields) >>= fun _ =>
      parseAddress (code :: fields) 1 >>= fun address =>
        parseQuantity (code :: fields) 3 >>= fun quantity =>
          validateReadQuantity quantity kind >>= fun _ =>
            onRegisters (read address quantity) >>= respond quantity) =
      ofExcept (readRequest checkQuantity limit make fields) >>= handled space := by
  rcases fields with _ | ⟨a0, _ | ⟨a1, _ | ⟨q0, _ | ⟨q1, rest⟩⟩⟩⟩
  · rfl
  · rfl
  · rfl
  · rfl
  rw [addressAndQuantity_bind _ _ _ _ _ (by simp), validateReadQuantity,
    validateQuantity_eq (u16Of a0 a1), maximum, readRequest]
  cases allowed : checkQuantity limit (u16Of a0 a1) (u16Of q0 q1) with
  | error => rfl
  | ok =>
    rw [ofExcept_ok, return_bind]
    exact answered _ _ (checkQuantity_ok allowed).2

theorem handleReadBits_eq {code : UInt8}
    {read : AddressSpace Store → UInt16 → UInt16 → Fallible Store (List Bool)}
    (counted : Counts (read space))
    (carried : ∀ address quantity, handled space (make address quantity) =
      onRegisters (read space address quantity) >>= fun values =>
        pure (responseBytes (.bits function values)))
    (bits : kind.maxReadQuantity = 2000) (fields : Bytes) :
    handleReadBits function.toU8 kind read (code :: fields) ⟨unit, space⟩ =
      ofExcept (readRequest checkQuantity 2000 make fields) >>= handled space := by
  have limit : kind.maxReadQuantity.toNat = 2000 := congrArg toNat bits
  apply readHandler_eq limit
  intro address quantity small
  rw [carried]
  apply bind_congr_ok
  intro store values after returned
  have length := counted _ _ _ _ _ (mapErr_eq_ok _ _ returned)
  have byteCount : (UInt8.ofNat ((quantity.toNat + 7) / 8)).toNat = (values.length + 7) / 8 := by
    rw [UInt8.toNat_ofNat_of_lt' (Nat.lt_of_le_of_lt (by omega : _ ≤ 250) (by decide)), length]
  have packed := @packBits_eq Store ExceptionCode values
  rw [packBits, ← byteCount] at packed
  rw [packed, return_bind, responseBytes, length]
  rfl

theorem handleReadRegisters_eq {code : UInt8}
    {read : AddressSpace Store → UInt16 → UInt16 → Fallible Store (List UInt16)}
    (counted : Counts (read space))
    (carried : ∀ address quantity, handled space (make address quantity) =
      onRegisters (read space address quantity) >>= fun values =>
        pure (responseBytes (.registers function values)))
    (registers : kind.maxReadQuantity = 125) (fields : Bytes) :
    handleReadRegisters function.toU8 kind read (code :: fields) ⟨unit, space⟩ =
      ofExcept (readRequest checkQuantity 125 make fields) >>= handled space := by
  have limit : kind.maxReadQuantity.toNat = 125 := congrArg toNat registers
  apply readHandler_eq limit
  intro address quantity small
  rw [carried]
  apply bind_congr_ok
  intro store values after returned
  have length := counted _ _ _ _ _ (mapErr_eq_ok _ _ returned)
  rw [checkedMul_eq (by omega), return_bind, responseBytes, length]
  rfl

theorem nil_of_length_add_le {rest : Bytes} (front : Nat)
    (whole : rest.length + front ≤ front) : rest = [] :=
  List.eq_nil_of_length_eq_zero (by omega)

theorem handleWriteSingleCoil_eq (whole : fields.length ≤ 4) :
    handleWriteSingleCoil (writeSingleCoil.toU8 :: fields) ⟨unit, space⟩ =
      ofExcept (singleCoilRequest fields) >>= handled space := by
  rcases fields with _ | ⟨a0, _ | ⟨a1, _ | ⟨v0, _ | ⟨v1, rest⟩⟩⟩⟩
  · rfl
  · rfl
  · rfl
  · rfl
  · obtain rfl : rest = [] := nil_of_length_add_le 4 whole
    have carried (value : Bool) (raw : (if value then 0xFF00 else 0x0000) = u16Of v0 v1) :
        handled space (.writeSingleCoil (u16Of a0 a1) value) =
          onRegisters (space.writeCoil (u16Of a0 a1) value) >>= fun _ =>
            pure (writeSingleCoil.toU8 :: [a0, a1, v0, v1]) := by
      have result := handled_eq (space.writeCoil (u16Of a0 a1) value)
        fun _ => .writeSingleCoilAck (u16Of a0 a1) value
      simp only [responseBytes, raw, putU16_u16Of] at result
      exact result
    show (failIf (u16Of v0 v1 != 0x0000 && u16Of v0 v1 != 0xFF00) illegalDataValue >>= fun _ =>
        onRegisters (space.writeCoil (u16Of a0 a1) (u16Of v0 v1 == 0xFF00)) >>= fun _ =>
          pure _) = _
    rw [singleCoilRequest, coilValue]
    by_cases off : u16Of v0 v1 = 0x0000
    · rw [if_pos off, ofExcept_ok, return_bind, carried false off.symm, off]
      rfl
    · by_cases on : u16Of v0 v1 = 0xFF00
      · rw [if_neg off, if_pos on, ofExcept_ok, return_bind, carried true on.symm, on]
        rfl
      · rw [if_neg off, if_neg on, ofExcept_error, fail_bind, bne_iff_ne.mpr off, bne_iff_ne.mpr on]
        rfl

theorem handleWriteSingleRegister_eq (whole : fields.length ≤ 4) :
    handleWriteSingleRegister (writeSingleRegister.toU8 :: fields) ⟨unit, space⟩ =
      ofExcept (singleRegisterRequest fields) >>= handled space := by
  rcases fields with _ | ⟨a0, _ | ⟨a1, _ | ⟨v0, _ | ⟨v1, rest⟩⟩⟩⟩
  · rfl
  · rfl
  · rfl
  · rfl
  · obtain rfl : rest = [] := nil_of_length_add_le 4 whole
    have carried := handled_eq (space.writeHoldingRegister (u16Of a0 a1) (u16Of v0 v1))
      fun _ => .writeSingleRegisterAck (u16Of a0 a1) (u16Of v0 v1)
    simp only [responseBytes, putU16_u16Of] at carried
    exact carried.symm

theorem handleMaskWriteRegister_eq (whole : fields.length ≤ 6) :
    handleMaskWriteRegister (maskWriteRegister.toU8 :: fields) ⟨unit, space⟩ =
      ofExcept (maskRequest fields) >>= handled space := by
  rcases fields with _ | ⟨a0, _ | ⟨a1, _ | ⟨m0, _ | ⟨m1, _ | ⟨o0, _ | ⟨o1, rest⟩⟩⟩⟩⟩⟩
  · rfl
  · rfl
  · rfl
  · rfl
  · rfl
  · rfl
  · obtain rfl : rest = [] := nil_of_length_add_le 6 whole
    have carried := handled_eq
      (space.maskWriteHoldingRegister (u16Of a0 a1) (u16Of m0 m1) (u16Of o0 o1))
      fun _ => .maskWriteAck (u16Of a0 a1) (u16Of m0 m1) (u16Of o0 o1)
    simp only [responseBytes, putU16_u16Of] at carried
    exact carried.symm

theorem getElem?_words {data : Bytes} {index : Nat} (inside : index < data.length / 2) :
    (words data)[index]? = some (u16Of (data.getD (index * 2) 0) (data.getD (index * 2 + 1) 0)) := by
  induction data using words.induct generalizing index with
  | case1 high low rest ih =>
    cases index with
    | zero => rfl
    | succ index =>
      have later : index < rest.length / 2 := by
        simp only [List.length_cons] at inside
        omega
      have position : (index + 1) * 2 = index * 2 + 1 + 1 := by omega
      rw [words, List.getElem?_cons_succ, ih later, position]
      rfl
  | case2 data short =>
    rcases data with _ | ⟨high, _ | ⟨low, rest⟩⟩
    · simp at inside
    · simp at inside
    · exact (short high low rest rfl).elim

theorem registerValues_eq {data : Bytes} {quantity : Nat} (length : data.length = quantity * 2) :
    (registerValues data quantity : Guarded Store (List UInt16)) = pure (words data) := by
  funext store
  have visits : ∀ index ∈ range quantity, (wordAt data (index * 2) : Guarded Store UInt16) store =
        .ok (u16Of (data.getD (index * 2) 0) (data.getD (index * 2 + 1) 0)) store := by
    intro index listed
    have below : index < quantity := List.mem_range.mp listed
    have first : index * 2 < data.length := by omega
    have second : index * 2 + 1 < data.length := by omega
    rw [wordAt, bind_ok (checkedIndex_getD store 0 first),
      bind_ok (checkedIndex_getD store 0 second)]
    rfl
  have values : (range quantity).map (fun index =>
      u16Of (data.getD (index * 2) 0) (data.getD (index * 2 + 1) 0)) = words data := by
    apply List.ext_getElem?
    intro index
    by_cases below : index < quantity
    · rw [getElem?_words (by omega)]
      simp [below]
    · have behind : (words data).length ≤ index := by
        rw [length_words]
        omega
      rw [List.getElem?_eq_none behind]
      simp [below]
  rw [registerValues, visitAll_ok _ visits, values]
  rfl

theorem handleWriteMultipleCoils_eq (code : UInt8) (fields : Bytes) :
    handleWriteMultipleCoils (code :: fields) ⟨unit, space⟩ =
      ofExcept (multipleCoilsRequest checkQuantity fields) >>= handled space := by
  rcases fields with _ | ⟨a0, _ | ⟨a1, _ | ⟨q0, _ | ⟨q1, _ | ⟨byteCount, data⟩⟩⟩⟩⟩
  · rfl
  · rfl
  · rfl
  · rfl
  · rfl
  · have count : (checkedIndex (code :: a0 :: a1 :: q0 :: q1 :: byteCount :: data) 5 :
        Guarded Store UInt8) = pure byteCount := rfl
    have maximum : RegisterType.coil.maxWriteQuantity.toNat = 1968 := rfl
    rw [handleWriteMultipleCoils, addressAndQuantity_bind _ _ _ _ _ (by simp),
      validateWriteQuantity, validateQuantity_eq (u16Of a0 a1), maximum, multipleCoilsRequest,
      multipleRequest]
    cases allowed : checkQuantity 1968 (u16Of a0 a1) (u16Of q0 q1) with
    | error => rfl
    | ok =>
      rw [ofExcept_ok, return_bind, count, return_bind, failIf_failIf]
      refine (countedData_bind [code, a0, a1, q0, q1, byteCount] data _ byteCount _).trans ?_
      cases counted : countedData (((u16Of q0 q1).toNat + 7) / 8) byteCount data with
      | error => rfl
      | ok packed =>
        have size := length_countedData counted
        have carried := handled_eq
          (space.writeCoils (u16Of a0 a1) (unpack packed (u16Of q0 q1).toNat)) fun _ =>
            .writeMultipleAck .writeMultipleCoils (u16Of a0 a1)
              (ofNat (unpack packed (u16Of q0 q1).toNat).length)
        rw [ofExcept_ok, return_bind, unpackBits_eq (by omega), return_bind]
        refine Eq.trans ?_ carried.symm
        simp only [responseBytes, length_unpack, UInt16.ofNat_toNat]
        rfl

theorem handleWriteMultipleRegisters_eq (code : UInt8) (fields : Bytes) :
    handleWriteMultipleRegisters (code :: fields) ⟨unit, space⟩ =
      ofExcept (multipleRegistersRequest checkQuantity fields) >>= handled space := by
  rcases fields with _ | ⟨a0, _ | ⟨a1, _ | ⟨q0, _ | ⟨q1, _ | ⟨byteCount, data⟩⟩⟩⟩⟩
  · rfl
  · rfl
  · rfl
  · rfl
  · rfl
  · have count : (checkedIndex (code :: a0 :: a1 :: q0 :: q1 :: byteCount :: data) 5 :
        Guarded Store UInt8) = pure byteCount := rfl
    have maximum : RegisterType.holdingRegister.maxWriteQuantity.toNat = 123 := rfl
    rw [handleWriteMultipleRegisters, addressAndQuantity_bind _ _ _ _ _ (by simp),
      validateWriteQuantity, validateQuantity_eq (u16Of a0 a1), maximum, multipleRegistersRequest,
      multipleRequest]
    cases allowed : checkQuantity 123 (u16Of a0 a1) (u16Of q0 q1) with
    | error => rfl
    | ok =>
      have small := (checkQuantity_ok allowed).2
      rw [ofExcept_ok, return_bind, checkedMul_eq (by omega), return_bind, count, return_bind,
        failIf_failIf]
      refine (countedData_bind [code, a0, a1, q0, q1, byteCount] data _ byteCount _).trans ?_
      cases counted : countedData ((u16Of q0 q1).toNat * 2) byteCount data with
      | error => rfl
      | ok values =>
        have carried := handled_eq
          (space.writeHoldingRegisters (u16Of a0 a1) (words values)) fun _ =>
            .writeMultipleAck .writeMultipleRegisters (u16Of a0 a1) (ofNat (words values).length)
        rw [ofExcept_ok, return_bind, registerValues_eq (length_countedData counted), return_bind]
        refine Eq.trans ?_ carried.symm
        simp only [responseBytes, length_words_countedData counted, UInt16.ofNat_toNat]
        rfl

theorem ensureQuantity_eq (address quantity maximum : UInt16) :
    (ensureQuantity quantity maximum : Guarded Store Unit) =
      ofExcept (checkQuantity maximum.toNat address quantity) := by
  rw [← validateQuantity_eq, ensureQuantity, validateQuantity]
  cases quantity == 0 with
  | true | false => rfl

/-- The one handler that calls the store twice. -/
theorem handled_readWrite (readAddress readQuantity writeAddress : UInt16) (values : List UInt16) :
    handled space (.readWriteMultipleRegisters readAddress readQuantity writeAddress values) =
      onRegisters (space.writeHoldingRegisters writeAddress values) >>= fun _ =>
        onRegisters (space.readHoldingRegisters readAddress readQuantity) >>= fun registers =>
          pure (responseBytes (.registers .readWriteMultipleRegisters registers)) := by
  rw [handled, executeBuiltin, mapErr_onStore_bind, bind_bind]
  congr 1
  funext _
  exact handled_eq _ _

theorem handleReadWriteMultipleRegisters_eq (counted : Counts space.readHoldingRegisters)
    (code : UInt8) (fields : Bytes) :
    handleReadWriteMultipleRegisters (code :: fields) ⟨unit, space⟩ =
      ofExcept (readWriteRequest checkQuantity fields) >>= handled space := by
  rcases fields with _ | ⟨r0, _ | ⟨r1, _ | ⟨n0, _ | ⟨n1, _ | ⟨w0, _ | ⟨w1, _ | ⟨q0, _ |
    ⟨q1, _ | ⟨byteCount, data⟩⟩⟩⟩⟩⟩⟩⟩⟩
  iterate 9 rfl
  have long : (validatePduLength 10 (code :: r0 :: r1 :: n0 :: n1 :: w0 :: w1 :: q0 :: q1 ::
      byteCount :: data) : Guarded Store Unit) = pure () := ensureLen_eq (by simp)
  have count : (checkedIndex (code :: r0 :: r1 :: n0 :: n1 :: w0 :: w1 :: q0 :: q1 ::
      byteCount :: data) 9 : Guarded Store UInt8) = pure byteCount := rfl
  have first : (failIf (u16Of n0 n1 == 0 || decide (u16Of n0 n1 > 125)) .illegalDataValue :
      Guarded Store Unit) =
      ofExcept (checkQuantity 125 (u16Of r0 r1) (u16Of n0 n1)) :=
    ensureQuantity_eq _ _ _
  have second : (failIf (u16Of q0 q1 == 0 || decide (u16Of q0 q1 > 121)) .illegalDataValue :
      Guarded Store Unit) =
      ofExcept (checkQuantity 121 (u16Of w0 w1) (u16Of q0 q1)) :=
    ensureQuantity_eq _ _ _
  rw [handleReadWriteMultipleRegisters, long, return_bind]
  show (failIf (u16Of n0 n1 == 0 || decide (u16Of n0 n1 > 125)) illegalDataValue >>=
    fun _ => failIf (u16Of q0 q1 == 0 || decide (u16Of q0 q1 > 121)) illegalDataValue >>= _) = _
  rw [first, second, readWriteRequest]
  cases readable : checkQuantity 125 (u16Of r0 r1) (u16Of n0 n1) with
  | error => rfl
  | ok =>
    cases writable : checkQuantity 121 (u16Of w0 w1) (u16Of q0 q1) with
    | error => rfl
    | ok =>
      have few := (checkQuantity_ok readable).2
      have small := (checkQuantity_ok writable).2
      rw [ofExcept_ok, return_bind, return_bind, checkedMul_eq (by omega), return_bind, count,
        return_bind, failIf_failIf]
      refine (countedData_bind [code, r0, r1, n0, n1, w0, w1, q0, q1, byteCount] data _
        byteCount _).trans ?_
      cases sliced : countedData ((u16Of q0 q1).toNat * 2) byteCount data with
      | error => rfl
      | ok =>
        rw [ofExcept_ok, return_bind, registerValues_eq (length_countedData sliced), return_bind]
        refine Eq.trans ?_ (handled_readWrite _ _ _ _).symm
        congr 1
        funext _
        apply bind_congr_ok
        intro store registers after returned
        have length := counted _ _ _ _ _ (mapErr_eq_ok _ _ returned)
        rw [checkedMul_eq (by omega), return_bind, responseBytes, length]
        rfl

def handlerFor : FunctionCode → FunctionHandler Store
  | .readCoils => readCoilsHandler
  | .readDiscreteInputs => readDiscreteInputsHandler
  | .readHoldingRegisters => readHoldingRegistersHandler
  | .readInputRegisters => readInputRegistersHandler
  | .writeSingleCoil => writeSingleCoilHandler
  | .writeSingleRegister => writeSingleRegisterHandler
  | .writeMultipleCoils => writeMultipleCoilsHandler
  | .writeMultipleRegisters => writeMultipleRegistersHandler
  | .maskWriteRegister => maskWriteRegisterHandler
  | .readWriteMultipleRegisters => readWriteMultipleRegistersHandler

theorem lookup_withDefaults (function : FunctionCode) :
    (HandlerRegistry.withDefaults : HandlerRegistry Store).handlers.lookup function.toU8 =
      some (handlerFor function) := by
  cases function <;> rfl

theorem handle_short {pdu : Bytes} (ctx : HandlerContext Store)
    (short : pdu.length < (handlerFor function : FunctionHandler Store).minPduLength) :
    (handlerFor function).handle pdu ctx = fail .illegalDataValue := by
  have checked (minimum : Nat) (less : pdu.length < minimum)
      (next : Unit → Guarded Store Bytes) :
      (validatePduLength minimum pdu >>= next) = fail .illegalDataValue := by
    rw [validatePduLength, decide_eq_true less, failIf_true, fail_bind]
  cases function <;> exact checked _ short _

theorem dispatch_withDefaults {unit : UInt8} (unicast : unit ≠ 0) (function : FunctionCode)
    (fields : Bytes) :
    HandlerRegistry.withDefaults.dispatch (function.toU8 :: fields) ⟨unit, space⟩ =
      (handlerFor function).handle (function.toU8 :: fields) ⟨unit, space⟩ := by
  have one : (unit == 0) = false := beq_eq_false_iff_ne.mpr unicast
  simp only [HandlerRegistry.dispatch, lookup_withDefaults, one, Bool.false_and, failIf_false,
    return_bind]
  by_cases short : (function.toU8 :: fields).length <
      (handlerFor function : FunctionHandler Store).minPduLength
  · rw [handle_short _ short, decide_eq_true short, failIf_true, fail_bind]
  · rw [decide_eq_false short, failIf_false, return_bind]

end

end Mabinogion.Modbus
