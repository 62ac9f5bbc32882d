import Mabinogion.Library.Transactional
import Mabinogion.Modbus.Pdu

/-!
# The Modbus service

A request to one unit is parsed, executed against the register store and answered. The store
is known by its operations only. An exception is an error, a panic a fault.
-/

namespace Mabinogion.Modbus

open Checked ByteCursor BitPacking FunctionCode
open Or (inl)

inductive RegisterType where
  | coil
  | discreteInput
  | holdingRegister
  | inputRegister

structure AddressSpace (Store : Type) where
  readCoils (address quantity : UInt16) : Fallible Store (List Bool)
  writeCoil (address : UInt16) (value : Bool) : Fallible Store Unit
  writeCoils (address : UInt16) (values : List Bool) : Fallible Store Unit
  readDiscreteInputs (address quantity : UInt16) : Fallible Store (List Bool)
  readHoldingRegisters (address quantity : UInt16) : Fallible Store (List UInt16)
  writeHoldingRegister (address value : UInt16) : Fallible Store Unit
  writeHoldingRegisters (address : UInt16) (values : List UInt16) : Fallible Store Unit
  readInputRegisters (address quantity : UInt16) : Fallible Store (List UInt16)
  maskWriteHoldingRegister (address andMask orMask : UInt16) : Fallible Store Unit

def maskFormula (current andMask orMask : UInt16) : UInt16 :=
  (current &&& andMask) ||| (orMask &&& ~~~andMask)

/-- The mask write of a store that has no better one: a read and a write. -/
def AddressSpace.defaultMaskWrite {Store : Type}
    (readHoldingRegisters : UInt16 → UInt16 → Fallible Store (List UInt16))
    (writeHoldingRegister : UInt16 → UInt16 → Fallible Store Unit)
    (address andMask orMask : UInt16) : Fallible Store Unit := do
  let values ← readHoldingRegisters address 1
  let current ← checkedIndex values 0
  writeHoldingRegister address (maskFormula current andMask orMask)

inductive SemanticFailure where
  | illegalFunction
  | illegalDataAddress
  | illegalDataValue
  | slaveDeviceFailure

namespace SemanticFailure

def exceptionCode : SemanticFailure → ExceptionCode
  | illegalFunction => .illegalFunction
  | illegalDataAddress => .illegalDataAddress
  | illegalDataValue => .illegalDataValue
  | slaveDeviceFailure => .slaveDeviceFailure

def fromModbusError : ModbusError → SemanticFailure
  | .invalidAddress _ _ => illegalDataAddress
  | .invalidQuantity _ _ => illegalDataAddress
  | .invalidData _ => illegalDataValue
  | _ => slaveDeviceFailure

end SemanticFailure

open SemanticFailure

section

variable {Store : Type} (space : AddressSpace Store)

def onStore {Value : Type} (operation : Fallible Store Value) :
    Checked Store SemanticFailure Value :=
  mapErr .fromModbusError operation

def executeBuiltin : SemanticRequest → Checked Store SemanticFailure SemanticResponse
  | .readCoils address quantity => do
    let values ← onStore (space.readCoils address quantity)
    pure (.bits .readCoils values)
  | .readDiscreteInputs address quantity => do
    let values ← onStore (space.readDiscreteInputs address quantity)
    pure (.bits .readDiscreteInputs values)
  | .readHoldingRegisters address quantity => do
    let values ← onStore (space.readHoldingRegisters address quantity)
    pure (.registers .readHoldingRegisters values)
  | .readInputRegisters address quantity => do
    let values ← onStore (space.readInputRegisters address quantity)
    pure (.registers .readInputRegisters values)
  | .writeSingleCoil address value => do
    onStore (space.writeCoil address value)
    pure (.writeSingleCoilAck address value)
  | .writeSingleRegister address value => do
    onStore (space.writeHoldingRegister address value)
    pure (.writeSingleRegisterAck address value)
  | .writeMultipleCoils address values => do
    onStore (space.writeCoils address values)
    pure (.writeMultipleAck .writeMultipleCoils address (UInt16.ofNat values.length))
  | .writeMultipleRegisters address values => do
    onStore (space.writeHoldingRegisters address values)
    pure (.writeMultipleAck .writeMultipleRegisters address (UInt16.ofNat values.length))
  | .maskWriteRegister address andMask orMask => do
    onStore (space.maskWriteHoldingRegister address andMask orMask)
    pure (.maskWriteAck address andMask orMask)
  | .readWriteMultipleRegisters readAddress readQuantity writeAddress values => do
    onStore (space.writeHoldingRegisters writeAddress values)
    let registers ← onStore (space.readHoldingRegisters readAddress readQuantity)
    pure (.registers .readWriteMultipleRegisters registers)
  | .custom _ _ => fail .illegalFunction

end

abbrev ExtensionHandler (Store : Type) : Type := Bytes → Guarded Store Bytes

structure StandardModbusService (Store : Type) where
  customExtensions : Option (UInt8 → Option (ExtensionHandler Store))

namespace StandardModbusService

variable {Store : Type} (service : StandardModbusService Store) (space : AddressSpace Store)

def dispatchCustomRaw (functionCode : UInt8) (rawPdu : Bytes) : Guarded Store Bytes :=
  match service.customExtensions with
  | none => fail .illegalFunction
  | some extensions =>
    match extensions functionCode with
    | none => fail .illegalFunction
    | some handler => handler rawPdu

def executeUnicast (rawPdu : Bytes) : Guarded Store Bytes := do
  let semantic ← parseSemanticRequest rawPdu false
  let response ← mapErr exceptionCode (executeBuiltin space semantic)
  mapErr (fun _ => ExceptionCode.slaveDeviceFailure) response.encode

/-- `dispatch_request` for one target. -/
def dispatchRequest (rawPdu : Bytes) : Guarded Store Bytes :=
  match rawPdu.head? with
  | none => fail .illegalDataValue
  | some functionCode =>
    match tryFrom functionCode with
    | .error _ => service.dispatchCustomRaw functionCode rawPdu
    | .ok _ => executeUnicast space rawPdu

/-- No extension is registered for a code that is not built in, as with
`StandardModbusService::default()` and with the default handlers. -/
def BuiltinOnly : Prop :=
  ∀ extensions, service.customExtensions = some extensions →
    ∀ code error, tryFrom code = .error error → extensions code = none

def standard : StandardModbusService Store := ⟨none⟩

theorem standard_builtinOnly : (standard : StandardModbusService Store).BuiltinOnly := by
  intro extensions registered
  cases registered

end StandardModbusService

open StandardModbusService

section

variable {Store Value : Type} {operation : Fallible Store Value}
  {respond : Value → SemanticResponse} {store after : Store} {value : Value}

def reported (operation : Fallible Store Value) (respond : Value → SemanticResponse) :
    Guarded Store Bytes := do
  let response ← mapErr exceptionCode
    (onStore operation >>= fun value => pure (respond value))
  pure (responseBytes response)

theorem reported_ok (done : operation store = .ok value after) :
    reported operation respond store = .ok (responseBytes (respond value)) after := by
  have executed : (onStore operation >>= fun value => pure (respond value)) store =
      .ok (respond value) after := bind_ok (mapErr_ok _ _ _ done)
  rw [reported, bind_ok (mapErr_ok _ _ _ executed)]
  rfl

theorem reported_err {error : ModbusError} (failed : operation store = .err error after) :
    reported operation respond store = .err (fromModbusError error).exceptionCode after := by
  have executed : (onStore operation >>= fun value => pure (respond value)) store =
      .err (.fromModbusError error) after := bind_err (mapErr_err _ failed)
  exact bind_err (mapErr_err _ executed)

end

variable {request : SemanticRequest}

section

variable {Store : Type} {space : AddressSpace Store}

def answer (space : AddressSpace Store) (request : SemanticRequest) : Guarded Store Bytes := do
  let response ← mapErr exceptionCode (executeBuiltin space request)
  pure (responseBytes response)

section

variable {readAddress readQuantity writeAddress : UInt16} {values : List UInt16}
  {store after : Store}

theorem answer_readWrite_written
    (written : space.writeHoldingRegisters writeAddress values store = .ok () after) :
    answer space (.readWriteMultipleRegisters readAddress readQuantity writeAddress values) store =
      reported (space.readHoldingRegisters readAddress readQuantity)
        (.registers .readWriteMultipleRegisters) after := by
  have executed : executeBuiltin space
      (.readWriteMultipleRegisters readAddress readQuantity writeAddress values) store =
      (onStore (space.readHoldingRegisters readAddress readQuantity) >>= fun registers =>
        pure (.registers .readWriteMultipleRegisters registers)) after :=
    bind_ok (mapErr_ok _ _ _ written)
  show andThen (mapErr _ _) _ store = andThen (mapErr _ _) _ after
  rw [andThen, andThen, mapErr, mapErr, executed]

theorem answer_readWrite_refused {error : ModbusError}
    (failed : space.writeHoldingRegisters writeAddress values store = .err error after) :
    answer space (.readWriteMultipleRegisters readAddress readQuantity writeAddress values) store =
      .err (fromModbusError error).exceptionCode after := by
  have executed : executeBuiltin space
      (.readWriteMultipleRegisters readAddress readQuantity writeAddress values) store =
      .err (.fromModbusError error) after := bind_err (mapErr_err _ failed)
  exact bind_err (mapErr_err _ executed)

end

variable {service : StandardModbusService Store}

theorem dispatchRequest_eq (builtin : service.BuiltinOnly) (pdu : Bytes) :
    service.dispatchRequest space pdu = ofExcept (requestOf pdu) >>= answer space := by
  have parsed : executeUnicast space pdu = ofExcept (requestOf pdu) >>= answer space := by
    rw [executeUnicast, parseSemanticRequest_eq]
    congr 1
    funext request
    rw [answer]
    congr 1
    funext response
    rw [encode_eq]
    rfl
  cases pdu with
  | nil => rfl
  | cons code fields =>
    cases known : tryFrom code with
    | ok =>
      simp only [dispatchRequest, List.head?_cons, known]
      exact parsed
    | error error =>
      have refused : service.dispatchCustomRaw code (code :: fields) =
          (fail .illegalFunction : Guarded Store Bytes) := by
        rw [dispatchCustomRaw]
        cases registered : service.customExtensions with
        | none => rfl
        | some extensions => simp only [builtin extensions registered code error known]
      simp only [dispatchRequest, List.head?_cons, known, requestOf]
      exact refused

/-- Reads leave the store alone, and so do writes that fail. -/
structure AddressSpace.Orderly (space : AddressSpace Store) : Prop where
  readCoils : ∀ address quantity, ReadOnly (space.readCoils address quantity)
  writeCoil : ∀ address value, Transactional (space.writeCoil address value)
  writeCoils : ∀ address values, Transactional (space.writeCoils address values)
  readDiscreteInputs : ∀ address quantity, ReadOnly (space.readDiscreteInputs address quantity)
  readHoldingRegisters : ∀ address quantity, ReadOnly (space.readHoldingRegisters address quantity)
  writeHoldingRegister : ∀ address value, Transactional (space.writeHoldingRegister address value)
  writeHoldingRegisters : ∀ address values,
    Transactional (space.writeHoldingRegisters address values)
  readInputRegisters : ∀ address quantity, ReadOnly (space.readInputRegisters address quantity)
  maskWriteHoldingRegister : ∀ address andMask orMask,
    Transactional (space.maskWriteHoldingRegister address andMask orMask)

/-- A write whose read behind it fails. -/
def HalfDone (space : AddressSpace Store) (request : SemanticRequest) (store after : Store) :
    Prop :=
  ∃ readAddress readQuantity writeAddress values error,
    request = .readWriteMultipleRegisters readAddress readQuantity writeAddress values ∧
      space.writeHoldingRegisters writeAddress values store = .ok () after ∧
      space.readHoldingRegisters readAddress readQuantity after = .err error after

theorem forall_halfDone_iff (orderly : space.Orderly) {store written : Store}
    {readAddress readQuantity writeAddress : UInt16} {values : List UInt16}
    {allowed refused : Prop} {Holds : Store → Prop}
    (done : allowed → space.writeHoldingRegisters writeAddress values store = .ok () written)
    (only : ∀ after, space.writeHoldingRegisters writeAddress values store = .ok () after → allowed)
    (unread : (∃ error after, space.readHoldingRegisters readAddress readQuantity written =
      .err error after) ↔ refused) :
    (∀ after, HalfDone space (.readWriteMultipleRegisters readAddress readQuantity writeAddress
        values) store after → Holds after) ↔ (allowed → refused → Holds written) := by
  constructor
  · intro holds writable unreadable
    obtain ⟨error, after, failed⟩ := unread.mpr unreadable
    have same := (orderly.readHoldingRegisters _ _).transactional _ _ _ failed
    subst same
    exact holds after ⟨_, _, _, _, error, rfl, done writable, failed⟩
  · rintro holds after ⟨_, _, _, _, error, same, ran, failed⟩
    cases same
    have writable := only after ran
    cases (done writable).symm.trans ran
    exact holds writable (unread.mp ⟨error, _, failed⟩)

variable {store after : Store}

theorem executeBuiltin_err (orderly : space.Orderly)
    {failure : SemanticFailure} (failed : executeBuiltin space request store = .err failure after) :
    after = store ∨ HalfDone space request store after := by
  have acknowledged {Value : Type} {operation : Fallible Store Value}
      {respond : Value → SemanticResponse} (transactional : Transactional operation)
      (ended : (onStore operation >>= fun value => pure (respond value)) store =
        .err failure after) : after = store :=
    (transactional.mapErr _).bind_neverFails (fun _ => neverFails_pure _) store after failure ended
  cases request with
  | readCoils address quantity =>
    exact inl (acknowledged (orderly.readCoils address quantity).transactional failed)
  | readDiscreteInputs address quantity =>
    exact inl (acknowledged (orderly.readDiscreteInputs address quantity).transactional failed)
  | readHoldingRegisters address quantity =>
    exact inl (acknowledged (orderly.readHoldingRegisters address quantity).transactional failed)
  | readInputRegisters address quantity =>
    exact inl (acknowledged (orderly.readInputRegisters address quantity).transactional failed)
  | writeSingleCoil address value =>
    exact inl (acknowledged (orderly.writeCoil address value) failed)
  | writeSingleRegister address value =>
    exact inl (acknowledged (orderly.writeHoldingRegister address value) failed)
  | writeMultipleCoils address values =>
    exact inl (acknowledged (orderly.writeCoils address values) failed)
  | writeMultipleRegisters address values =>
    exact inl (acknowledged (orderly.writeHoldingRegisters address values) failed)
  | maskWriteRegister address andMask orMask =>
    exact inl (acknowledged (orderly.maskWriteHoldingRegister address andMask orMask) failed)
  | readWriteMultipleRegisters readAddress readQuantity writeAddress values =>
    rcases bind_eq_err failed with early | ⟨_, middle, written, late⟩
    · exact inl
        ((orderly.writeHoldingRegisters writeAddress values).mapErr _ store after failure early)
    · rcases bind_eq_err late with unread | ⟨_, _, _, impossible⟩
      · obtain ⟨error, ran, _⟩ := mapErr_eq_err unread
        have same := (orderly.readHoldingRegisters readAddress readQuantity).transactional
          middle after error ran
        subst same
        exact Or.inr ⟨readAddress, readQuantity, writeAddress, values, error, rfl,
          mapErr_eq_ok _ _ written, ran⟩
      · cases impossible
  | custom =>
    cases failed
    exact inl rfl

theorem answer_err (orderly : space.Orderly) {code : ExceptionCode}
    (failed : answer space request store = .err code after) :
    after = store ∨ HalfDone space request store after := by
  rcases bind_eq_err failed with early | ⟨_, _, _, impossible⟩
  · obtain ⟨failure, ran, _⟩ := mapErr_eq_err early
    exact executeBuiltin_err orderly ran
  · cases impossible

theorem HalfDone.answer_err (half : HalfDone space request store after) :
    ∃ code, answer space request store = .err code after := by
  obtain ⟨readAddress, readQuantity, writeAddress, values, error, rfl, written, unread⟩ := half
  refine ⟨(fromModbusError error).exceptionCode, ?_⟩
  rw [answer_readWrite_written written, reported_err unread]

/-- Exceptions leave a store alone exactly if combined requests whose read fails do. -/
theorem exceptions_keep_iff (builtin : service.BuiltinOnly) (orderly : space.Orderly)
    {Same : Store → Store → Prop} (refl : ∀ store, Same store store) (pdu : Bytes) (store : Store) :
    (∀ code after, service.dispatchRequest space pdu store = .err code after → Same store after) ↔
      ∀ request after, requestOf pdu = .ok request → HalfDone space request store after →
        Same store after := by
  rw [dispatchRequest_eq builtin]
  cases meant : requestOf pdu with
  | error =>
    refine iff_of_true ?_ (fun request after impossible => by cases impossible)
    intro other after failed
    cases failed
    exact refl store
  | ok request =>
    rw [ofExcept_ok, return_bind]
    constructor
    · intro keeps other after same half
      cases same
      obtain ⟨code, failed⟩ := half.answer_err
      exact keeps code after failed
    · intro keeps code after failed
      rcases Modbus.answer_err orderly failed with same | half
      · rw [same]
        exact refl store
      · exact keeps request after rfl half

end

/-! What the parser guarantees of a request. -/

/-- A quantity that is allowed, at addresses that exist. -/
def Spans (maximum : Nat) (address : UInt16) (quantity : Nat) : Prop :=
  0 < quantity ∧ quantity ≤ maximum ∧ address.toNat + quantity ≤ 65536

def SemanticRequest.Fits : SemanticRequest → Prop
  | readCoils address quantity | readDiscreteInputs address quantity =>
    Spans 2000 address quantity.toNat
  | readHoldingRegisters address quantity | readInputRegisters address quantity =>
    Spans 125 address quantity.toNat
  | writeMultipleCoils address values => Spans 1968 address values.length
  | writeMultipleRegisters address values => Spans 123 address values.length
  | readWriteMultipleRegisters readAddress readQuantity writeAddress values =>
    Spans 125 readAddress readQuantity.toNat ∧ Spans 121 writeAddress values.length
  | _ => True

variable {fields : Bytes}

theorem readRequest_fits {maximum : Nat} {make : UInt16 → UInt16 → SemanticRequest}
    (meant : readRequest checkSpan maximum make fields = .ok request) :
    ∃ address quantity, request = make address quantity ∧ Spans maximum address quantity.toNat := by
  obtain ⟨address, quantity, span, made⟩ := readRequest_ok meant
  exact ⟨address, quantity, made, checkSpan_ok span⟩

theorem multipleCoilsRequest_fits (meant : multipleCoilsRequest checkSpan fields = .ok request) :
    request.Fits := by
  obtain ⟨_, _, q0, q1, _, _, packed, _, span, _, rfl⟩ := multipleRequest_ok meant
  have length : (unpack packed (u16Of q0 q1).toNat).length = (u16Of q0 q1).toNat := by
    simp [unpack]
  rw [SemanticRequest.Fits, length]
  exact checkSpan_ok span

theorem length_words_countedData {quantity : Nat} {byteCount : UInt8} {data packed : Bytes}
    (counted : countedData (quantity * 2) byteCount data = .ok packed) :
    (words packed).length = quantity := by
  rw [length_words, length_countedData counted, Nat.mul_div_cancel _ Nat.two_pos]

theorem multipleRegistersRequest_fits
    (meant : multipleRegistersRequest checkSpan fields = .ok request) : request.Fits := by
  obtain ⟨_, _, _, _, _, _, _, _, span, counted, rfl⟩ := multipleRequest_ok meant
  rw [SemanticRequest.Fits, length_words_countedData counted]
  exact checkSpan_ok span

theorem readWriteRequest_fits (meant : readWriteRequest checkSpan fields = .ok request) :
    request.Fits := by
  obtain ⟨_, _, _, _, _, _, _, _, _, _, _, _, read, written, counted, rfl⟩ :=
    readWriteRequest_ok meant
  rw [SemanticRequest.Fits, length_words_countedData counted]
  exact ⟨checkSpan_ok read, checkSpan_ok written⟩

theorem requestOf_fits {pdu : Bytes} (meant : requestOf pdu = .ok request) : request.Fits := by
  cases pdu with
  | nil => cases meant
  | cons code =>
    rw [requestOf] at meant
    cases known : tryFrom code with
    | error =>
      rw [known] at meant
      cases meant
      trivial
    | ok function =>
      rw [known] at meant
      cases function with
      | readCoils | readDiscreteInputs | readHoldingRegisters | readInputRegisters =>
        obtain ⟨_, _, rfl, spans⟩ := readRequest_fits meant
        exact spans
      | writeSingleCoil =>
        obtain ⟨_, _, rfl⟩ := singleCoilRequest_ok meant
        trivial
      | writeSingleRegister =>
        obtain ⟨_, _, rfl⟩ := singleRegisterRequest_ok meant
        trivial
      | writeMultipleCoils => exact multipleCoilsRequest_fits meant
      | writeMultipleRegisters => exact multipleRegistersRequest_fits meant
      | maskWriteRegister =>
        obtain ⟨_, _, _, rfl⟩ := maskRequest_ok meant
        trivial
      | readWriteMultipleRegisters => exact readWriteRequest_fits meant

end Mabinogion.Modbus
