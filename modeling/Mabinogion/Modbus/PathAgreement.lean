import Mabinogion.Modbus.ArrayModel
import Mabinogion.Modbus.Handlers
import Mabinogion.Modbus.RtuFrame

/-!
# The handlers and the service

A PDU with no bytes behind its fields is handled as the service executes it, but the handlers
leave the end of the address space to the store, which is asked for the read of a combined
request after the write.
-/

namespace Mabinogion.Modbus

open Checked ByteCursor SemanticFailure ShardedRegisterMap HandlerRegistry StandardModbusService
open AddressSpace

section

variable {Store : Type} {space : AddressSpace Store} {unit : UInt8}

theorem dispatch_eq (counted : space.Counted) (unicast : unit ≠ 0) {function : FunctionCode}
    {fields : Bytes}
    (whole : (function.toU8 :: fields).length ≤
      announcedLength function (function.toU8 :: fields)) :
    withDefaults.dispatch (function.toU8 :: fields) ⟨unit, space⟩ =
      ofExcept (handledRequest function fields) >>= handled space := by
  rw [dispatch_withDefaults unicast]
  cases function with
  | readCoils =>
    exact @handleReadBits_eq .readCoils .readCoils Store space unit .coil _
      readCoils counted.readCoils (fun _ _ => handled_eq _ _) rfl fields
  | readDiscreteInputs =>
    exact @handleReadBits_eq .readDiscreteInputs .readDiscreteInputs Store space unit .discreteInput
      _
      readDiscreteInputs counted.readDiscreteInputs (fun _ _ => handled_eq _ _) rfl fields
  | readHoldingRegisters =>
    exact @handleReadRegisters_eq .readHoldingRegisters .readHoldingRegisters Store space unit
      .holdingRegister _
      readHoldingRegisters counted.readHoldingRegisters (fun _ _ => handled_eq _ _) rfl fields
  | readInputRegisters =>
    exact @handleReadRegisters_eq .readInputRegisters .readInputRegisters Store space unit
      .inputRegister _
      readInputRegisters counted.readInputRegisters (fun _ _ => handled_eq _ _) rfl fields
  | writeSingleCoil => exact handleWriteSingleCoil_eq (Nat.le_of_succ_le_succ whole)
  | writeSingleRegister => exact handleWriteSingleRegister_eq (Nat.le_of_succ_le_succ whole)
  | writeMultipleCoils => exact handleWriteMultipleCoils_eq _ fields
  | writeMultipleRegisters => exact handleWriteMultipleRegisters_eq _ fields
  | maskWriteRegister => exact handleMaskWriteRegister_eq (Nat.le_of_succ_le_succ whole)
  | readWriteMultipleRegisters =>
    exact handleReadWriteMultipleRegisters_eq counted.readHoldingRegisters _ fields

end

/-- The same reply and the same store, or two exceptions and the same store. -/
def Agree {Store : Type} :
    Outcome Store ExceptionCode Bytes → Outcome Store ExceptionCode Bytes → Prop
  | .ok bytes after, .ok others afterwards => bytes = others ∧ after = afterwards
  | .err _ after, .err _ afterwards => after = afterwards
  | _, _ => False

section

variable {Store : Type} {space : AddressSpace Store} {function : FunctionCode}
  {fields : Bytes} {request : SemanticRequest}

theorem requestOf_toU8 (function : FunctionCode) (fields : Bytes) :
    requestOf (function.toU8 :: fields) = requestFor checkSpan function fields := by
  rw [requestOf, FunctionCode.tryFrom_toU8]

theorem requestFor_refused
    (refused : ∀ request, handledRequest function fields = .ok request → ¬request.InSpan) :
    ∃ code, requestFor checkSpan function fields = .error code := by
  cases meant : requestFor checkSpan function fields with
  | error code => exact ⟨code, rfl⟩
  | ok request =>
    obtain ⟨understood, inside⟩ := requestFor_ok_iff.mp meant
    exact absurd inside (refused request understood)

/-- A list of values that a request has carried. -/
def SemanticRequest.Short : SemanticRequest → Prop
  | writeMultipleCoils _ values => values.length < 65536
  | writeMultipleRegisters _ values => values.length < 65536
  | readWriteMultipleRegisters _ _ _ values => values.length < 65536
  | _ => True

theorem handledRequest_short (understood : handledRequest function fields = .ok request) :
    request.Short := by
  cases function with
  | readCoils | readDiscreteInputs | readHoldingRegisters | readInputRegisters =>
    obtain ⟨_, _, _, rfl⟩ := readRequest_ok understood
    trivial
  | writeMultipleCoils =>
    rw [handledRequest, requestFor] at understood
    obtain ⟨_, _, _, _, _, _, _, _, _, _, rfl⟩ := multipleRequest_ok understood
    rw [SemanticRequest.Short, length_unpack]
    exact UInt16.toNat_lt _
  | writeMultipleRegisters =>
    rw [handledRequest, requestFor] at understood
    obtain ⟨_, _, _, _, _, _, _, _, _, counted, rfl⟩ := multipleRequest_ok understood
    rw [SemanticRequest.Short, length_words_countedData counted]
    exact UInt16.toNat_lt _
  | readWriteMultipleRegisters =>
    obtain ⟨_, _, _, _, _, _, _, _, _, _, _, _, _, _, counted, rfl⟩ :=
      readWriteRequest_ok understood
    rw [SemanticRequest.Short, length_words_countedData counted]
    exact UInt16.toNat_lt _
  | writeSingleCoil =>
    obtain ⟨_, _, rfl⟩ := singleCoilRequest_ok understood
    trivial
  | writeSingleRegister =>
    obtain ⟨_, _, rfl⟩ := singleRegisterRequest_ok understood
    trivial
  | maskWriteRegister =>
    obtain ⟨_, _, _, rfl⟩ := maskRequest_ok understood
    trivial

theorem agree_executed {store : Store}
    (returns : ∀ fault, answer space request store ≠ .fault fault) :
    Agree (handled space request store) (answer space request store) := by
  rw [answer, handled] at *
  cases ran : executeBuiltin space request store with
  | ok =>
    rw [bind_ok (mapErr_ok _ _ _ ran), bind_ok (mapErr_ok _ _ _ ran)]
    exact ⟨rfl, rfl⟩
  | err failure after =>
    rw [bind_err (mapErr_err _ ran), bind_err (mapErr_err _ ran)]
    exact rfl
  | fault fault =>
    have faulted : mapErr exceptionCode (executeBuiltin space request) store = .fault fault := by
      rw [mapErr, ran]
    exact absurd (bind_fault faulted) (returns fault)

theorem handled_refused {Value : Type} {operation : Fallible Store Value}
    {next : Value → Guarded Store Bytes} {store : Store}
    (refused : ∃ error, fromModbusError error = .illegalDataAddress ∧
      operation store = .err error store) :
    (onRegisters operation >>= next) store = .err .illegalDataAddress store := by
  obtain ⟨error, _, failed⟩ := refused
  exact bind_err (mapErr_err _ failed)

end

namespace SparseRegisterStore

theorem length_window {Cell : Type} (map : ShardedRegisterMap Cell) (default : Cell)
    (address : UInt16) (quantity : Nat) :
    (window map default address quantity).length = quantity := by
  simp [window]

theorem read_counted {Cell : Type} {kind : RegisterType}
    {view : SparseRegisterStore → ShardedRegisterMap Cell} {draw : DefaultValue → Cell} :
    Counts (read kind view draw) := by
  intro address quantity store values after returned
  by_cases covers : (store.config.getRange kind).Covers address quantity.toNat
  · rw [read_covered covers] at returned
    cases returned
    exact length_window _ _ _ _
  · obtain ⟨error, _, failed⟩ :=
      @read_uncovered Cell kind view draw address quantity store covers
    rw [failed] at returned
    cases returned

theorem counted (nanos : Nat) : (space nanos).Counted where
  readCoils := read_counted
  readDiscreteInputs := read_counted
  readHoldingRegisters := read_counted
  readInputRegisters := read_counted

/-- The combined requests that only the service refuses before their write. -/
def DivergesOn (store : SparseRegisterStore) : SemanticRequest → Prop
  | .readWriteMultipleRegisters readAddress readQuantity writeAddress values =>
    65536 < readAddress.toNat + readQuantity.toNat ∧
      (store.config.getRange .holdingRegister).Covers writeAddress values.length ∧
      ∃ index value, values[index]? = some value ∧
        store.holdingRegisters.cellAt (writeAddress.toNat + index) ≠ some value
  | _ => False

section

variable {nanos : Nat} {store : SparseRegisterStore} {request : SemanticRequest}

theorem uncovered_of_beyond {range : AddressRange} {address : UInt16} {quantity : Nat}
    (beyond : ¬address.toNat + quantity ≤ 65536) : ¬range.Covers address quantity :=
  fun covers => beyond covers.small

theorem withHoldingRegisters_eq_self_iff (map : ShardedRegisterMap UInt16)
    (store : SparseRegisterStore) :
    store.withHoldingRegisters map = store ↔ map = store.holdingRegisters := by
  constructor
  · intro same
    exact congrArg holdingRegisters same
  · rintro rfl
    rfl

theorem agree_readWrite_beyond {readAddress readQuantity writeAddress : UInt16}
    {values : List UInt16} {code : ExceptionCode} (short : values.length < 65536)
    (beyond : ¬(SemanticRequest.readWriteMultipleRegisters readAddress readQuantity writeAddress
      values).InSpan) :
    Agree (handled (space nanos)
        (.readWriteMultipleRegisters readAddress readQuantity writeAddress values) store)
      (.err code store) ↔
        ¬store.DivergesOn (.readWriteMultipleRegisters readAddress readQuantity writeAddress
          values) := by
  rw [handled_readWrite]
  by_cases covers : (store.config.getRange .holdingRegister).Covers writeAddress values.length
  · have far : ¬readAddress.toNat + readQuantity.toNat ≤ 65536 := fun near =>
      beyond ⟨near, covers.small⟩
    have written : onRegisters ((space nanos).writeHoldingRegisters writeAddress values) store =
        .ok () (store.withHoldingRegisters (insertAll writeAddress.toNat values
          store.holdingRegisters)) :=
      mapErr_ok _ _ _ (writeAll_covered short covers)
    have unread : ∃ error, fromModbusError error = .illegalDataAddress ∧
        (space nanos).readHoldingRegisters readAddress readQuantity
            (store.withHoldingRegisters (insertAll writeAddress.toNat values
              store.holdingRegisters)) =
          .err error (store.withHoldingRegisters (insertAll writeAddress.toNat
            values store.holdingRegisters)) := read_uncovered (uncovered_of_beyond far)
    rw [bind_ok written, handled_refused unread]
    have same := (withHoldingRegisters_eq_self_iff _ store).trans
      (insertAll_eq_self_iff covers.small store.holdingRegisters)
    refine same.trans ?_
    constructor
    · intro there diverges
      obtain ⟨_, _, index, value, listed, differs⟩ := diverges
      exact differs (there index value listed)
    · intro agrees index value listed
      exact Classical.not_not.mp fun differs =>
        agrees ⟨Nat.not_le.mp far, covers, index, value, listed, differs⟩
  · have unwritten : ∃ error, fromModbusError error = .illegalDataAddress ∧
        (space nanos).writeHoldingRegisters writeAddress values store = .err error store :=
      writeAll_uncovered short covers
    rw [handled_refused unwritten]
    exact iff_of_true rfl fun diverges => covers diverges.2.1

theorem agree_beyond {code : ExceptionCode} (short : request.Short) (beyond : ¬request.InSpan) :
    Agree (handled (space nanos) request store) (.err code store) ↔ ¬store.DivergesOn request := by
  have refused {Value : Type} {operation : Fallible SparseRegisterStore Value}
      {respond : Value → SemanticResponse}
      (fails : ∃ error, fromModbusError error = .illegalDataAddress ∧
        operation store = .err error store)
      (carried : handled (space nanos) request =
        onRegisters operation >>= fun value => pure (responseBytes (respond value)))
      (never : ¬store.DivergesOn request) :
      Agree (handled (space nanos) request store) (.err code store) ↔
        ¬store.DivergesOn request := by
    rw [carried, handled_refused fails]
    exact iff_of_true rfl never
  cases request with
  | readCoils | readDiscreteInputs | readHoldingRegisters | readInputRegisters =>
    exact refused (read_uncovered (uncovered_of_beyond beyond)) (handled_eq _ _) id
  | writeMultipleCoils | writeMultipleRegisters =>
    exact refused (writeAll_uncovered short (uncovered_of_beyond beyond)) (handled_eq _ _) id
  | readWriteMultipleRegisters =>
    exact agree_readWrite_beyond short beyond
  | _ => exact absurd trivial beyond

theorem not_divergesOn_of_inSpan (inside : request.InSpan) : ¬store.DivergesOn request := by
  intro diverges
  cases request with
  | readWriteMultipleRegisters =>
    exact absurd inside.1 (Nat.not_le.mpr diverges.1)
  | _ => exact diverges

/-- They agree unless the request is a combined one that reads beyond the address space and whose
write would change a cell. -/
theorem paths_agree_iff {service : StandardModbusService SparseRegisterStore}
    (builtin : service.BuiltinOnly) {unit : UInt8} (unicast : unit ≠ 0) (nanos : Nat)
    (store : SparseRegisterStore) (function : FunctionCode) (fields : Bytes)
    (whole : (function.toU8 :: fields).length ≤
      announcedLength function (function.toU8 :: fields)) :
    Agree (withDefaults.dispatch (function.toU8 :: fields) ⟨unit, space nanos⟩ store)
        (service.dispatchRequest (space nanos) (function.toU8 :: fields) store) ↔
      ∀ request, handledRequest function fields = .ok request → ¬store.DivergesOn request := by
  rw [dispatch_eq (counted nanos) unicast whole, dispatchRequest_eq builtin, requestOf_toU8]
  cases understood : handledRequest function fields with
  | error =>
    obtain ⟨other, refused⟩ := @requestFor_refused function fields fun request possible => by
      rw [understood] at possible
      cases possible
    rw [refused]
    refine iff_of_true rfl ?_
    intro request impossible
    cases impossible
  | ok request =>
    have only : (∀ other, Except.ok request = (Except.ok other : Except ExceptionCode _) →
        ¬store.DivergesOn other) ↔ ¬store.DivergesOn request := by
      constructor
      · intro every
        exact every request rfl
      · intro agrees other same
        cases same
        exact agrees
    rw [only, ofExcept_ok, return_bind]
    by_cases inside : request.InSpan
    · have meant := requestFor_ok_iff.mpr ⟨understood, inside⟩
      rw [meant, ofExcept_ok, return_bind]
      refine iff_of_true (agree_executed ?_) (not_divergesOn_of_inSpan inside)
      intro fault faulted
      have fits := @requestOf_fits request (function.toU8 :: fields)
        (by rw [requestOf_toU8]; exact meant)
      obtain ⟨after, answered, _⟩ := answer_refines nanos store fits
      rw [answered] at faulted
      cases reply : (RegisterBank.respond store.config.getRange (contents nanos store)
        request).1 with
      | ok bytes =>
        rw [reply] at faulted
        cases faulted
      | error code =>
        rw [reply] at faulted
        cases faulted
    · obtain ⟨code, refused⟩ := @requestFor_refused function fields fun other possible => by
        rw [understood] at possible
        cases possible
        exact inside
      rw [refused]
      exact agree_beyond (handledRequest_short understood) inside

theorem paths_agree_on_a_write : Agree
      (withDefaults.dispatch [0x06, 0x00, 0x01, 0x00, 0x07] ⟨1, space 0⟩ (new everything false))
      (standard.dispatchRequest (space 0) [0x06, 0x00, 0x01, 0x00, 0x07]
        (new everything false)) := by
  refine (paths_agree_iff standard_builtinOnly (by decide) 0
    (new everything false) .writeSingleRegister [0x00, 0x01, 0x00, 0x07] (by decide)).mpr ?_
  intro request understood
  cases understood
  exact id

/-- Seven is written to register zero by the handler only; both refuse to read two registers from
the last address on. -/
theorem paths_differ_beyond_the_end : ¬Agree (withDefaults.dispatch
        [0x17, 0xFF, 0xFF, 0x00, 0x02, 0x00, 0x00, 0x00, 0x01, 0x02, 0x00, 0x07] ⟨1, space 0⟩
        (new everything false))
      (standard.dispatchRequest (space 0)
        [0x17, 0xFF, 0xFF, 0x00, 0x02, 0x00, 0x00, 0x00, 0x01, 0x02, 0x00, 0x07]
        (new everything false)) := by
  intro agrees
  exact absurd (congrArg (fun store => store.holdingRegisters.cell 0) (agrees : _ = _))
    (by decide +kernel)

end

end SparseRegisterStore

end Mabinogion.Modbus
