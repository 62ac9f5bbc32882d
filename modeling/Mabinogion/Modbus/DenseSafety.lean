import Mabinogion.Modbus.RegisterStore

/-!
# Requests to a dense store

A request to a dense store panics exactly where the range check overflows: at a table of size
zero, and at a range that ends behind the last of the 65536 addresses.
-/

namespace Mabinogion.Modbus

open Checked Registers StandardModbusService

namespace RegisterStore

/-- The read of a combined request is only reached behind a write that is allowed. -/
def Overflowing (store : RegisterStore) : SemanticRequest → Prop
  | .readCoils address quantity => Overflows store.coils.count address quantity.toNat
  | .readDiscreteInputs address quantity =>
    Overflows store.discreteInputs.count address quantity.toNat
  | .readHoldingRegisters address quantity =>
    Overflows store.holdingRegisters.count address quantity.toNat
  | .readInputRegisters address quantity =>
    Overflows store.inputRegisters.count address quantity.toNat
  | .writeSingleCoil address _ => Overflows store.coils.count address 1
  | .writeSingleRegister address _ => Overflows store.holdingRegisters.count address 1
  | .writeMultipleCoils address values => Overflows store.coils.count address values.length
  | .writeMultipleRegisters address values =>
    Overflows store.holdingRegisters.count address values.length
  | .maskWriteRegister address _ _ => Overflows store.holdingRegisters.count address 1
  | .readWriteMultipleRegisters readAddress readQuantity writeAddress values =>
    Overflows store.holdingRegisters.count writeAddress values.length ∨
      Inside store.holdingRegisters.count writeAddress values.length ∧
        Overflows store.holdingRegisters.count readAddress readQuantity.toNat
  | .custom _ _ => False

section

variable {store : RegisterStore}

theorem safe_modify {Store Error : Type} (change : Store → Store) :
    Safe (modify change : Checked Store Error Unit) := by
  rintro state ⟨fault, faulted⟩
  cases faulted

theorem faults_onStore_bind {Value : Type} {operation : Fallible RegisterStore Value}
    {respond : Value → SemanticResponse} :
    Faults (onStore operation >>= fun value => pure (respond value)) store ↔
      Faults operation store := by
  rw [faults_bind_safe fun _ => safe_pure _, onStore, faults_mapErr]

theorem faults_update {Cell : Type} {view : RegisterStore → Registers Cell}
    {compute : Registers Cell → Fallible RegisterStore (Registers Cell)}
    {update : Registers Cell → RegisterStore → RegisterStore} :
    Faults (gets view >>= fun registers =>
        compute registers >>= fun written => modify (update written)) store ↔
      Faults (compute (view store)) store := by
  rw [faults_gets_bind, faults_bind_safe fun _ => safe_modify _]

end

theorem faults_readWrite {store : RegisterStore} {readAddress readQuantity writeAddress : UInt16}
    {values : List UInt16} (short : values.length < 65536) :
    Faults (executeBuiltin space
        (.readWriteMultipleRegisters readAddress readQuantity writeAddress values)) store ↔
      store.Overflowing
        (.readWriteMultipleRegisters readAddress readQuantity writeAddress values) := by
  have write : Faults (onStore (space.writeHoldingRegisters writeAddress values)) store ↔
      Overflows store.holdingRegisters.count writeAddress values.length := by
    rw [onStore, faults_mapErr]
    exact faults_update.trans (faults_writeAll short store)
  have read (after : RegisterStore) :
      Faults (onStore (space.readHoldingRegisters readAddress readQuantity) >>= fun registers =>
        pure (SemanticResponse.registers .readWriteMultipleRegisters registers)) after ↔
      Overflows after.holdingRegisters.count readAddress readQuantity.toNat := by
    rw [faults_onStore_bind]
    exact faults_gets_bind.trans (faults_read after)
  rw [executeBuiltin, faults_bind, write]
  apply or_congr_right
  constructor
  · rintro ⟨_, after, written, faulted⟩
    have ran := mapErr_eq_ok _ _ written
    have inside := writeHoldingRegisters_ok short ran
    have same := (writeHoldingRegisters_inside short inside).symm.trans ran
    cases same
    rw [read, count_overlay] at faulted
    exact ⟨inside, faulted⟩
  · rintro ⟨inside, overflows⟩
    refine ⟨(), _, mapErr_ok _ _ _ (writeHoldingRegisters_inside short inside), ?_⟩
    rw [read, count_overlay]
    exact overflows

theorem faults_executeBuiltin {store : RegisterStore} {request : SemanticRequest}
    (fits : request.Fits) :
    Faults (executeBuiltin space request) store ↔ store.Overflowing request := by
  cases request with
  | readCoils | readDiscreteInputs | readHoldingRegisters | readInputRegisters =>
    exact faults_onStore_bind.trans (faults_gets_bind.trans (faults_read store))
  | writeSingleCoil address value | writeSingleRegister address value =>
    exact faults_onStore_bind.trans (faults_update.trans (faults_write value store))
  | writeMultipleCoils address values | writeMultipleRegisters address values =>
    have short : values.length < 65536 := lt_of_le_of_lt fits.2.1 (by decide)
    exact faults_onStore_bind.trans (faults_update.trans (faults_writeAll short store))
  | maskWriteRegister =>
    exact faults_onStore_bind.trans (faults_update.trans (faults_maskWrite store))
  | readWriteMultipleRegisters readAddress readQuantity writeAddress values =>
    have short : values.length < 65536 := lt_of_le_of_lt fits.2.2.1 (by decide)
    exact faults_readWrite short
  | custom => exact iff_of_false (safe_fail _ store) id

/-- A request is answered exactly if the range check of none of its ranges overflows. -/
theorem request_returns_iff (service : StandardModbusService RegisterStore)
    (builtin : service.BuiltinOnly) (store : RegisterStore) (pdu : Bytes) :
    ¬Faults (service.dispatchRequest space pdu) store ↔
      ∀ request, requestOf pdu = .ok request → ¬store.Overflowing request := by
  rw [dispatchRequest_eq builtin]
  cases meant : requestOf pdu with
  | error code =>
    rw [ofExcept_error, fail_bind]
    exact iff_of_true (safe_fail code store) (fun request same => by cases same)
  | ok request =>
    have executed : Faults (answer space request) store ↔ store.Overflowing request := by
      rw [answer, faults_bind_safe fun _ => safe_pure _, faults_mapErr,
        faults_executeBuiltin (requestOf_fits meant)]
    rw [ofExcept_ok, return_bind, executed]
    constructor
    · intro safe other same
      cases same
      exact safe
    · intro all
      exact all request rfl

/-- The last two of the largest table. -/
theorem request_returns_at_the_end : ¬Faults (standard.dispatchRequest space [3, 0xFF, 0xFD, 0, 2])
      (RegisterStore.new 0 0 65535 0) := by
  refine (request_returns_iff _ standard_builtinOnly _ _).mpr ?_
  intro request meant
  cases meant
  show ¬Overflows 65535 0xFFFD 2
  decide

/-- An empty table, and a span up to the last address. -/
theorem requests_fault : Faults (standard.dispatchRequest space [1, 0, 0, 0, 1])
        (RegisterStore.new 0 0 0 0) ∧
      Faults (standard.dispatchRequest space [3, 0xFF, 0xFE, 0, 2])
        (RegisterStore.new 10 10 65535 10) := by
  refine ⟨⟨.underflow, ?_⟩, ⟨.overflow, ?_⟩⟩
  · rfl
  · rfl

end RegisterStore

end Mabinogion.Modbus
