import Mabinogion.Modbus.ArrayModel
import Mabinogion.Modbus.RegisterStore

/-!
# What an exception leaves behind

An exception leaves every value as it was, but for one request: a combined write
and read is executed as a write and then a read, so a read that is refused leaves
the write done. This is so for both stores.
-/

namespace Mabinogion.Modbus

open Checked Registers StandardModbusService ShardedRegisterMap SparseRegisterStore RegisterStore

namespace RegisterStore

def SameValues (before after : RegisterStore) : Prop :=
  before.coils.cells = after.coils.cells ∧
    before.discreteInputs.cells = after.discreteInputs.cells ∧
    before.holdingRegisters.cells = after.holdingRegisters.cells ∧
    before.inputRegisters.cells = after.inputRegisters.cells

/-- A combined request whose write is allowed and changes a value, and whose read is refused. -/
def ChangedThenRefused (store : RegisterStore) : SemanticRequest → Prop
  | .readWriteMultipleRegisters readAddress readQuantity writeAddress values =>
    Inside store.holdingRegisters.count writeAddress values.length ∧
      ¬Inside store.holdingRegisters.count readAddress readQuantity.toNat ∧
      ¬Overflows store.holdingRegisters.count readAddress readQuantity.toNat ∧
      ∃ index value, values[index]? = some value ∧
        store.holdingRegisters.cells[writeAddress.toNat + index]? ≠ some value
  | _ => False

theorem halfDone_keeps_iff {store : RegisterStore} {request : SemanticRequest}
    (fits : request.Fits) :
    (∀ after, HalfDone space request store after → SameValues store after) ↔
      ¬store.ChangedThenRefused request := by
  cases request with
  | readWriteMultipleRegisters readAddress readQuantity writeAddress values =>
    have short : values.length < 65536 := lt_of_le_of_lt fits.2.2.1 (by decide)
    have count := count_overlay store.holdingRegisters writeAddress.toNat values
    rw [forall_halfDone_iff orderly (writeHoldingRegisters_inside short)
      (fun _ => writeHoldingRegisters_ok short) readHoldingRegisters_err_iff, count]
    have same_iff (inside : Inside store.holdingRegisters.count writeAddress values.length) :=
      @overlay_cells_iff UInt16 store.holdingRegisters values writeAddress.toNat
        (store.holdingRegisters.sized ▸ inside.2)
    constructor
    · rintro keeps ⟨inside, outside, narrow, index, value, listed, differs⟩
      have same := keeps inside ⟨outside, narrow⟩
      exact differs ((same_iff inside).mp same.2.2.1.symm index value listed)
    · intro kept inside refused
      have unchanged := (same_iff inside).mpr fun index value listed =>
        Classical.not_not.mp fun differs =>
          kept ⟨inside, refused.1, refused.2, index, value, listed, differs⟩
      exact ⟨rfl, rfl, unchanged.symm, rfl⟩
  | _ =>
    refine iff_of_true ?_ id
    intro after half
    obtain ⟨_, _, _, _, _, impossible, _⟩ := half
    cases impossible

end RegisterStore

namespace SparseRegisterStore

def oneRegister : RegisterStoreConfig :=
  ⟨⟨⟨0, 0⟩, .zero⟩, ⟨⟨0, 0⟩, .zero⟩, ⟨⟨0, 0⟩, .zero⟩, ⟨⟨0, 0⟩, .zero⟩⟩

/-- Whatever the clock says, for the defaults that are drawn from it. -/
def SameValues (before after : SparseRegisterStore) : Prop :=
  ∀ nanos, contents nanos before = contents nanos after

def ChangedThenRefused (store : SparseRegisterStore) : SemanticRequest → Prop
  | .readWriteMultipleRegisters readAddress readQuantity writeAddress values =>
    (store.config.getRange .holdingRegister).Covers writeAddress values.length ∧
      ¬(store.config.getRange .holdingRegister).Covers readAddress readQuantity.toNat ∧
      ∃ nanos index value, values[index]? = some value ∧
        (contents nanos store).holdingRegisters (UInt16.ofNat (writeAddress.toNat + index)) ≠ value
  | _ => False

variable {store : SparseRegisterStore}

theorem sameValues_written_iff {address : UInt16}
    {values : List UInt16} (room : address.toNat + values.length ≤ 65536) :
    SameValues store (store.withHoldingRegisters
        (insertAll address.toNat values store.holdingRegisters)) ↔
      ∀ nanos index value, values[index]? = some value →
        (contents nanos store).holdingRegisters (UInt16.ofNat (address.toNat + index)) = value := by
  refine forall_congr' fun nanos => ?_
  rw [← RegisterBank.overlay_eq_self_iff room, contents_withHoldingRegisters room]
  constructor
  · intro same
    exact (congrArg RegisterBank.holdingRegisters same).symm
  · intro same
    rw [same]

theorem halfDone_keeps_iff (nanos : Nat) {request : SemanticRequest} (fits : request.Fits) :
    (∀ after, HalfDone (space nanos) request store after → SameValues store after) ↔
      ¬store.ChangedThenRefused request := by
  cases request with
  | readWriteMultipleRegisters readAddress readQuantity writeAddress values =>
    have short : values.length < 65536 := lt_of_le_of_lt fits.2.2.1 (by decide)
    have writable (after : SparseRegisterStore)
        (written : (space nanos).writeHoldingRegisters writeAddress values store = .ok () after) :
        (store.config.getRange .holdingRegister).Covers writeAddress values.length := by
      by_contra uncovered
      obtain ⟨_, _, failed⟩ := writeAll_uncovered short uncovered
      cases failed.symm.trans written
    rw [forall_halfDone_iff (orderly nanos) (writeAll_covered short) writable read_err_iff]
    constructor
    · rintro keeps ⟨covers, outside, other, index, value, listed, differs⟩
      have same := (sameValues_written_iff covers.small).mp (keeps covers outside)
      exact differs (same other index value listed)
    · intro kept covers outside
      refine (sameValues_written_iff covers.small).mpr ?_
      intro other index value listed
      exact Classical.not_not.mp fun differs =>
        kept ⟨covers, outside, other, index, value, listed, differs⟩
  | _ =>
    refine iff_of_true ?_ id
    intro after half
    obtain ⟨_, _, _, _, _, impossible, _⟩ := half
    cases impossible

end SparseRegisterStore

/-- An exception changes no value unless a combined request has already changed a register. -/
theorem exceptions_change_nothing_iff {dense : StandardModbusService RegisterStore}
    {sparse : StandardModbusService SparseRegisterStore} (denseBuiltin : dense.BuiltinOnly)
    (sparseBuiltin : sparse.BuiltinOnly) (pdu : Bytes) :
    (∀ store : RegisterStore,
      (∀ code after, dense.dispatchRequest space pdu store = .err code after →
          store.SameValues after) ↔
        ∀ request, requestOf pdu = .ok request → ¬store.ChangedThenRefused request) ∧
    ∀ (nanos : Nat) (store : SparseRegisterStore),
      (∀ code after, sparse.dispatchRequest (space nanos) pdu store =
          .err code after → store.SameValues after) ↔
        ∀ request, requestOf pdu = .ok request → ¬store.ChangedThenRefused request := by
  constructor
  · intro store
    rw [exceptions_keep_iff denseBuiltin orderly (fun _ => ⟨rfl, rfl, rfl, rfl⟩)]
    refine forall_congr' fun request => ?_
    rw [forall_comm]
    exact forall_congr' fun meant => halfDone_keeps_iff (requestOf_fits meant)
  · intro nanos store
    rw [exceptions_keep_iff sparseBuiltin (orderly nanos) (fun _ _ => rfl)]
    refine forall_congr' fun request => ?_
    rw [forall_comm]
    exact forall_congr' fun meant =>
      halfDone_keeps_iff nanos (requestOf_fits meant)

theorem refused_read_changes_nothing :
    (StandardModbusService.standard : StandardModbusService RegisterStore).BuiltinOnly ∧
      ∀ code after, StandardModbusService.standard.dispatchRequest space
          [0x03, 0x00, 0x05, 0x00, 0x01] (new 0 0 1 0) = .err code after →
        (new 0 0 1 0).SameValues after := by
  constructor
  · exact standard_builtinOnly
  · apply ((exceptions_change_nothing_iff standard_builtinOnly standard_builtinOnly _).1 _).mpr
    intro request meant
    cases meant
    exact id

/-- The write is done before the read is refused. -/
theorem refused_read_after_a_write :
    (∃ code after, StandardModbusService.standard.dispatchRequest space
        [0x17, 0x00, 0x05, 0x00, 0x01, 0x00, 0x00, 0x00, 0x01, 0x02, 0x00, 0x07]
        (new 0 0 1 0) = .err code after ∧ ¬(new 0 0 1 0).SameValues after) ∧
      ∃ code after, StandardModbusService.standard.dispatchRequest (space 0)
        [0x17, 0x00, 0x05, 0x00, 0x01, 0x00, 0x00, 0x00, 0x01, 0x02, 0x00, 0x07]
        (new oneRegister false) = .err code after ∧ ¬(new oneRegister false).SameValues after := by
  constructor
  · refine ⟨.illegalDataAddress, _, rfl, ?_⟩
    intro same
    exact absurd same.2.2.1 (by decide)
  · refine ⟨.illegalDataAddress, _, rfl, ?_⟩
    intro same
    exact absurd (congrArg (fun bank => bank.holdingRegisters 0) (same 0)) (by decide +kernel)

end Mabinogion.Modbus
