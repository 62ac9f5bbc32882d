import Mabinogion.Library.Interleaving
import Mabinogion.Modbus.ArrayModel
import Mabinogion.Modbus.RegisterStore
import Mathlib.Data.List.Permutation

/-!
# Concurrent mask writes

The dense store masks a register under its lock. The sparse store has the read and the write
of the default, and what another request wrote between them is lost.
-/

namespace Mabinogion.Modbus

open Checked Interleaving

structure MaskRequest where
  andMask : UInt16
  orMask : UInt16

/-- A request in front of its first operation or of its write. -/
inductive MaskWrite where
  | asked (request : MaskRequest)
  | masked (value : UInt16)

namespace AddressSpace

variable {Store Task : Type} (space : AddressSpace Store) (address : UInt16)

def maskWritten (store : Store) (request : MaskRequest) : Store :=
  (space.maskWriteHoldingRegister address request.andMask request.orMask store).final store

def lockedStep (request : MaskRequest) (store : Store) : Option MaskRequest × Store :=
  (none, space.maskWritten address store request)

def defaultStep : MaskWrite → Store → Option MaskWrite × Store
  | .asked request, store =>
    match space.readHoldingRegisters address 1 store with
    | .ok (current :: _) after =>
      (some (.masked (maskFormula current request.andMask request.orMask)), after)
    | outcome => (none, outcome.final store)
  | .masked value, store => (none, (space.writeHoldingRegister address value store).final store)

def value (store : Store) : Option (Except ModbusError (List UInt16)) :=
  (space.readHoldingRegisters address 1 store).returned

/-- The register has the value that it has after the requests in some order. -/
def Serializable (next : UInt16 → Task → Store → Option Task × Store)
    (task : MaskRequest → Task) (schedule : List (Nat × Nat)) : Prop :=
  ∀ (address : UInt16) (store : Store) (requests : List MaskRequest),
    (run (next address) schedule (requests.map task) store).1 = [] →
      ∃ order : List MaskRequest, order.Perm requests ∧
        space.value address (order.foldl (space.maskWritten address) store) =
          space.value address (run (next address) schedule (requests.map task) store).2

variable {space}

theorem serializable_of_ends {next : UInt16 → Task → Store → Option Task × Store}
    {task : MaskRequest → Task} {schedule : List (Nat × Nat)}
    (ends : ∀ address, ∀ entry ∈ schedule, ∀ request store,
      turn (next address) entry.2 (task request) store =
        (none, space.maskWritten address store request)) :
    space.Serializable next task schedule := by
  intro address store requests finished
  obtain ⟨order, perm, reached⟩ := run_serial (ends address) finished
  exact ⟨order, perm, congrArg _ reached⟩

end AddressSpace

inductive StoreKind where
  | dense
  | sparse

def StoreKind.MaskWritesAtomic (schedule : List (Nat × Nat)) : StoreKind → Prop
  | dense => RegisterStore.space.Serializable RegisterStore.space.lockedStep id schedule
  | sparse =>
    ∀ nanos, (SparseRegisterStore.space nanos).Serializable
      (SparseRegisterStore.space nanos).defaultStep .asked schedule

section

open SparseRegisterStore

def setFirst : MaskRequest := ⟨0xFFFE, 0x0001⟩

def setSecond : MaskRequest := ⟨0xFFFD, 0x0002⟩

theorem both_set (order : List MaskRequest) (perm : order.Perm [setFirst, setSecond]) :
    (space 0).value 0 (order.foldl ((space 0).maskWritten 0) (new everything false)) =
      some (.ok [0x0003]) := by
  obtain rfl | rfl := List.perm_pair.mp perm <;> rfl

/-- One request runs between the read and the write of another. -/
theorem enclosed_mask_is_lost : let asked := [setFirst, setSecond].map .asked
    let (left, final) :=
      run ((space 0).defaultStep 0) [(0, 0), (1, 1), (0, 0)] asked (new everything false)
    left = [] ∧ (space 0).value 0 final = some (.ok [0x0001]) ∧
      ∀ order : List MaskRequest, order.Perm [setFirst, setSecond] →
        (space 0).value 0 (order.foldl ((space 0).maskWritten 0) (new everything false)) =
          some (.ok [0x0003]) :=
  ⟨rfl, rfl, both_set⟩

theorem turn_defaultStep (nanos more : Nat) (address : UInt16) (request : MaskRequest)
    (store : SparseRegisterStore) :
    turn ((space nanos).defaultStep address) (more + 1) (.asked request) store =
      (none, (space nanos).maskWritten address store request) := by
  simp only [turn, AddressSpace.defaultStep, AddressSpace.maskWritten, space,
    AddressSpace.defaultMaskWrite]
  by_cases covers : (store.config.getRange .holdingRegister).Covers address 1
  · rw [readHolding_covered covers, bind_ok (readHolding_covered covers)]
    -- The write ends the turn, however many steps it has left.
    cases more with
    | zero | succ => rfl
  · obtain ⟨error, _, failed⟩ := @read_uncovered UInt16 .holdingRegister holdingRegisters
      (DefaultValue.getWord nanos) address 1 store covers
    rw [readHoldingRegisters, failed, bind_err failed]
    rfl

/-- Mask writes are atomic on the dense store, and on the sparse store where each turn has a read
and its write. -/
theorem mask_writes_atomic_iff (kind : StoreKind) :
    ((∀ schedule, kind.MaskWritesAtomic schedule) ↔ kind = .dense) ∧
      ∀ schedule, (∀ entry ∈ schedule, 1 ≤ entry.2) → kind.MaskWritesAtomic schedule := by
  cases kind with
  | dense =>
    have atomic (schedule : List (Nat × Nat)) : StoreKind.dense.MaskWritesAtomic schedule := by
      apply AddressSpace.serializable_of_ends
      intro _ entry _ _ _
      cases entry.2 with
      | zero | succ => rfl
    exact ⟨⟨fun _ => rfl, fun _ => atomic⟩, fun schedule _ => atomic schedule⟩
  | sparse =>
    refine ⟨⟨fun atomic => ?_, fun other => nomatch other⟩, ?_⟩
    · obtain ⟨order, perm, same⟩ := atomic [(0, 0), (1, 1), (0, 0)] 0 0 (new everything false)
        [setFirst, setSecond] rfl
      cases (both_set order perm).symm.trans same
    · intro schedule enough nanos
      apply AddressSpace.serializable_of_ends
      intro address entry listed request store
      rw [← Nat.sub_add_cancel (enough entry listed)]
      exact turn_defaultStep nanos _ address request store

end

end Mabinogion.Modbus
