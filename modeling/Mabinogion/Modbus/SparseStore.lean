import Mabinogion.Modbus.Service
import Mabinogion.Modbus.ShardedMap

/-!
# The sparse register store

A configured range of addresses and a default for each kind of registers. What
has not been written reads as the default, which may be drawn from the clock.
-/

namespace Mabinogion.Modbus

open Checked ShardedRegisterMap UInt16 SemanticFailure

/-- The addresses from the first to the last, both included. -/
structure AddressRange where
  start : UInt16
  stop : UInt16

inductive AddressRangeError where
  | zeroQuantity
  | overflow
  | belowMinimum (address minimum : UInt16)
  | aboveMaximum (address maximum : UInt16)

namespace AddressRange

variable (range : AddressRange)

def validate (start count : UInt16) : Except AddressRangeError Unit :=
  if count = 0 then .error .zeroQuantity
  else
    let last := start.toNat + (count.toNat - 1)
    if 65536 ≤ last then .error .overflow
    else if start < range.start then .error (.belowMinimum start range.start)
    else if UInt16.ofNat last > range.stop then
      .error (.aboveMaximum (UInt16.ofNat last) range.stop)
    else .ok ()

def modbusError (address : UInt16) : AddressRangeError → ModbusError
  | .zeroQuantity => .invalidQuantity 0 1
  | .overflow => .invalidAddress address 65535
  | .belowMinimum wrong _ => .invalidAddress wrong range.stop
  | .aboveMaximum wrong _ => .invalidAddress wrong range.stop

def check (address quantity : UInt16) : Except ModbusError Unit :=
  match range.validate address quantity with
  | .ok _ => .ok ()
  | .error error => .error (range.modbusError address error)

end AddressRange

inductive DefaultValue where
  | zero
  | value (word : UInt16)
  | random
  | randomRange (min max : UInt16)

namespace DefaultValue

variable (nanos : Nat)

def randBool : Bool := nanos % 2 == 0

def randU16 : UInt16 := UInt16.ofNat (nanos % 65536)

def randRange (min max : UInt16) : UInt16 :=
  if min ≥ max then min
  else
    let range := (max.toNat - min.toNat) + 1
    min + UInt16.ofNat ((randU16 nanos).toNat % range)

def getBool : DefaultValue → Bool
  | zero => false
  | value word => word != 0
  | random => randBool nanos
  | randomRange _ _ => randBool nanos

def getWord : DefaultValue → UInt16
  | zero => 0
  | value word => word
  | random => randU16 nanos
  | randomRange min max => randRange nanos min max

/-- A default that is not drawn from the clock. -/
def Fixed : DefaultValue → Prop
  | zero => True
  | value _ => True
  | random => False
  | randomRange _ _ => False

theorem Fixed.getBool_eq {default : DefaultValue} (fixed : default.Fixed) (first second : Nat) :
    default.getBool first = default.getBool second := by
  cases default with
  | zero | value => rfl
  | random | randomRange => exact fixed.elim

theorem Fixed.getWord_eq {default : DefaultValue} (fixed : default.Fixed) (first second : Nat) :
    default.getWord first = default.getWord second := by
  cases default with
  | zero | value => rfl
  | random | randomRange => exact fixed.elim

end DefaultValue

structure RegisterRangeConfig where
  range : AddressRange
  defaultValue : DefaultValue

structure RegisterStoreConfig where
  coils : RegisterRangeConfig
  discreteInputs : RegisterRangeConfig
  holdingRegisters : RegisterRangeConfig
  inputRegisters : RegisterRangeConfig

namespace RegisterStoreConfig

variable (config : RegisterStoreConfig)

def getRangeConfig : RegisterType → RegisterRangeConfig
  | .coil => config.coils
  | .discreteInput => config.discreteInputs
  | .holdingRegister => config.holdingRegisters
  | .inputRegister => config.inputRegisters

def getRange (kind : RegisterType) : AddressRange :=
  (config.getRangeConfig kind).range

def FixedDefaults : Prop :=
  ∀ kind, (config.getRangeConfig kind).defaultValue.Fixed

end RegisterStoreConfig

structure SparseRegisterStore where
  config : RegisterStoreConfig
  coils : ShardedRegisterMap Bool
  discreteInputs : ShardedRegisterMap Bool
  holdingRegisters : ShardedRegisterMap UInt16
  inputRegisters : ShardedRegisterMap UInt16
  hasWriteCallbacks : Bool

namespace SparseRegisterStore

def new (config : RegisterStoreConfig) (hasWriteCallbacks : Bool) : SparseRegisterStore :=
  ⟨config, .new, .new, .new, .new, hasWriteCallbacks⟩

def validate (kind : RegisterType) (address quantity : UInt16) :
    Fallible SparseRegisterStore Unit := do
  let range ← gets fun store => store.config.getRange kind
  ofExcept (range.check address quantity)

section

variable {Cell : Type} [Inhabited Cell] (kind : RegisterType)
  (view : SparseRegisterStore → ShardedRegisterMap Cell)
  (update : ShardedRegisterMap Cell → SparseRegisterStore → SparseRegisterStore)

/-- The reads differ in the kind of registers and in how the default is drawn. -/
def read (draw : DefaultValue → Cell) (address quantity : UInt16) :
    Fallible SparseRegisterStore (List Cell) := do
  validate kind address quantity
  let default ← gets fun store => draw (store.config.getRangeConfig kind).defaultValue
  let map ← gets view
  if quantity = 1 then pure [map.readOne address default]
  else map.readRange address quantity default

/-- A write callback is told of the insertion, which is the same without one. -/
def write (address : UInt16) (value : Cell) : Fallible SparseRegisterStore Unit := do
  validate kind address 1
  let map ← gets view
  modify (update (map.insert address value).2)

/-- The loop of a store with write callbacks. -/
def insertEach (address : UInt16) : Nat → List Cell → ShardedRegisterMap Cell →
    Fallible SparseRegisterStore (ShardedRegisterMap Cell)
  | _, [], map => pure map
  | offset, value :: values, map => do
    let place ← checkedAdd 65536 address.toNat (offset % 65536)
    insertEach address (offset + 1) values (map.insert (UInt16.ofNat place) value).2

def writeCells (callbacks : Bool) (address : UInt16) (values : List Cell)
    (map : ShardedRegisterMap Cell) :
    Fallible SparseRegisterStore (ShardedRegisterMap Cell) :=
  if callbacks then insertEach address 0 values map else map.writeRange address values

def writeAll (address : UInt16) (values : List Cell) : Fallible SparseRegisterStore Unit := do
  validate kind address (UInt16.ofNat values.length)
  let callbacks ← gets hasWriteCallbacks
  let map ← gets view
  let written ← writeCells callbacks address values map
  modify (update written)

end

variable (nanos : Nat)

def withCoils (map : ShardedRegisterMap Bool) (store : SparseRegisterStore) :
    SparseRegisterStore := { store with coils := map }

def withHoldingRegisters (map : ShardedRegisterMap UInt16) (store : SparseRegisterStore) :
    SparseRegisterStore := { store with holdingRegisters := map }

variable (address quantity : UInt16)

def readCoils : Fallible SparseRegisterStore (List Bool) :=
  read .coil coils (DefaultValue.getBool nanos) address quantity

def writeCoil (address : UInt16) (value : Bool) : Fallible SparseRegisterStore Unit :=
  write .coil coils withCoils address value

def writeCoils (address : UInt16) (values : List Bool) : Fallible SparseRegisterStore Unit :=
  writeAll .coil coils withCoils address values

def readDiscreteInputs : Fallible SparseRegisterStore (List Bool) :=
  read .discreteInput discreteInputs (DefaultValue.getBool nanos) address quantity

def readHoldingRegisters : Fallible SparseRegisterStore (List UInt16) :=
  read .holdingRegister holdingRegisters (DefaultValue.getWord nanos) address quantity

def writeHoldingRegister (address value : UInt16) : Fallible SparseRegisterStore Unit :=
  write .holdingRegister holdingRegisters withHoldingRegisters address value

def writeHoldingRegisters (address : UInt16) (values : List UInt16) :
    Fallible SparseRegisterStore Unit :=
  writeAll .holdingRegister holdingRegisters withHoldingRegisters address values

def readInputRegisters : Fallible SparseRegisterStore (List UInt16) :=
  read .inputRegister inputRegisters (DefaultValue.getWord nanos) address quantity

/-- The operations at a reading of the clock, from which random defaults are drawn. -/
def space : AddressSpace SparseRegisterStore where
  readCoils := readCoils nanos
  writeCoil
  writeCoils
  readDiscreteInputs := readDiscreteInputs nanos
  readHoldingRegisters := readHoldingRegisters nanos
  writeHoldingRegister
  writeHoldingRegisters
  readInputRegisters := readInputRegisters nanos
  maskWriteHoldingRegister :=
    AddressSpace.defaultMaskWrite (readHoldingRegisters nanos) writeHoldingRegister

end SparseRegisterStore

/-- A range of addresses that may be read and written. -/
def AddressRange.Covers (range : AddressRange) (address : UInt16) (quantity : Nat) : Prop :=
  0 < quantity ∧ range.start ≤ address ∧ address.toNat + quantity ≤ range.stop.toNat + 1

instance (range : AddressRange) (address : UInt16) (quantity : Nat) :
    Decidable (range.Covers address quantity) :=
  inferInstanceAs (Decidable (_ ∧ _))

namespace AddressRange

variable {range : AddressRange} {address quantity : UInt16}

theorem Covers.small {quantity : Nat} (covers : range.Covers address quantity) :
    address.toNat + quantity ≤ 65536 := by
  have room := covers.2.2
  have bound := range.stop.toNat_lt
  omega

theorem validate_covered (covers : range.Covers address quantity.toNat) :
    range.validate address quantity = .ok () := by
  obtain ⟨some, first, room⟩ := covers
  have bound := range.stop.toNat_lt
  have filled : quantity ≠ 0 := by
    rintro rfl
    simp at some
  have narrow : ¬65536 ≤ address.toNat + (quantity.toNat - 1) := by omega
  have last : (UInt16.ofNat (address.toNat + (quantity.toNat - 1))).toNat =
      address.toNat + (quantity.toNat - 1) := toNat_ofNat_of_lt' (Nat.not_le.mp narrow)
  have within : ¬UInt16.ofNat (address.toNat + (quantity.toNat - 1)) > range.stop := by
    rw [gt_iff_lt, lt_iff_toNat_lt, last]
    omega
  rw [validate, if_neg filled, if_neg narrow, if_neg (UInt16.not_lt.mpr first), if_neg within]

theorem validate_uncovered (uncovered : ¬range.Covers address quantity.toNat) :
    ∃ error, range.validate address quantity = .error error := by
  cases result : range.validate address quantity with
  | error error => exact ⟨error, rfl⟩
  | ok =>
    unfold validate at result
    dsimp only at result
    split_ifs at result with empty wide below above
    have some : 0 < quantity.toNat := by
      apply Nat.pos_of_ne_zero
      intro zero
      exact empty (UInt16.toNat_inj.mp zero)
    have last : (UInt16.ofNat (address.toNat + (quantity.toNat - 1))).toNat =
        address.toNat + (quantity.toNat - 1) := toNat_ofNat_of_lt' (Nat.not_le.mp wide)
    rw [gt_iff_lt, lt_iff_toNat_lt, last] at above
    exact absurd ⟨some, UInt16.not_lt.mp below, by omega⟩ uncovered

theorem check_uncovered (uncovered : ¬range.Covers address quantity.toNat) :
    ∃ error, fromModbusError error = .illegalDataAddress ∧ range.check address quantity =
      .error error := by
  obtain ⟨error, failed⟩ := validate_uncovered uncovered
  refine ⟨range.modbusError address error, ?_, ?_⟩
  · cases error <;> rfl
  · rw [check, failed]

end AddressRange

namespace SparseRegisterStore

section

variable {Cell : Type} {kind : RegisterType}
  {view : SparseRegisterStore → ShardedRegisterMap Cell}
  {update : ShardedRegisterMap Cell → SparseRegisterStore → SparseRegisterStore}
  {draw : DefaultValue → Cell} {address quantity : UInt16} {values : List Cell}
  {store : SparseRegisterStore}

/-- The value of each cell of a range, the default where nothing has been written. -/
def window (map : ShardedRegisterMap Cell) (default : Cell) (address : UInt16) (quantity : Nat) :
    List Cell :=
  (List.range quantity).map fun index => (map.cellAt (address.toNat + index)).getD default

theorem validate_apply (kind : RegisterType) (address quantity : UInt16)
    (store : SparseRegisterStore) :
    validate kind address quantity store =
      ofExcept ((store.config.getRange kind).check address quantity) store := rfl

theorem validate_covered (covers : (store.config.getRange kind).Covers address quantity.toNat) :
    validate kind address quantity store = .ok () store := by
  rw [validate_apply, AddressRange.check, AddressRange.validate_covered covers]
  rfl

theorem validate_uncovered {Value : Type}
    (uncovered : ¬(store.config.getRange kind).Covers address quantity.toNat)
    (next : Unit → Fallible SparseRegisterStore Value) :
    ∃ error, fromModbusError error = .illegalDataAddress ∧
      (validate kind address quantity >>= next) store = .err error store := by
  obtain ⟨error, address, failed⟩ := AddressRange.check_uncovered uncovered
  refine ⟨error, address, bind_err ?_⟩
  rw [validate_apply, failed]
  rfl

theorem read_covered (covers : (store.config.getRange kind).Covers address quantity.toNat) :
    read kind view draw address quantity store =
      .ok (window (view store) (draw (store.config.getRangeConfig kind).defaultValue) address
        quantity.toNat) store := by
  rw [read, bind_ok (validate_covered covers), bind_ok (gets_apply store _),
    bind_ok (gets_apply store view)]
  by_cases single : quantity = 1
  · have first : (view store).cellAt (address.toNat + 0) = (view store).cell address := by
      rw [cellAt, Nat.add_zero, UInt16.ofNat_toNat]
    have one : (1 : UInt16).toNat = 1 := rfl
    rw [if_pos single, single, window, one, List.range_one, List.map_singleton, first]
    rfl
  · rw [if_neg single, readRange_eq _ _ covers.small]
    rfl

theorem read_uncovered (uncovered : ¬(store.config.getRange kind).Covers address quantity.toNat) :
    ∃ error, fromModbusError error =
      .illegalDataAddress ∧ read kind view draw address quantity store = .err error store :=
  validate_uncovered uncovered _

theorem read_err_iff :
    (∃ error after, read kind view draw address quantity store = .err error after) ↔
      ¬(store.config.getRange kind).Covers address quantity.toNat := by
  constructor
  · rintro ⟨error, after, failed⟩ covers
    cases (read_covered covers).symm.trans failed
  · intro uncovered
    obtain ⟨error, _, failed⟩ := read_uncovered uncovered
    exact ⟨error, store, failed⟩

variable [Inhabited Cell]

theorem write_covered (value : Cell) (covers : (store.config.getRange kind).Covers address 1) :
    write kind view update address value store =
      .ok () (update (insertAll address.toNat [value] (view store)) store) := by
  have one : (store.config.getRange kind).Covers address (1 : UInt16).toNat := covers
  have place : UInt16.ofNat address.toNat = address := UInt16.ofNat_toNat
  rw [write, bind_ok (validate_covered one), bind_ok (gets_apply store view), insertAll, place]
  rfl

theorem write_uncovered (value : Cell)
    (uncovered : ¬(store.config.getRange kind).Covers address 1) :
    ∃ error, fromModbusError error =
      .illegalDataAddress ∧ write kind view update address value store = .err error store :=
  @validate_uncovered kind address 1 store Unit uncovered _

theorem insertEach_eq (address : UInt16) (offset : Nat) (values : List Cell)
    (map : ShardedRegisterMap Cell) (small : address.toNat + (offset + values.length) ≤ 65536) :
    insertEach address offset values map =
      pure (insertAll (address.toNat + offset) values map) := by
  induction values generalizing offset map with
  | nil => rfl
  | cons value values ih =>
    rw [List.length_cons] at small
    have short : offset % 65536 = offset := Nat.mod_eq_of_lt (by omega)
    have fits : address.toNat + offset < 65536 := by omega
    rw [insertEach, short, checkedAdd, if_pos fits, return_bind, ih _ _ (by omega)]
    rfl

theorem writeCells_eq (callbacks : Bool) (map : ShardedRegisterMap Cell)
    (small : address.toNat + values.length ≤ 65536) :
    writeCells callbacks address values map = pure (insertAll address.toNat values map) := by
  cases callbacks with
  | true =>
    have each := insertEach_eq address 0 values map (by omega)
    exact each
  | false => exact writeRange_eq map small

theorem writeAll_covered (short : values.length < 65536)
    (covers : (store.config.getRange kind).Covers address values.length) :
    writeAll kind view update address values store =
      .ok () (update (insertAll address.toNat values (view store)) store) := by
  have length : (UInt16.ofNat values.length).toNat = values.length :=
    toNat_ofNat_of_lt' short
  have checked := @validate_covered kind address (UInt16.ofNat values.length) store
    (length.symm ▸ covers)
  rw [writeAll, bind_ok checked, bind_ok (gets_apply store hasWriteCallbacks),
    bind_ok (gets_apply store view), writeCells_eq _ _ covers.small]
  rfl

theorem writeAll_uncovered (short : values.length < 65536)
    (uncovered : ¬(store.config.getRange kind).Covers address values.length) :
    ∃ error, fromModbusError error = .illegalDataAddress ∧
      writeAll kind view update address values store = .err error store := by
  have length : (UInt16.ofNat values.length).toNat = values.length :=
    toNat_ofNat_of_lt' short
  exact @validate_uncovered kind address (UInt16.ofNat values.length) store Unit
    (length.symm ▸ uncovered) _

end

section

variable {nanos : Nat} {address andMask orMask : UInt16} {store : SparseRegisterStore}

def holding (nanos : Nat) (store : SparseRegisterStore) (address : UInt16) : UInt16 :=
  (store.holdingRegisters.cell address).getD
    (store.config.holdingRegisters.defaultValue.getWord nanos)

theorem readHolding_covered (covers : (store.config.getRange .holdingRegister).Covers address 1) :
    readHoldingRegisters nanos address 1 store = .ok [store.holding nanos address] store := by
  have one : (1 : UInt16).toNat = 1 := rfl
  have cell : store.holdingRegisters.cellAt (address.toNat + 0) =
      store.holdingRegisters.cell address := by
    rw [cellAt, Nat.add_zero, UInt16.ofNat_toNat]
  have result := @read_covered UInt16 .holdingRegister holdingRegisters
    (DefaultValue.getWord nanos) address 1 store covers
  rw [window, one, List.range_one, List.map_singleton, cell] at result
  exact result

theorem maskWrite_covered (covers : (store.config.getRange .holdingRegister).Covers address 1) :
    (space nanos).maskWriteHoldingRegister address andMask orMask store =
      .ok () (store.withHoldingRegisters (insertAll address.toNat
        [maskFormula (store.holding nanos address) andMask orMask] store.holdingRegisters)) := by
  show (readHoldingRegisters nanos address 1 >>= _) store = _
  rw [bind_ok (readHolding_covered covers)]
  exact write_covered _ covers

theorem maskWrite_uncovered
    (uncovered : ¬(store.config.getRange .holdingRegister).Covers address 1) :
    ∃ error, fromModbusError error =
      .illegalDataAddress ∧ (space nanos).maskWriteHoldingRegister address andMask orMask store =
      .err error store := by
  obtain ⟨error, wrong, failed⟩ := @read_uncovered UInt16 .holdingRegister holdingRegisters
    (DefaultValue.getWord nanos) address 1 store uncovered
  exact ⟨error, wrong, bind_err failed⟩

end

section

variable {Cell : Type} [Inhabited Cell] {kind : RegisterType}
  {view : SparseRegisterStore → ShardedRegisterMap Cell}
  {update : ShardedRegisterMap Cell → SparseRegisterStore → SparseRegisterStore}

theorem readOnly_validate (kind : RegisterType) (address quantity : UInt16) :
    ReadOnly (validate kind address quantity) :=
  .bind (.gets _) fun _ => .ofExcept _

omit [Inhabited Cell] in
theorem readOnly_read (draw : DefaultValue → Cell) (address quantity : UInt16) :
    ReadOnly (read kind view draw address quantity) :=
  .bind (readOnly_validate _ _ _) fun _ => .bind (.gets _) fun _ => .bind (.gets _) fun _ =>
    .ite (.pure _) (readOnly_readRange _ _ _ _)

theorem transactional_write (address : UInt16) (value : Cell) :
    Transactional (write kind view update address value) :=
  (readOnly_validate _ _ _).bind_transactional fun _ =>
    (ReadOnly.gets _).bind_transactional fun _ => (neverFails_modify _).transactional

theorem readOnly_insertEach (address : UInt16) (offset : Nat) (values : List Cell)
    (map : ShardedRegisterMap Cell) : ReadOnly (insertEach address offset values map) := by
  induction values generalizing offset map with
  | nil => exact .pure _
  | cons value values ih => exact .bind (.checkedAdd _ _ _) fun _ => ih _ _

theorem transactional_writeAll (address : UInt16) (values : List Cell) :
    Transactional (writeAll kind view update address values) :=
  (readOnly_validate _ _ _).bind_transactional fun _ =>
    (ReadOnly.gets _).bind_transactional fun _ => (ReadOnly.gets _).bind_transactional fun _ =>
      (ReadOnly.ite (readOnly_insertEach _ _ _ _)
        (readOnly_writeRange _ _ _)).bind_transactional fun _ =>
          (neverFails_modify _).transactional

theorem orderly (nanos : Nat) : (space nanos).Orderly where
  readCoils _ _ := readOnly_read _ _ _
  writeCoil _ _ := transactional_write _ _
  writeCoils _ _ := transactional_writeAll _ _
  readDiscreteInputs _ _ := readOnly_read _ _ _
  readHoldingRegisters _ _ := readOnly_read _ _ _
  writeHoldingRegister _ _ := transactional_write _ _
  writeHoldingRegisters _ _ := transactional_writeAll _ _
  readInputRegisters _ _ := readOnly_read _ _ _
  maskWriteHoldingRegister _ _ _ :=
    (readOnly_read _ _ _).bind_transactional fun _ =>
      (ReadOnly.checkedIndex _ _).bind_transactional fun _ => transactional_write _ _

end

end SparseRegisterStore

end Mabinogion.Modbus
