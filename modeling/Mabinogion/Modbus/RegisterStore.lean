import Mabinogion.Modbus.Service

/-!
# The dense register store

One array of cells for each kind of registers. The range check computes in sixteen bits, where
a size of zero and a range up to the last address overflow.
-/

namespace Mabinogion.Modbus

open Checked UInt16

structure Registers (Cell : Type) where
  count : UInt16
  cells : List Cell
  sized : cells.length = count.toNat

structure RegisterStore where
  coils : Registers Bool
  discreteInputs : Registers Bool
  holdingRegisters : Registers UInt16
  inputRegisters : Registers UInt16

namespace Registers

variable {Cell State : Type}

def new (count : UInt16) (value : Cell) : Registers Cell :=
  ⟨count, List.replicate count.toNat value, List.length_replicate⟩

section

variable (registers : Registers Cell)

def set (index : Nat) (value : Cell) : Registers Cell :=
  ⟨registers.count, registers.cells.set index value, List.length_set.trans registers.sized⟩

def put (index : Nat) (value : Cell) : Fallible State (Registers Cell) :=
  if index < registers.cells.length then pure (registers.set index value)
  else raise .indexOutOfRange

/-- A sum is only made for a quantity that is not zero. -/
def exceeds (max address quantity : UInt16) : Fallible State Bool :=
  if quantity = 0 then pure true
  else do
    let stop ← checkedAdd 65536 address.toNat quantity.toNat
    pure (stop > max.toNat)

def validate (max address quantity : UInt16) : Fallible State Unit :=
  if address ≥ max then do
    let last ← checkedSub max.toNat 1
    fail (.invalidAddress address (UInt16.ofNat last))
  else do
    let beyond ← exceeds max address quantity
    failIf beyond (.invalidQuantity quantity (max - address))

def read (address quantity : UInt16) : Fallible State (List Cell) := do
  validate registers.count address quantity
  checkedSlice registers.cells address.toNat (address.toNat + quantity.toNat)

def write (address : UInt16) (value : Cell) : Fallible State (Registers Cell) := do
  validate registers.count address 1
  registers.put address.toNat value

def putAll : Nat → List Cell → Registers Cell → Fallible State (Registers Cell)
  | _, [], registers => pure registers
  | index, value :: values, registers => do
    let written ← registers.put index value
    putAll (index + 1) values written

def writeAll (address : UInt16) (values : List Cell) : Fallible State (Registers Cell) := do
  validate registers.count address (UInt16.ofNat values.length)
  registers.putAll address.toNat values

end

def maskWrite (registers : Registers UInt16) (address andMask orMask : UInt16) :
    Fallible State (Registers UInt16) := do
  validate registers.count address 1
  let current ← checkedIndex registers.cells address.toNat
  registers.put address.toNat (maskFormula current andMask orMask)

end Registers

open Registers

namespace RegisterStore

def new (coils discreteInputs holdingRegisters inputRegisters : UInt16) : RegisterStore :=
  ⟨.new coils false, .new discreteInputs false, .new holdingRegisters 0, .new inputRegisters 0⟩

section

variable (address quantity : UInt16)

def readCoils : Fallible RegisterStore (List Bool) := do
  let registers ← gets coils
  registers.read address quantity

def writeCoil (address : UInt16) (value : Bool) : Fallible RegisterStore Unit := do
  let registers ← gets coils
  let written ← registers.write address value
  modify fun store => { store with coils := written }

def writeCoils (address : UInt16) (values : List Bool) : Fallible RegisterStore Unit := do
  let registers ← gets coils
  let written ← registers.writeAll address values
  modify fun store => { store with coils := written }

def readDiscreteInputs : Fallible RegisterStore (List Bool) := do
  let registers ← gets discreteInputs
  registers.read address quantity

def readHoldingRegisters : Fallible RegisterStore (List UInt16) := do
  let registers ← gets holdingRegisters
  registers.read address quantity

def writeHoldingRegister (address value : UInt16) : Fallible RegisterStore Unit := do
  let registers ← gets holdingRegisters
  let written ← registers.write address value
  modify fun store => { store with holdingRegisters := written }

def writeHoldingRegisters (address : UInt16) (values : List UInt16) :
    Fallible RegisterStore Unit := do
  let registers ← gets holdingRegisters
  let written ← registers.writeAll address values
  modify fun store => { store with holdingRegisters := written }

def readInputRegisters : Fallible RegisterStore (List UInt16) := do
  let registers ← gets inputRegisters
  registers.read address quantity

end

def maskWriteHoldingRegister (address andMask orMask : UInt16) : Fallible RegisterStore Unit := do
  let registers ← gets holdingRegisters
  let written ← registers.maskWrite address andMask orMask
  modify fun store => { store with holdingRegisters := written }

def space : AddressSpace RegisterStore where
  readCoils
  writeCoil
  writeCoils
  readDiscreteInputs
  readHoldingRegisters
  writeHoldingRegister
  writeHoldingRegisters
  readInputRegisters
  maskWriteHoldingRegister

end RegisterStore

namespace Registers

/-- The range check overflows: there is no cell to be the last one, or the sum does not fit. -/
def Overflows (max address : UInt16) (quantity : Nat) : Prop :=
  max = 0 ∨ address < max ∧ 65536 ≤ address.toNat + quantity

def Inside (max address : UInt16) (quantity : Nat) : Prop :=
  0 < quantity ∧ address.toNat + quantity ≤ max.toNat

instance (max address : UInt16) (quantity : Nat) : Decidable (Overflows max address quantity) :=
  inferInstanceAs (Decidable (_ ∨ _))

instance (max address : UInt16) (quantity : Nat) : Decidable (Inside max address quantity) :=
  inferInstanceAs (Decidable (_ ∧ _))

theorem not_overflows_of_inside {max address : UInt16} {quantity : Nat}
    (inside : Inside max address quantity) : ¬Overflows max address quantity := by
  have bound := max.toNat_lt
  rintro (empty | ⟨_, wide⟩)
  · rw [empty] at inside
    have room := inside.2
    have some := inside.1
    simp at room
    omega
  · have room := inside.2
    omega

section

variable {Cell State : Type} {max address quantity : UInt16}

theorem exceeds_eq (narrow : address.toNat + quantity.toNat < 65536) :
    (exceeds max address quantity : Fallible State Bool) =
      pure (decide (quantity = 0 ∨ max.toNat < address.toNat + quantity.toNat)) := by
  unfold exceeds
  by_cases empty : quantity = 0
  · simp [empty]
  · simp [empty, checkedAdd, narrow, return_bind]

theorem validate_inside (inside : Inside max address quantity.toNat) :
    (validate max address quantity : Fallible State Unit) = pure () := by
  obtain ⟨some, room⟩ := inside
  have bound := max.toNat_lt
  have below : ¬address ≥ max := by
    rw [ge_iff_le, le_iff_toNat_le]
    omega
  have filled : quantity ≠ 0 := by
    rintro rfl
    simp at some
  have within : ¬max.toNat < address.toNat + quantity.toNat := not_lt.mpr room
  rw [validate, if_neg below, exceeds_eq (by omega), return_bind]
  simp [filled, within, failIf_false]

theorem validate_overflows (overflows : Overflows max address quantity.toNat) :
    ∃ fault, (validate max address quantity : Fallible State Unit) = raise fault := by
  rcases overflows with rfl | ⟨below, wide⟩
  · have all : address ≥ 0 := by
      rw [ge_iff_le, le_iff_toNat_le]
      exact Nat.zero_le _
    refine ⟨.underflow, ?_⟩
    rw [validate, if_pos all]
    rfl
  · have filled : quantity ≠ 0 := by
      rintro rfl
      have bound := address.toNat_lt
      simp at wide
      omega
    refine ⟨.overflow, ?_⟩
    rw [validate, if_neg (UInt16.not_le.mpr below), exceeds, if_neg filled, checkedAdd,
      if_neg (not_lt.mpr wide)]
    rfl

theorem validate_outside (fits : ¬Overflows max address quantity.toNat)
    (outside : ¬Inside max address quantity.toNat) :
    ∃ error, SemanticFailure.fromModbusError error = .illegalDataAddress ∧
      (validate max address quantity : Fallible State Unit) = fail error := by
  by_cases below : address < max
  · have narrow : address.toNat + quantity.toNat < 65536 := by
      by_contra wide
      exact fits (Or.inr ⟨below, not_lt.mp wide⟩)
    have beyond : quantity = 0 ∨ max.toNat < address.toNat + quantity.toNat := by
      by_cases empty : quantity = 0
      · exact Or.inl empty
      · have some : 0 < quantity.toNat := by
          apply Nat.pos_of_ne_zero
          intro zero
          exact empty (UInt16.toNat_inj.mp zero)
        exact Or.inr (not_le.mp fun room => outside ⟨some, room⟩)
    refine ⟨.invalidQuantity quantity (max - address), rfl, ?_⟩
    rw [validate, if_neg (UInt16.not_le.mpr below), exceeds_eq narrow, return_bind,
      decide_eq_true beyond, failIf_true]
  · have some : 1 ≤ max.toNat := by
      apply Nat.pos_of_ne_zero
      intro zero
      exact fits (Or.inl (UInt16.toNat_inj.mp zero))
    refine ⟨.invalidAddress address (ofNat (max.toNat - 1)), rfl, ?_⟩
    rw [validate, if_pos (UInt16.not_lt.mp below), checkedSub, if_pos some]
    rfl

end

section

variable {Cell State : Type} {registers : Registers Cell} {address quantity : UInt16}
  {values : List Cell}

theorem read_inside (inside : Inside registers.count address quantity.toNat) (state : State) :
    registers.read address quantity state =
      .ok ((registers.cells.take (address.toNat + quantity.toNat)).drop address.toNat) state := by
  rw [read, validate_inside inside, return_bind,
    checkedSlice_ok state (Nat.le_add_right _ _) (registers.sized ▸ inside.2)]

variable {index : Nat}

theorem put_inside (inside : index < registers.count.toNat) (value : Cell) :
    (registers.put index value : Fallible State (Registers Cell)) =
      pure (registers.set index value) := by
  rw [put, if_pos (registers.sized ▸ inside)]

def overlay (registers : Registers Cell) : Nat → List Cell → Registers Cell
  | _, [] => registers
  | index, value :: values => overlay (registers.set index value) (index + 1) values

theorem count_overlay (registers : Registers Cell) (index : Nat) (values : List Cell) :
    (registers.overlay index values).count = registers.count := by
  induction values generalizing registers index with
  | nil => rfl
  | cons value values ih => exact (ih _ _).trans rfl

theorem getElem?_overlay (inside : index + values.length ≤ registers.cells.length) (place : Nat) :
    (registers.overlay index values).cells[place]? =
      if index ≤ place ∧ place < index + values.length then values[place - index]?
      else registers.cells[place]? := by
  induction values generalizing registers index with
  | nil =>
    have nowhere : ¬(index ≤ place ∧ place < index + ([] : List Cell).length) := by simp
    rw [overlay, if_neg nowhere]
  | cons value values ih =>
    rw [List.length_cons] at inside ⊢
    have room : index + 1 + values.length ≤ (registers.set index value).cells.length := by
      show index + 1 + values.length ≤ (registers.cells.set index value).length
      rw [List.length_set]
      omega
    have cells : (registers.set index value).cells = registers.cells.set index value := rfl
    rw [overlay, ih room, cells]
    rcases lt_trichotomy place index with before | here | behind
    · rw [if_neg (by omega), if_neg (by omega), List.getElem?_set_ne (by omega)]
    · subst here
      rw [if_neg (by omega), if_pos (by omega), List.getElem?_set_self (by omega), Nat.sub_self,
        List.getElem?_cons_zero]
    · have offset : place - index = place - (index + 1) + 1 := by omega
      by_cases written : place < index + (values.length + 1)
      · rw [if_pos (by omega), if_pos (by omega), offset, List.getElem?_cons_succ]
      · rw [if_neg (by omega), if_neg (by omega), List.getElem?_set_ne (by omega)]

theorem overlay_cells_iff (inside : index + values.length ≤ registers.cells.length) :
    (registers.overlay index values).cells = registers.cells ↔
      ∀ place value, values[place]? = some value → registers.cells[index + place]? = some value := by
  constructor
  · intro same place value listed
    have short : place < values.length := (List.getElem?_eq_some_iff.mp listed).1
    rw [← same, getElem?_overlay inside, if_pos (by omega), Nat.add_sub_cancel_left, listed]
  · intro held
    apply List.ext_getElem?
    intro place
    rw [getElem?_overlay inside]
    by_cases written : index ≤ place ∧ place < index + values.length
    · have short : place - index < values.length := by omega
      have listed := List.getElem?_eq_getElem short
      have cell := held _ _ listed
      rw [Nat.add_sub_cancel' written.1] at cell
      rw [if_pos written, listed, cell]
    · rw [if_neg written]

theorem putAll_inside (inside : index + values.length ≤ registers.count.toNat) :
    (registers.putAll index values : Fallible State (Registers Cell)) =
      pure (registers.overlay index values) := by
  induction values generalizing registers index with
  | nil => rfl
  | cons value values ih =>
    rw [List.length_cons] at inside
    have later : index + 1 + values.length ≤ (registers.set index value).count.toNat := by
      show index + 1 + values.length ≤ registers.count.toNat
      omega
    rw [putAll, put_inside (by omega), return_bind, ih later]
    rfl

theorem writeAll_inside (short : values.length < 65536)
    (inside : Inside registers.count address values.length) :
    (registers.writeAll address values : Fallible State (Registers Cell)) =
      pure (registers.overlay address.toNat values) := by
  have length : (ofNat values.length).toNat = values.length :=
    toNat_ofNat_of_lt' short
  rw [writeAll, validate_inside (length.symm ▸ inside), return_bind, putAll_inside inside.2]

theorem faults_validate_bind {Value : Type} {max address quantity : UInt16} {state : State}
    {next : Unit → Fallible State Value}
    (safe : Inside max address quantity.toNat → ¬Faults (next ()) state) :
    Faults (validate max address quantity >>= next) state ↔
      Overflows max address quantity.toNat := by
  by_cases inside : Inside max address quantity.toNat
  · rw [validate_inside inside, return_bind]
    exact iff_of_false (safe inside) (not_overflows_of_inside inside)
  · by_cases overflows : Overflows max address quantity.toNat
    · obtain ⟨fault, raised⟩ := validate_overflows overflows
      rw [raised]
      exact iff_of_true ⟨fault, rfl⟩ overflows
    · obtain ⟨error, _, failed⟩ := validate_outside overflows inside
      rw [failed, fail_bind]
      exact iff_of_false (safe_fail error state) overflows

theorem faults_read (state : State) : Faults (registers.read address quantity) state ↔
      Overflows registers.count address quantity.toNat := by
  refine faults_validate_bind fun inside => ?_
  rintro ⟨fault, faulted⟩
  rw [checkedSlice_ok state (Nat.le_add_right _ _) (registers.sized ▸ inside.2)] at faulted
  cases faulted

theorem index_lt_of_inside {max : UInt16}
    (inside : Inside max address (1 : UInt16).toNat) : address.toNat < max.toNat := by
  have room := inside.2
  simp at room
  omega

theorem faults_write (value : Cell) (state : State) :
    Faults (registers.write address value) state ↔ Overflows registers.count address 1 := by
  refine faults_validate_bind fun inside => ?_
  rw [put_inside (index_lt_of_inside inside)]
  exact safe_pure _ state

theorem faults_writeAll (short : values.length < 65536) (state : State) :
    Faults (registers.writeAll address values) state ↔
      Overflows registers.count address values.length := by
  have length : (ofNat values.length).toNat = values.length :=
    toNat_ofNat_of_lt' short
  have checked := @faults_validate_bind State (Registers Cell) registers.count address
    (ofNat values.length) state (fun _ => registers.putAll address.toNat values)
  rw [length] at checked
  refine checked fun inside => ?_
  rw [putAll_inside inside.2]
  exact safe_pure _ state

theorem faults_maskWrite {words : Registers UInt16} {andMask orMask : UInt16} (state : State) :
    Faults (words.maskWrite address andMask orMask) state ↔ Overflows words.count address 1 := by
  refine faults_validate_bind fun inside => ?_
  have room : address.toNat < words.cells.length := words.sized ▸ index_lt_of_inside inside
  have current := @checkedIndex_getD State ModbusError UInt16 words.cells state address.toNat 0 room
  rintro ⟨fault, faulted⟩
  rw [bind_ok current, put_inside (index_lt_of_inside inside)] at faulted
  cases faulted

theorem readOnly_exceeds (max address quantity : UInt16) :
    ReadOnly (exceeds max address quantity : Fallible State Bool) :=
  .ite (.pure _) (.bind (.checkedAdd _ _ _) fun _ => .pure _)

theorem readOnly_validate (max address quantity : UInt16) :
    ReadOnly (validate max address quantity : Fallible State Unit) :=
  .ite (.bind (.checkedSub _ _) fun _ => .fail _)
    (.bind (readOnly_exceeds _ _ _) fun _ => .failIf _ _)

theorem readOnly_put (registers : Registers Cell) (index : Nat) (value : Cell) :
    ReadOnly (registers.put index value : Fallible State (Registers Cell)) :=
  .ite (.pure _) (.raise _)

theorem readOnly_read (registers : Registers Cell) (address quantity : UInt16) :
    ReadOnly (registers.read address quantity : Fallible State (List Cell)) :=
  .bind (readOnly_validate _ _ _) fun _ => .checkedSlice _ _ _

theorem readOnly_write (registers : Registers Cell) (address : UInt16) (value : Cell) :
    ReadOnly (registers.write address value : Fallible State (Registers Cell)) :=
  .bind (readOnly_validate _ _ _) fun _ => readOnly_put _ _ _

theorem readOnly_putAll (index : Nat) (values : List Cell) (registers : Registers Cell) :
    ReadOnly (registers.putAll index values : Fallible State (Registers Cell)) := by
  induction values generalizing index registers with
  | nil => exact .pure _
  | cons value values ih => exact .bind (readOnly_put _ _ _) fun written => ih (index + 1) written

theorem readOnly_writeAll (registers : Registers Cell) (address : UInt16) (values : List Cell) :
    ReadOnly (registers.writeAll address values : Fallible State (Registers Cell)) :=
  .bind (readOnly_validate _ _ _) fun _ => readOnly_putAll _ _ _

theorem readOnly_maskWrite (registers : Registers UInt16) (address andMask orMask : UInt16) :
    ReadOnly (registers.maskWrite address andMask orMask : Fallible State (Registers UInt16)) :=
  .bind (readOnly_validate _ _ _) fun _ =>
    .bind (.checkedIndex _ _) fun _ => readOnly_put _ _ _

end

end Registers

namespace RegisterStore

theorem transactional_update {Cell : Type} {view : RegisterStore → Registers Cell}
    {compute : Registers Cell → Fallible RegisterStore (Registers Cell)}
    {update : Registers Cell → RegisterStore → RegisterStore}
    (readOnly : ∀ registers, ReadOnly (compute registers)) :
    Transactional (gets view >>= fun registers =>
      compute registers >>= fun written => modify (update written)) :=
  (ReadOnly.gets view).bind_transactional fun registers =>
    (readOnly registers).bind_transactional fun _ => (neverFails_modify _).transactional

section

variable {store : RegisterStore}

theorem writeHoldingRegisters_inside {address : UInt16} {values : List UInt16}
    (short : values.length < 65536)
    (inside : Inside store.holdingRegisters.count address values.length) :
    writeHoldingRegisters address values store = .ok () { store with
        holdingRegisters := store.holdingRegisters.overlay address.toNat values } := by
  rw [writeHoldingRegisters, bind_ok (gets_apply store holdingRegisters),
    writeAll_inside short inside]
  rfl

theorem writeHoldingRegisters_ok {address : UInt16} {values : List UInt16} {after : RegisterStore}
    (short : values.length < 65536)
    (written : writeHoldingRegisters address values store = .ok () after) :
    Inside store.holdingRegisters.count address values.length := by
  by_contra outside
  have length : (ofNat values.length).toNat = values.length :=
    toNat_ofNat_of_lt' short
  rw [writeHoldingRegisters, bind_ok (gets_apply store holdingRegisters)] at written
  obtain ⟨_, _, computed, _⟩ := bind_eq_ok _ _ written
  rw [← length] at outside
  by_cases overflows : Overflows store.holdingRegisters.count address
      (ofNat values.length).toNat
  · obtain ⟨fault, raised⟩ := @validate_overflows RegisterStore _ _ _ overflows
    rw [writeAll, raised] at computed
    cases computed
  · obtain ⟨error, _, failed⟩ := @validate_outside RegisterStore _ _ _ overflows outside
    rw [writeAll, failed, fail_bind] at computed
    cases computed

theorem readHoldingRegisters_err_iff {address quantity : UInt16} :
    (∃ error after, readHoldingRegisters address quantity store = .err error after) ↔
      ¬Inside store.holdingRegisters.count address quantity.toNat ∧
        ¬Overflows store.holdingRegisters.count address quantity.toNat := by
  have reads : readHoldingRegisters address quantity store =
      store.holdingRegisters.read address quantity store :=
    bind_ok (gets_apply store holdingRegisters)
  rw [reads]
  by_cases inside : Inside store.holdingRegisters.count address quantity.toNat
  · rw [read_inside inside]
    simp [inside]
  · by_cases overflows : Overflows store.holdingRegisters.count address quantity.toNat
    · obtain ⟨fault, raised⟩ := @Registers.validate_overflows RegisterStore _ _ _ overflows
      rw [Registers.read, raised]
      refine iff_of_false ?_ (fun both => both.2 overflows)
      rintro ⟨error, after, failed⟩
      cases failed
    · obtain ⟨error, _, failed⟩ :=
        @Registers.validate_outside RegisterStore _ _ _ overflows inside
      rw [Registers.read, failed, fail_bind]
      exact iff_of_true ⟨error, store, rfl⟩ ⟨inside, overflows⟩

end

theorem orderly : space.Orderly where
  readCoils _ _ := .bind (.gets _) fun _ => readOnly_read _ _ _
  writeCoil _ _ := transactional_update fun _ => readOnly_write _ _ _
  writeCoils _ _ := transactional_update fun _ => readOnly_writeAll _ _ _
  readDiscreteInputs _ _ := .bind (.gets _) fun _ => readOnly_read _ _ _
  readHoldingRegisters _ _ := .bind (.gets _) fun _ => readOnly_read _ _ _
  writeHoldingRegister _ _ :=
    transactional_update fun _ => readOnly_write _ _ _
  writeHoldingRegisters _ _ :=
    transactional_update fun _ => readOnly_writeAll _ _ _
  readInputRegisters _ _ := .bind (.gets _) fun _ => readOnly_read _ _ _
  maskWriteHoldingRegister _ _ _ :=
    transactional_update fun _ => readOnly_maskWrite _ _ _ _

end RegisterStore

end Mabinogion.Modbus
