import Mathlib.Data.UInt
import Mabinogion.Library.Transactional

/-!
# The sharded register map

The cells of one kind of registers in segments of sixty-four, with a bit for each written cell,
and the segments in shards. A range write does what inserting its values one by one does.
-/

namespace Mabinogion.Modbus

open Checked UInt16 List BitVec
open Option (bind_some)

structure RegisterSegment (Cell : Type) where
  values : Fin 64 → Cell
  occupancy : BitVec 64

structure ShardedRegisterMap (Cell : Type) where
  shards : Fin 64 → Fin 16 → Option (RegisterSegment Cell)
  len : Nat

namespace RegisterSegment

variable {Cell : Type}

def new [Inhabited Cell] : RegisterSegment Cell := ⟨fun _ => default, 0⟩

variable (segment : RegisterSegment Cell) (offset : Fin 64)

def contains : Bool :=
  (segment.occupancy &&& (1#64 <<< offset.val)) != 0

def get : Option Cell :=
  if segment.contains offset then some (segment.values offset) else none

def set (value : Cell) : Option Cell × RegisterSegment Cell :=
  (segment.get offset,
    ⟨Function.update segment.values offset value, segment.occupancy ||| (1#64 <<< offset.val)⟩)

end RegisterSegment

namespace ShardedRegisterMap

theorem segment_lt (address : UInt16) : address.toNat / 64 < 1024 := by
  have bound := address.toNat_lt
  omega

theorem offset_lt (raw : Nat) : raw % 64 < 64 := Nat.mod_lt _ (by decide)

variable (segment : Fin 1024)

theorem slot_lt : segment.val / 64 < 16 := by
  omega

def splitAddress (address : UInt16) : Fin 1024 × Fin 64 :=
  (⟨address.toNat / 64, segment_lt address⟩, ⟨address.toNat % 64, offset_lt _⟩)

def shardIndex : Fin 64 := ⟨segment.val % 64, offset_lt _⟩

def slotIndex : Fin 16 := ⟨segment.val / 64, slot_lt segment⟩

def nextBoundary (address : Nat) : Nat := (address / 64 + 1) * 64

variable {Cell State Error : Type}

def new : ShardedRegisterMap Cell := ⟨fun _ _ => none, 0⟩

variable (map : ShardedRegisterMap Cell)

def slot (segment : Fin 1024) : Option (RegisterSegment Cell) :=
  map.shards (shardIndex segment) (slotIndex segment)

/-- The map with a segment replaced, and as many new cells counted. -/
def withSlot (segment : Fin 1024)
    (content : RegisterSegment Cell) (inserted : Nat) : ShardedRegisterMap Cell :=
  ⟨fun shard slot =>
      if shard = shardIndex segment ∧ slot = slotIndex segment then some content
      else map.shards shard slot,
    map.len + inserted⟩

def insert [Inhabited Cell] (map : ShardedRegisterMap Cell) (address : UInt16) (value : Cell) :
    Option Cell × ShardedRegisterMap Cell :=
  let split := splitAddress address
  let written := ((map.slot split.1).getD .new).set split.2 value
  (written.1, map.withSlot split.1 written.2 (if written.1.isNone then 1 else 0))

def readOne (address : UInt16) (default : Cell) : Cell :=
  ((map.slot (splitAddress address).1).bind fun segment =>
    segment.get (splitAddress address).2).getD default

def checkedOffset (offset : Nat) : Checked State Error (Fin 64) :=
  if inside : offset < 64 then pure ⟨offset, inside⟩ else raise .indexOutOfRange

/-- The cells of a segment that have been written, copied over the defaults. -/
def readCells (segment : RegisterSegment Cell) (startOffset resultOffset : Nat) :
    List Nat → List Cell → Checked State Error (List Cell)
  | [], result => pure result
  | index :: indices, result => do
    let offset ← checkedOffset (startOffset + index)
    match segment.get offset with
    | none => readCells segment startOffset resultOffset indices result
    | some value => do
      let filled ← checkedSet result (resultOffset + index) value
      readCells segment startOffset resultOffset indices filled

def readChunk (address current chunkEnd : Nat)
    (result : List Cell) : Checked State Error (List Cell) :=
  let split := splitAddress (UInt16.ofNat current)
  match map.slot split.1 with
  | none => pure result
  | some segment =>
    readCells segment split.2.val (current - address) (List.range (chunkEnd - current)) result

def readRound (address endExclusive : Nat)
    (progress : Nat × List Cell) : Checked State Error ((Nat × List Cell) ⊕ List Cell) :=
  if progress.1 < endExclusive then do
    let chunkEnd := min (nextBoundary progress.1) endExclusive
    let filled ← map.readChunk address progress.1 chunkEnd progress.2
    pure (.inl (chunkEnd, filled))
  else pure (.inr progress.2)

def readRange (address quantity : UInt16) (default : Cell) : Checked State Error (List Cell) :=
  loopWithin (map.readRound address.toNat (address.toNat + quantity.toNat))
    (quantity.toNat + 1) (address.toNat, List.replicate quantity.toNat default)

def setCells : RegisterSegment Cell → Nat → Nat → List Cell →
    Checked State Error (RegisterSegment Cell × Nat)
  | segment, _, inserted, [] => pure (segment, inserted)
  | segment, offset, inserted, value :: values => do
    let place ← checkedOffset offset
    let written := segment.set place value
    setCells written.2 (offset + 1) (inserted + if written.1.isNone then 1 else 0) values

def writeChunk [Inhabited Cell] (map : ShardedRegisterMap Cell) (address current chunkEnd : Nat)
    (values : List Cell) : Checked State Error (ShardedRegisterMap Cell) := do
  let startOffset := current - address
  let split := splitAddress (UInt16.ofNat current)
  let chunk ← checkedSlice values startOffset (startOffset + (chunkEnd - current))
  let written ← setCells ((map.slot split.1).getD .new) split.2.val 0 chunk
  pure (map.withSlot split.1 written.1 written.2)

def writeRound [Inhabited Cell] (address endExclusive : Nat) (values : List Cell)
    (progress : Nat × ShardedRegisterMap Cell) :
    Checked State Error ((Nat × ShardedRegisterMap Cell) ⊕ ShardedRegisterMap Cell) :=
  if progress.1 < endExclusive then do
    let chunkEnd := min (nextBoundary progress.1) endExclusive
    let written ← progress.2.writeChunk address progress.1 chunkEnd values
    pure (.inl (chunkEnd, written))
  else pure (.inr progress.2)

def writeRange [Inhabited Cell] (map : ShardedRegisterMap Cell) (address : UInt16)
    (values : List Cell) : Checked State Error (ShardedRegisterMap Cell) :=
  if values.isEmpty then pure map
  else
    loopWithin (writeRound address.toNat (address.toNat + values.length) values)
      (values.length + 1) (address.toNat, map)

/-! The cells of a map. -/

/-- What has been written at an address. -/
def cell (address : UInt16) : Option Cell :=
  (map.slot (splitAddress address).1).bind fun segment => segment.get (splitAddress address).2

def cellAt (raw : Nat) : Option Cell := map.cell (UInt16.ofNat raw)

end ShardedRegisterMap

open ShardedRegisterMap

namespace RegisterSegment

variable {Cell : Type}
variable (segment : RegisterSegment Cell) (offset place : Fin 64) (value : Cell)

theorem getLsbD_mask (index : Nat) :
    (1#64 <<< offset.val).getLsbD index = decide (index = offset.val) := by
  have power := getLsbD_twoPow (w := 64) offset.val index
  rw [twoPow] at power
  rw [power]
  simp [eq_comm]

theorem contains_eq : segment.contains offset = segment.occupancy.getLsbD offset := by
  have masked : segment.occupancy &&& (1#64 <<< offset.val) =
      if segment.occupancy.getLsbD offset then twoPow 64 offset else 0 :=
    and_twoPow segment.occupancy offset
  have positive : twoPow 64 offset.val ≠ 0 := by
    intro zero
    have bit := getLsbD_mask offset offset.val
    rw [← twoPow, zero] at bit
    simp at bit
  rw [contains, masked]
  cases segment.occupancy.getLsbD offset with
  | false => simp
  | true => simpa using positive

theorem contains_set : (segment.set offset value).2.contains place =
      (segment.contains place || decide (place = offset)) := by
  have here : decide (place.val = offset.val) = decide (place = offset) := by
    rw [decide_eq_decide, Fin.ext_iff]
  rw [contains_eq, contains_eq, ← here, ← getLsbD_mask offset place.val]
  exact getLsbD_or

theorem get_set : (segment.set offset value).2.get place = if place =
      offset then some value else segment.get place := by
  have values : (segment.set offset value).2.values =
      Function.update segment.values offset value := rfl
  rw [get, contains_set, values]
  by_cases here : place = offset
  · subst here
    simp
  · simp [here, get]

theorem get_new [Inhabited Cell] (place : Fin 64) :
    (new : RegisterSegment Cell).get place = none := by
  simp [get, contains_eq, new]

theorem set_same {segment : RegisterSegment Cell} {offset : Fin 64} {value : Cell}
    (held : segment.get offset = some value) :
    segment.set offset value = (some value, segment) := by
  have taken : segment.contains offset = true := by
    by_contra empty
    rw [get, if_neg empty] at held
    cases held
  have stored : segment.values offset = value := by
    rw [get, if_pos taken] at held
    exact Option.some.inj held
  have values : Function.update segment.values offset value = segment.values := by
    rw [← stored, Function.update_eq_self]
  have bits : segment.occupancy ||| (1#64 <<< offset.val) = segment.occupancy := by
    apply eq_of_getLsbD_eq
    intro index _
    rw [getLsbD_or, getLsbD_mask]
    by_cases here : index = offset.val
    · rw [here, ← contains_eq, taken]
      rfl
    · simp [here]
  rw [set, held, values, bits]

end RegisterSegment

namespace ShardedRegisterMap

variable {Cell State Error : Type}

section

variable {map : ShardedRegisterMap Cell} {segment other : Fin 1024}
  {content : RegisterSegment Cell}

theorem index_inj (same : shardIndex segment = shardIndex other)
    (slots : slotIndex segment = slotIndex other) : segment = other := by
  have low : segment.val % 64 = other.val % 64 := congrArg Fin.val same
  have high : segment.val / 64 = other.val / 64 := congrArg Fin.val slots
  apply Fin.ext
  omega

theorem splitAddress_inj {address other : UInt16}
    (same : splitAddress address = splitAddress other) :
    address = other := by
  have high : address.toNat / 64 = other.toNat / 64 :=
    congrArg (fun split => split.1.val) same
  have low : address.toNat % 64 = other.toNat % 64 :=
    congrArg (fun split => split.2.val) same
  apply UInt16.toNat_inj.mp
  omega

theorem slot_withSlot (inserted : Nat) : (map.withSlot segment content inserted).slot other =
      if other = segment then some content else map.slot other := by
  by_cases here : other = segment
  · subst here
    simp [slot, withSlot]
  · have apart : ¬(shardIndex other = shardIndex segment ∧ slotIndex other = slotIndex segment) :=
      fun same => here (index_inj same.1 same.2)
    simp only [slot, withSlot, if_neg apart, if_neg here]

theorem withSlot_withSlot (newer : RegisterSegment Cell) (first second : Nat) :
    (map.withSlot segment content first).withSlot segment newer second =
      map.withSlot segment newer (first + second) := by
  have shards : ((map.withSlot segment content first).withSlot segment newer second).shards =
      (map.withSlot segment newer (first + second)).shards := by
    funext shard place
    by_cases here : shard = shardIndex segment ∧ place = slotIndex segment
    · simp only [withSlot, if_pos here]
    · simp only [withSlot, if_neg here]
  rw [withSlot, mk.injEq]
  exact ⟨shards, add_assoc _ _ _⟩

theorem withSlot_self (held : map.slot segment = some content) :
    map.withSlot segment content 0 = map := by
  have shards : (map.withSlot segment content 0).shards = map.shards := by
    funext shard place
    by_cases here : shard = shardIndex segment ∧ place = slotIndex segment
    · simp only [withSlot, if_pos here]
      rw [here.1, here.2]
      exact held.symm
    · simp only [withSlot, if_neg here]
  cases map
  rw [withSlot, mk.injEq]
  exact ⟨shards, rfl⟩

end

section

variable [Inhabited Cell]

theorem cell_insert (map : ShardedRegisterMap Cell) (address place : UInt16) (value : Cell) :
    (map.insert address value).2.cell place =
      if place = address then some value else map.cell place := by
  have slots : (map.insert address value).2.slot (splitAddress place).1 =
      if (splitAddress place).1 = (splitAddress address).1 then
        some (((map.slot (splitAddress address).1).getD .new).set (splitAddress address).2 value).2
      else map.slot (splitAddress place).1 := slot_withSlot _
  rw [cell, slots]
  by_cases segments : (splitAddress place).1 = (splitAddress address).1
  · rw [if_pos segments, bind_some, RegisterSegment.get_set]
    by_cases offsets : (splitAddress place).2 = (splitAddress address).2
    · rw [if_pos offsets, if_pos (splitAddress_inj (Prod.ext segments offsets))]
    · have apart : place ≠ address := fun same => offsets (same ▸ rfl)
      rw [if_neg offsets, if_neg apart, cell, segments]
      cases map.slot (splitAddress address).1 with
      | none => exact RegisterSegment.get_new _
      | some => rfl
  · have apart : place ≠ address := fun same => segments (same ▸ rfl)
    rw [if_neg segments, if_neg apart, cell]

theorem insert_same {map : ShardedRegisterMap Cell} {address : UInt16} {value : Cell}
    (held : map.cell address = some value) : (map.insert address value).2 = map := by
  rw [cell] at held
  cases there : map.slot (splitAddress address).1 with
  | none =>
    rw [there] at held
    cases held
  | some =>
    rw [there, bind_some] at held
    simp only [insert, there, Option.getD_some, RegisterSegment.set_same held, Option.isNone_some,
      Bool.false_eq_true, if_false]
    exact withSlot_self there

def insertAll : Nat → List Cell → ShardedRegisterMap Cell → ShardedRegisterMap Cell
  | _, [], map => map
  | start, value :: values, map =>
    insertAll (start + 1) values (map.insert (UInt16.ofNat start) value).2

theorem insertAll_append (start : Nat) (first second : List Cell) (map : ShardedRegisterMap Cell) :
    insertAll start (first ++ second) map =
      insertAll (start + first.length) second (insertAll start first map) := by
  induction first generalizing start map with
  | nil => simp [insertAll]
  | cons value values ih =>
    rw [List.cons_append, insertAll, ih, List.length_cons, insertAll, add_right_comm, add_assoc]

theorem cell_insertAll {start : Nat} {values : List Cell} (room : start + values.length ≤ 65536)
    (map : ShardedRegisterMap Cell) (place : UInt16) :
    (insertAll start values map).cell place =
      if start ≤ place.toNat ∧ place.toNat < start + values.length then
        values[place.toNat - start]?
      else map.cell place := by
  induction values generalizing start map with
  | nil =>
    have nowhere : ¬(start ≤ place.toNat ∧ place.toNat < start + ([] : List Cell).length) := by
      simp
    rw [insertAll, if_neg nowhere]
  | cons value values ih =>
    rw [length_cons] at room ⊢
    have address : (ofNat start).toNat = start := toNat_ofNat_of_lt' (by
      show start < 65536
      omega)
    have here : place = ofNat start ↔ place.toNat = start := by
      rw [← UInt16.toNat_inj, address]
    rw [insertAll, ih (by omega), cell_insert]
    rcases Nat.lt_trichotomy place.toNat start with before | same | behind
    · rw [if_neg (by omega), if_neg (by rw [here]; omega), if_neg (by omega)]
    · rw [if_neg (by omega), if_pos (here.mpr same), if_pos (by omega), same, Nat.sub_self,
        List.getElem?_cons_zero]
    · have offset : place.toNat - start = place.toNat - (start + 1) + 1 := by omega
      by_cases written : place.toNat < start + (values.length + 1)
      · rw [if_pos (by omega), if_pos (by omega), offset, List.getElem?_cons_succ]
      · rw [if_neg (by omega), if_neg (by rw [here]; omega), if_neg (by omega)]

theorem insertAll_eq_self_iff {start : Nat} {values : List Cell}
    (room : start + values.length ≤ 65536) (map : ShardedRegisterMap Cell) :
    insertAll start values map = map ↔ ∀ index value, values[index]? = some value →
        map.cellAt (start + index) = some value := by
  constructor
  · intro same index value listed
    have inside : index < values.length := (List.getElem?_eq_some_iff.mp listed).1
    have address : (ofNat (start + index)).toNat = start + index :=
      toNat_ofNat_of_lt' (by
        show start + index < 65536
        omega)
    rw [← same, cellAt, cell_insertAll room, address, if_pos (by omega), Nat.add_sub_cancel_left,
      listed]
  · intro held
    induction values generalizing start with
    | nil => rfl
    | cons value values ih =>
      rw [length_cons] at room
      have first : map.cell (ofNat start) = some value := held 0 value rfl
      rw [insertAll, insert_same first]
      apply ih (by omega)
      intro index later listed
      have moved := held (index + 1) later (by rwa [List.getElem?_cons_succ])
      rwa [← add_assoc, add_right_comm] at moved

end

theorem splitAddress_add {current index : Nat} (inside : current % 64 + index < 64)
    (small : current + index < 65536) :
    splitAddress (ofNat (current + index)) =
      ((splitAddress (ofNat current)).1, ⟨current % 64 + index, inside⟩) := by
  have here := toNat_ofNat_of_lt' small
  have start := toNat_ofNat_of_lt' (lt_of_le_of_lt (Nat.le_add_right current index) small)
  refine Prod.ext (Fin.ext ?_) (Fin.ext ?_)
  · show (ofNat (current + index)).toNat / 64 = (ofNat current).toNat / 64
    rw [here, start]
    omega
  · show (ofNat (current + index)).toNat % 64 = current % 64 + index
    rw [here]
    omega

theorem offset_splitAddress {current : Nat} (small : current < 65536) :
    (splitAddress (ofNat current)).2.val = current % 64 := by
  show (ofNat current).toNat % 64 = current % 64
  rw [toNat_ofNat_of_lt' small]

theorem checkedOffset_eq {offset : Nat} (inside : offset < 64) :
    (checkedOffset offset : Checked State Error (Fin 64)) = pure ⟨offset, inside⟩ := by
  rw [checkedOffset, dif_pos inside]

theorem lt_chunkEnd {current endExclusive : Nat} (before : current < endExclusive) :
    current < min (nextBoundary current) endExclusive := by
  rw [nextBoundary]
  omega

theorem chunk_inside (current endExclusive : Nat) :
    current % 64 + (min (nextBoundary current) endExclusive - current) ≤ 64 := by
  rw [nextBoundary]
  omega

section

variable (map : ShardedRegisterMap Cell) (address quantity : Nat) (default : Cell)

/-- A result of which the cells in front of an address have been read. -/
def readUpTo (bound : Nat) : List Cell :=
  (List.range quantity).map fun index =>
    if address + index < bound then
      (map.cellAt (address + index)).getD default
    else default

theorem readUpTo_start :
    readUpTo map address quantity default address = replicate quantity default := by
  simp [readUpTo, map_const']

theorem readUpTo_end : readUpTo map address quantity default (address + quantity) =
      (range quantity).map fun index => (map.cellAt (address + index)).getD default := by
  apply map_congr_left
  intro index listed
  have below : index < quantity := mem_range.mp listed
  rw [if_pos (by omega)]

variable {map address quantity default} {current : Nat}

theorem readUpTo_none (empty : map.cellAt current = none) :
    readUpTo map address quantity default (current + 1) =
      readUpTo map address quantity default current := by
  apply map_congr_left
  intro index _
  by_cases here : address + index = current
  · rw [here, empty, if_neg (lt_irrefl _)]
    simp
  · have same : address + index < current + 1 ↔ address + index < current := by omega
    simp only [same]

theorem readUpTo_some {value : Cell} (behind : address ≤ current)
    (held : map.cellAt current = some value) :
    readUpTo map address quantity default (current + 1) =
      (readUpTo map address quantity default current).set (current - address) value := by
  apply ext_getElem?
  intro index
  by_cases inside : index < quantity
  · by_cases here : current - address = index
    · have there : address + index = current := by omega
      simp [readUpTo, here, there, held, inside]
    · have same : address + index < current + 1 ↔ address + index < current := by omega
      simp only [readUpTo, length_map, length_range, inside, getElem?_pos, getElem_map,
        getElem_range, same, length_set, ne_eq, here, not_false_eq_true, getElem_set_ne]
  · simp [readUpTo, inside]

theorem readCells_eq {segment : RegisterSegment Cell} {current : Nat} (count start : Nat)
    (behind : address ≤ current) (held : map.slot (splitAddress (ofNat current)).1 = some segment)
    (inside : current % 64 + (start + count) ≤ 64)
    (room : current + (start + count) ≤ address + quantity) (small : address + quantity ≤ 65536) :
    (readCells segment (current % 64) (current - address) (range' start count)
        (readUpTo map address quantity default (current + start)) :
      Checked State Error (List Cell)) =
      pure (readUpTo map address quantity default (current + (start + count))) := by
  induction count generalizing start with
  | zero => rfl
  | succ count ih =>
    have place : current % 64 + start < 64 := by omega
    have cell : map.cellAt (current + start) = segment.get ⟨_, place⟩ := by
      rw [cellAt, cell, splitAddress_add place (by omega), held, bind_some]
    have later := ih (start + 1) (by omega) (by omega)
    have next : current + (start + 1) = current + start + 1 := rfl
    have total : start + (count + 1) = start + 1 + count := by omega
    rw [total, ← later, next, range'_succ, readCells, checkedOffset_eq place, return_bind]
    cases got : segment.get ⟨_, place⟩ with
    | none => rw [readUpTo_none (cell.trans got)]
    | some value =>
      have offset : current - address + start = current + start - address := by omega
      have filled : (checkedSet (readUpTo map address quantity default (current + start))
          (current - address + start) value : Checked State Error (List Cell)) =
          pure (readUpTo map address quantity default (current + start + 1)) := by
        funext state
        rw [readUpTo_some (by omega) (cell.trans got), ← offset]
        apply checkedSet_ok state
        simp only [readUpTo, length_map, length_range]
        omega
      simp only [filled, return_bind]

theorem readUpTo_empty (count : Nat) (empty : map.slot (splitAddress (ofNat current)).1 = none)
    (inside : current % 64 + count ≤ 64) (small : current + count ≤ 65536) :
    readUpTo map address quantity default (current + count) =
      readUpTo map address quantity default current := by
  induction count with
  | zero => rfl
  | succ count ih =>
    have cell : map.cellAt (current + count) = none := by
      rw [cellAt, cell, splitAddress_add (by omega) (by omega), empty, Option.bind_none]
    rw [← add_assoc, readUpTo_none cell, ih (by omega) (by omega)]

theorem readChunk_eq {current chunkEnd : Nat} (behind : address ≤ current)
    (forward : current ≤ chunkEnd) (inside : current % 64 + (chunkEnd - current) ≤ 64)
    (room : chunkEnd ≤ address + quantity) (small : address + quantity ≤ 65536)
    (before : current < 65536) :
    (map.readChunk address current chunkEnd (readUpTo map address quantity default current) :
        Checked State Error (List Cell)) =
      pure (readUpTo map address quantity default chunkEnd) := by
  have length : current + (chunkEnd - current) = chunkEnd := Nat.add_sub_cancel' forward
  rw [readChunk]
  cases there : map.slot (splitAddress (ofNat current)).1 with
  | none =>
    have skipped := @readUpTo_empty Cell map address quantity default current
      (chunkEnd - current) there inside (by omega)
    rw [length] at skipped
    rw [skipped]
  | some segment =>
    have copied := @readCells_eq Cell State Error map address quantity default segment current
      (chunkEnd - current) 0 behind there (by omega) (by omega) small
    rw [zero_add, length] at copied
    simp only [offset_splitAddress before, range_eq_range']
    exact copied

theorem readLoop_eq (small : address + quantity ≤ 65536) (bound current : Nat)
    (behind : address ≤ current) (within : current ≤ address + quantity)
    (enough : address + quantity - current < bound) :
    (loopWithin (map.readRound address (address + quantity)) bound
        (current, readUpTo map address quantity default current) :
      Checked State Error (List Cell)) =
      pure (readUpTo map address quantity default (address + quantity)) := by
  induction bound generalizing current with
  | zero => omega
  | succ bound ih =>
    rw [loopWithin]
    by_cases more : current < address + quantity
    · have forward := lt_chunkEnd more
      have chunk := @readChunk_eq Cell State Error map address quantity default current
        (min (nextBoundary current) (address + quantity)) behind forward.le
        (chunk_inside _ _) (min_le_right _ _) small (by omega)
      have later := ih (min (nextBoundary current) (address + quantity)) (by omega)
        (min_le_right _ _) (by omega)
      have round : (map.readRound address (address + quantity)
          (current, readUpTo map address quantity default current) : Checked State Error _) =
          pure (.inl (min (nextBoundary current) (address + quantity),
            readUpTo map address quantity default
              (min (nextBoundary current) (address + quantity)))) := by
        simp only [readRound, if_pos more, chunk, return_bind]
      rw [round, return_bind, ← later]
    · have ended : current = address + quantity := by omega
      rw [readRound, if_neg more, return_bind, ended]

end

theorem readRange_eq (map : ShardedRegisterMap Cell) {address quantity : UInt16} (default : Cell)
    (small : address.toNat + quantity.toNat ≤ 65536) :
    (map.readRange address quantity default : Checked State Error (List Cell)) =
      pure ((range quantity.toNat).map fun index =>
        (map.cellAt (address.toNat + index)).getD default) := by
  rw [readRange, ← readUpTo_start map address.toNat quantity.toNat default,
    readLoop_eq small _ _ le_rfl (Nat.le_add_right _ _) (by omega), readUpTo_end]

section

/-- A segment with the values from an offset on, and the number of cells that were new. -/
def setAll : RegisterSegment Cell → Nat → List Cell → RegisterSegment Cell × Nat
  | segment, _, [] => (segment, 0)
  | segment, offset, value :: values =>
    let written := segment.set ⟨offset % 64, offset_lt offset⟩ value
    let later := setAll written.2 (offset + 1) values
    (later.1, (if written.1.isNone then 1 else 0) + later.2)

theorem setAll_cons (segment : RegisterSegment Cell) (offset : Nat) (value : Cell)
    (values : List Cell) :
    setAll segment offset (value :: values) =
      ((setAll (setAll segment offset [value]).1 (offset + 1) values).1,
        (setAll segment offset [value]).2 +
          (setAll (setAll segment offset [value]).1 (offset + 1) values).2) := by
  simp [setAll]

theorem setCells_eq {segment : RegisterSegment Cell} {offset : Nat} {values : List Cell}
    (inserted : Nat) (inside : offset + values.length ≤ 64) :
    (setCells segment offset inserted values : Checked State Error _) =
      pure ((setAll segment offset values).1, inserted + (setAll segment offset values).2) := by
  induction values generalizing segment offset inserted with
  | nil => rfl
  | cons value values ih =>
    rw [length_cons] at inside
    have place : offset < 64 := by omega
    have same : (⟨offset, place⟩ : Fin 64) = ⟨offset % 64, offset_lt offset⟩ :=
      Fin.ext (Nat.mod_eq_of_lt place).symm
    rw [setCells, checkedOffset_eq place, return_bind, ih _ (by omega), setAll, same, add_assoc]

variable [Inhabited Cell]

theorem insert_add {current index : Nat} (inside : current % 64 + index < 64)
    (small : current + index < 65536) (map : ShardedRegisterMap Cell) (value : Cell) :
    (map.insert (ofNat (current + index)) value).2 = map.withSlot (splitAddress (ofNat current)).1
        (setAll ((map.slot (splitAddress (ofNat current)).1).getD .new)
          (current % 64 + index) [value]).1
        (setAll ((map.slot (splitAddress (ofNat current)).1).getD .new)
          (current % 64 + index) [value]).2 := by
  have same : (⟨(current % 64 + index) % 64, offset_lt _⟩ : Fin 64) =
      ⟨current % 64 + index, inside⟩ := Fin.ext (Nat.mod_eq_of_lt inside)
  simp only [insert, splitAddress_add inside small, setAll, same, add_zero]

theorem insertAll_chunk {current index : Nat} {value : Cell} {values : List Cell}
    (inside : current % 64 + (index + values.length) < 64)
    (small : current + (index + values.length) < 65536) (map : ShardedRegisterMap Cell) :
    insertAll (current + index) (value :: values) map =
      map.withSlot (splitAddress (ofNat current)).1
        (setAll ((map.slot (splitAddress (ofNat current)).1).getD .new)
          (current % 64 + index) (value :: values)).1
        (setAll ((map.slot (splitAddress (ofNat current)).1).getD .new)
          (current % 64 + index) (value :: values)).2 := by
  induction values generalizing map index value with
  | nil => exact insert_add inside small map value
  | cons next values ih =>
    rw [length_cons] at inside small
    have first := @insert_add Cell _ current index (by omega) (by omega) map value
    have later := @ih (index + 1) next (by omega) (by omega)
      (map.insert (ofNat (current + index)) value).2
    rw [insertAll, add_assoc, later, first, slot_withSlot, if_pos rfl, withSlot_withSlot,
      Option.getD_some, setAll_cons _ _ value (next :: values)]
    rfl

theorem writeChunk_eq {address current chunkEnd : Nat} {values : List Cell}
    (behind : address ≤ current) (forward : current < chunkEnd)
    (inside : current % 64 + (chunkEnd - current) ≤ 64) (room : chunkEnd ≤ address + values.length)
    (small : address + values.length ≤ 65536) (map : ShardedRegisterMap Cell) :
    (writeChunk (insertAll address (values.take (current - address)) map) address current chunkEnd
        values : Checked State Error (ShardedRegisterMap Cell)) =
      pure (insertAll address (values.take (chunkEnd - address)) map) := by
  have ends : current - address + (chunkEnd - current) = chunkEnd - address := by omega
  have slice : (checkedSlice values (current - address) (chunkEnd - address) :
      Checked State Error (List Cell)) =
      pure ((values.take (chunkEnd - address)).drop (current - address)) := by
    funext state
    exact checkedSlice_ok state (by omega) (by omega)
  have parts : values.take (chunkEnd - address) = values.take (current - address) ++
      (values.take (chunkEnd - address)).drop (current - address) := by
    have front : values.take (current - address) =
        (values.take (chunkEnd - address)).take (current - address) := by
      rw [take_take, min_eq_left (by omega)]
    rw [front, take_append_drop]
  have place : address + (values.take (current - address)).length = current := by
    rw [length_take]
    omega
  have size : ((values.take (chunkEnd - address)).drop (current - address)).length =
      chunkEnd - current := by
    rw [length_drop, length_take]
    omega
  rw [parts, insertAll_append, place]
  generalize insertAll address (values.take (current - address)) map = written at *
  simp only [writeChunk, ends, slice, return_bind]
  cases chunk : (values.take (chunkEnd - address)).drop (current - address) with
  | nil =>
    rw [chunk] at size
    simp at size
    omega
  | cons value rest =>
    rw [chunk, length_cons] at size
    have all := @insertAll_chunk Cell _ current 0 value rest (by omega) (by omega) written
    rw [setCells_eq 0 (by rw [offset_splitAddress (by omega), length_cons]; omega),
      return_bind, offset_splitAddress (by omega), zero_add]
    rw [add_zero, add_zero] at all
    rw [all]

theorem writeLoop_eq {address : Nat} {values : List Cell} (small : address + values.length ≤ 65536)
    (map : ShardedRegisterMap Cell) (bound current : Nat) (behind : address ≤ current)
    (within : current ≤ address + values.length)
    (enough : address + values.length - current < bound) :
    (loopWithin (writeRound address (address + values.length) values) bound
        (current, insertAll address (values.take (current - address)) map) :
      Checked State Error (ShardedRegisterMap Cell)) =
      pure (insertAll address values map) := by
  induction bound generalizing current with
  | zero => omega
  | succ bound ih =>
    rw [loopWithin]
    by_cases more : current < address + values.length
    · have forward := lt_chunkEnd more
      have chunk := @writeChunk_eq Cell State Error _ address current
        (min (nextBoundary current) (address + values.length)) values behind forward
        (chunk_inside _ _) (min_le_right _ _) small map
      have later := ih (min (nextBoundary current) (address + values.length)) (by omega)
        (min_le_right _ _) (by omega)
      simp only [writeRound, if_pos more, chunk, return_bind]
      exact later
    · have ended : current - address = values.length := by omega
      rw [writeRound, if_neg more, return_bind, ended, take_length]

theorem writeRange_eq (map : ShardedRegisterMap Cell) {address : UInt16} {values : List Cell}
    (small : address.toNat + values.length ≤ 65536) :
    (map.writeRange address values : Checked State Error (ShardedRegisterMap Cell)) =
      pure (insertAll address.toNat values map) := by
  rw [writeRange]
  by_cases empty : values.isEmpty = true
  · rw [if_pos empty, isEmpty_iff.mp empty]
    rfl
  · have start : insertAll address.toNat (values.take (address.toNat - address.toNat)) map = map := by
      rw [Nat.sub_self, take_zero, insertAll]
    have whole := @writeLoop_eq Cell State Error _ address.toNat values small map
      (values.length + 1) address.toNat le_rfl (Nat.le_add_right _ _) (by omega)
    rw [start] at whole
    rw [if_neg empty, whole]

end

theorem readOnly_checkedOffset (offset : Nat) :
    ReadOnly (checkedOffset offset : Checked State Error (Fin 64)) := by
  unfold checkedOffset
  split
  · exact .pure _
  · exact .raise _

variable (segment : RegisterSegment Cell)

theorem readOnly_readCells (startOffset resultOffset : Nat)
    (indices : List Nat) (result : List Cell) :
    ReadOnly (readCells segment startOffset resultOffset indices result :
      Checked State Error (List Cell)) := by
  induction indices generalizing result with
  | nil => exact .pure _
  | cons index indices ih =>
    refine .bind (readOnly_checkedOffset _) fun offset => ?_
    cases segment.get offset with
    | none => exact ih result
    | some => exact .bind (.checkedSet _ _ _) fun filled => ih filled

theorem readOnly_readRange (map : ShardedRegisterMap Cell) (address quantity : UInt16)
    (default : Cell) :
    ReadOnly (map.readRange address quantity default : Checked State Error (List Cell)) := by
  have chunks (start current chunkEnd : Nat) (result : List Cell) :
      ReadOnly (map.readChunk start current chunkEnd result : Checked State Error (List Cell)) := by
    rw [readChunk]
    cases map.slot (splitAddress (ofNat current)).1 with
    | none => exact .pure _
    | some => exact readOnly_readCells _ _ _ _ _
  exact .loopWithin (fun progress => .ite (.bind (chunks _ _ _ _) fun _ => .pure _) (.pure _)) _ _

theorem readOnly_setCells (offset inserted : Nat) (values : List Cell) :
    ReadOnly (setCells segment offset inserted values : Checked State Error _) := by
  induction values generalizing segment offset inserted with
  | nil => exact .pure _
  | cons value values ih => exact .bind (readOnly_checkedOffset _) fun _ => ih _ _ _

theorem readOnly_writeRange [Inhabited Cell] (map : ShardedRegisterMap Cell) (address : UInt16)
    (values : List Cell) :
    ReadOnly (map.writeRange address values : Checked State Error (ShardedRegisterMap Cell)) := by
  have chunks (written : ShardedRegisterMap Cell) (start current chunkEnd : Nat) :
      ReadOnly (written.writeChunk start current chunkEnd values :
        Checked State Error (ShardedRegisterMap Cell)) :=
    .bind (.checkedSlice _ _ _) fun _ => .bind (readOnly_setCells _ _ _ _) fun _ => .pure _
  exact .ite (.pure _) (.loopWithin (fun progress =>
    .ite (.bind (chunks _ _ _ _) fun _ => .pure _) (.pure _)) _ _)

end ShardedRegisterMap

end Mabinogion.Modbus
