import Mabinogion.Library.ByteCursor

/-!
# Word orders

How a value of two or four registers is laid out in them. The little-endian orders take
the two bytes of a word in reverse and then read them as a little-endian number, so that
they give the registers of the big-endian orders.
-/

namespace Mabinogion.Modbus

open ByteCursor

inductive WordOrder where
  | bigEndian
  | littleEndian
  | bigEndianWordSwap
  | littleEndianWordSwap

def fromLeBytes (first second : UInt8) : UInt16 := u16Of second first

def toLeBytes (register : UInt16) : Bytes := (putU16 register).reverse

def wordsOf : Bytes → List Bytes
  | high :: low :: rest => [high, low] :: wordsOf rest
  | _ => []

namespace WordOrder

variable (order : WordOrder)

def isBigEndian : Bool := order matches bigEndian | bigEndianWordSwap

def bytesToRegisters32 (b0 b1 b2 b3 : UInt8) : UInt16 × UInt16 :=
  match order with
  | bigEndian => (u16Of b0 b1, u16Of b2 b3)
  | littleEndian => (fromLeBytes b3 b2, fromLeBytes b1 b0)
  | bigEndianWordSwap => (u16Of b2 b3, u16Of b0 b1)
  | littleEndianWordSwap => (fromLeBytes b1 b0, fromLeBytes b3 b2)

/-- The two bytes of a little-endian register are exchanged. -/
def registersToBytes32 (r0 r1 : UInt16) : Bytes :=
  match order with
  | bigEndian => putU16 r0 ++ putU16 r1
  | littleEndian => (toLeBytes r1).reverse ++ (toLeBytes r0).reverse
  | bigEndianWordSwap => putU16 r1 ++ putU16 r0
  | littleEndianWordSwap => (toLeBytes r0).reverse ++ (toLeBytes r1).reverse

def bytesToRegisters64 (b0 b1 b2 b3 b4 b5 b6 b7 : UInt8) : UInt16 × UInt16 × UInt16 × UInt16 :=
  let hi := order.bytesToRegisters32 b0 b1 b2 b3
  let lo := order.bytesToRegisters32 b4 b5 b6 b7
  match order with
  | bigEndian | littleEndianWordSwap => (hi.1, hi.2, lo.1, lo.2)
  | littleEndian | bigEndianWordSwap => (lo.1, lo.2, hi.1, hi.2)

def registersToBytes64 (r0 r1 r2 r3 : UInt16) : Bytes :=
  match order with
  | bigEndian | littleEndianWordSwap =>
    order.registersToBytes32 r0 r1 ++ order.registersToBytes32 r2 r3
  | littleEndian | bigEndianWordSwap =>
    order.registersToBytes32 r2 r3 ++ order.registersToBytes32 r0 r1

/-- The documented layout of big-endian bytes. -/
def layout (bytes : Bytes) : Bytes :=
  match order with
  | bigEndian => bytes
  | littleEndian => bytes.reverse
  | bigEndianWordSwap => (wordsOf bytes).reverse.flatten
  | littleEndianWordSwap => ((wordsOf bytes).map List.reverse).flatten

structure FollowsLayout : Prop where
  laid32 (b0 b1 b2 b3 : UInt8) : let (r0, r1) := order.bytesToRegisters32 b0 b1 b2 b3
    [r0, r1].flatMap putU16 = order.layout [b0, b1, b2, b3] ∧
      order.registersToBytes32 r0 r1 = [b0, b1, b2, b3]
  laid64 (b0 b1 b2 b3 b4 b5 b6 b7 : UInt8) :
    let (r0, r1, r2, r3) := order.bytesToRegisters64 b0 b1 b2 b3 b4 b5 b6 b7
    [r0, r1, r2, r3].flatMap putU16 = order.layout [b0, b1, b2, b3, b4, b5, b6, b7] ∧
      order.registersToBytes64 r0 r1 r2 r3 = [b0, b1, b2, b3, b4, b5, b6, b7]

section

variable (b0 b1 b2 b3 b4 b5 b6 b7 : UInt8)

-- Reading back exchanges what writing exchanged, so that it says nothing of the layout.
@[simp] theorem registersToBytes32_bytesToRegisters32 :
    order.registersToBytes32 (order.bytesToRegisters32 b0 b1 b2 b3).1
      (order.bytesToRegisters32 b0 b1 b2 b3).2 = [b0, b1, b2, b3] := by
  cases order <;>
    simp [bytesToRegisters32, registersToBytes32, toLeBytes, fromLeBytes, putU16_u16Of]

theorem registersToBytes64_bytesToRegisters64 :
    let (r0, r1, r2, r3) := order.bytesToRegisters64 b0 b1 b2 b3 b4 b5 b6 b7
    order.registersToBytes64 r0 r1 r2 r3 = [b0, b1, b2, b3, b4, b5, b6, b7] := by
  cases order <;> simp [bytesToRegisters64, registersToBytes64]

end

/-- The little-endian orders do not follow their layout. -/
theorem follows_layout_iff : order.FollowsLayout ↔ order.isBigEndian = true := by
  cases order with
  | bigEndian | bigEndianWordSwap =>
    refine iff_of_true ⟨?_, ?_⟩ rfl
    · intro b0 b1 b2 b3
      refine ⟨?_, registersToBytes32_bytesToRegisters32 _ b0 b1 b2 b3⟩
      simp [putU16_u16Of, layout, wordsOf]
    · intro b0 b1 b2 b3 b4 b5 b6 b7
      refine ⟨?_, registersToBytes64_bytesToRegisters64 _ b0 b1 b2 b3 b4 b5 b6 b7⟩
      simp [bytesToRegisters32, putU16_u16Of, layout, wordsOf]
  | littleEndian | littleEndianWordSwap =>
    refine iff_of_false ?_ Bool.false_ne_true
    intro follows
    exact absurd (follows.laid32 1 2 3 4).1 (by decide)

/-- `LittleEndian` gives 03 04 01 02, not 04 03 02 01. -/
theorem little_endian_keeps_bytes : let (r0, r1) := littleEndian.bytesToRegisters32 1 2 3 4
    [r0, r1].flatMap putU16 = [3, 4, 1, 2] ∧ littleEndian.layout [1, 2, 3, 4] = [4, 3, 2, 1] ∧
      ¬ littleEndian.FollowsLayout :=
  ⟨by decide, by decide, fun follows => absurd (follows.laid32 1 2 3 4).1 (by decide)⟩

end WordOrder

end Mabinogion.Modbus
