import Mabinogion.Library.BigEndian
import Mathlib.Data.UInt

/-!
# KNX addresses

Individual addresses of an area, a line and a device, and group addresses. An
individual address takes 16 bits on the wire, of which area and line have four
each.
-/

namespace Mabinogion.Knx

open UInt8

@[ext]
structure IndividualAddress where
  area : UInt8
  line : UInt8
  device : UInt8
  areaBound : area ≤ 15
  lineBound : line ≤ 15
deriving DecidableEq

namespace IndividualAddress

variable (address : IndividualAddress)

def encode : UInt16 :=
  (address.area.toUInt16 <<< 12) ||| (address.line.toUInt16 <<< 8) ||| address.device.toUInt16

theorem nibble_toNat (value : UInt16) : (value &&& 0x0F).toUInt8.toNat = value.toNat % 16 := by
  rw [UInt16.toNat_toUInt8, UInt16.toNat_and]
  show (value.toNat &&& (2 ^ 4 - 1)) % 2 ^ 8 = value.toNat % 16
  rw [Nat.and_two_pow_sub_one_eq_mod]
  omega

theorem nibble_le (value : UInt16) : (value &&& 0x0F).toUInt8 ≤ 15 := by
  rw [le_iff_toNat_le, nibble_toNat]
  exact Nat.le_of_lt_succ (Nat.mod_lt _ (by decide))

def decode (value : UInt16) : IndividualAddress where
  area := ((value >>> 12) &&& 0x0F).toUInt8
  line := ((value >>> 8) &&& 0x0F).toUInt8
  device := (value &&& 0xFF).toUInt8
  areaBound := nibble_le _
  lineBound := nibble_le _

theorem bounds : address.area.toNat ≤ 15 ∧ address.line.toNat ≤ 15 :=
  ⟨le_iff_toNat_le.mp address.areaBound, le_iff_toNat_le.mp address.lineBound⟩

theorem encode_toNat : address.encode.toNat =
      address.area.toNat * 4096 + address.line.toNat * 256 + address.device.toNat := by
  obtain ⟨area, line⟩ := address.bounds
  have device := address.device.toNat_lt
  have high : (address.area.toUInt16 <<< 12).toNat = address.area.toNat * 4096 := by
    rw [UInt16.toNat_shiftLeft, toNat_toUInt16, Nat.shiftLeft_eq]
    show address.area.toNat * 4096 % 65536 = address.area.toNat * 4096
    omega
  have middle : (address.line.toUInt16 <<< 8).toNat = address.line.toNat * 256 := by
    rw [UInt16.toNat_shiftLeft, toNat_toUInt16, Nat.shiftLeft_eq]
    show address.line.toNat * 256 % 65536 = address.line.toNat * 256
    omega
  have upper : address.area.toNat * 4096 ||| address.line.toNat * 256 =
      (address.area.toNat * 16 + address.line.toNat) * 256 := by
    have joined := Nat.shiftLeft_add_eq_or_of_lt (i := 12)
      (show address.line.toNat * 256 < 2 ^ 12 by omega) address.area.toNat
    simp only [Nat.shiftLeft_eq, Nat.reducePow] at joined
    omega
  have lower := Nat.shiftLeft_add_eq_or_of_lt (i := 8) device
    (address.area.toNat * 16 + address.line.toNat)
  simp only [Nat.shiftLeft_eq, Nat.reducePow] at lower
  rw [encode, UInt16.toNat_or, UInt16.toNat_or, high, middle, toNat_toUInt16, upper, ← lower]
  omega

theorem decode_encode : decode address.encode = address := by
  obtain ⟨area, line⟩ := address.bounds
  have device := address.device.toNat_lt
  have number := address.encode_toNat
  have sameArea : (decode address.encode).area = address.area := by
    apply UInt8.toNat_inj.mp
    rw [decode, nibble_toNat, UInt16.toNat_shiftRight, number, Nat.shiftRight_eq_div_pow]
    show _ / 2 ^ 12 % 16 = address.area.toNat
    omega
  have sameLine : (decode address.encode).line = address.line := by
    apply UInt8.toNat_inj.mp
    rw [decode, nibble_toNat, UInt16.toNat_shiftRight, number, Nat.shiftRight_eq_div_pow]
    show _ / 2 ^ 8 % 16 = address.line.toNat
    omega
  have sameDevice : (decode address.encode).device = address.device := by
    apply UInt8.toNat_inj.mp
    show (address.encode &&& 0xFF).toUInt8.toNat = address.device.toNat
    rw [UInt16.toNat_toUInt8, UInt16.toNat_and, number]
    show ((_ : Nat) &&& (2 ^ 8 - 1)) % 2 ^ 8 = address.device.toNat
    rw [Nat.and_two_pow_sub_one_eq_mod]
    omega
  rw [IndividualAddress.ext_iff]
  exact ⟨sameArea, sameLine, sameDevice⟩

end IndividualAddress

structure GroupAddress where
  raw : UInt16
deriving DecidableEq

def GroupAddress.fromRaw (raw : UInt16) : GroupAddress := ⟨raw⟩

inductive AddressType where
  | individual | group
deriving DecidableEq

def AddressType.fromBit (bit : Bool) : AddressType := if bit then .group else .individual

end Mabinogion.Knx
