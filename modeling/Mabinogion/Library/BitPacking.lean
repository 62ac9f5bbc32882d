import Mathlib.Data.List.GetD

/-!
# Bits in bytes

Bits are numbered from the low end of the first byte. Two byte strings of one
length with the same bits are the same, which is how packings are compared.
-/

namespace BitPacking

open BitVec UInt8

def setBit (byte : UInt8) (bit : Nat) : UInt8 := byte ||| (1 <<< ofNat bit)

def testBit (byte : UInt8) (bit : Nat) : Bool := (byte &&& (1 <<< ofNat bit)) != 0

def byteOf (bits : Nat → Bool) : UInt8 :=
  (List.range 8).foldl (fun byte bit => if bits bit then setBit byte bit else byte) 0

def bitAt (bytes : List UInt8) (index : Nat) : Bool :=
  (bytes.getD (index / 8) 0).toBitVec.getLsbD (index % 8)

/-- As many bytes as the values need, the values in order and no bit behind them. -/
def pack (values : List Bool) : List UInt8 :=
  (List.range ((values.length + 7) / 8)).map fun byte =>
    byteOf fun bit => values.getD (8 * byte + bit) false

def unpack (bytes : List UInt8) (count : Nat) : List Bool := (List.range count).map (bitAt bytes)

section

variable (bits : Nat → Bool) (byte : UInt8) {bit : Nat}

theorem getLsbD_one_shiftLeft (small : bit < 8) (index : Nat) :
    ((1 : UInt8) <<< ofNat bit).toBitVec.getLsbD index = decide (index = bit) := by
  have table : ∀ bit index : Fin 8,
      ((1 : UInt8) <<< ofNat bit).toBitVec.getLsbD index = decide (index.val = bit.val) := by
    decide
  by_cases inside : index < 8
  · exact table ⟨bit, small⟩ ⟨index, inside⟩
  · have different : index ≠ bit := by omega
    rw [getLsbD_of_ge _ _ (Nat.not_lt.mp inside), decide_eq_false different]

theorem getLsbD_setBit (small : bit < 8) (index : Nat) : (setBit byte bit).toBitVec.getLsbD index =
      (byte.toBitVec.getLsbD index || decide (index = bit)) := by
  rw [setBit, UInt8.toBitVec_or, getLsbD_or, getLsbD_one_shiftLeft small]

theorem testBit_eq (small : bit < 8) : testBit byte bit = byte.toBitVec.getLsbD bit := by
  have single (index : Nat) : (byte &&& (1 <<< UInt8.ofNat bit)).toBitVec.getLsbD index =
      (byte.toBitVec.getLsbD index && decide (index = bit)) := by
    rw [UInt8.toBitVec_and, getLsbD_and, getLsbD_one_shiftLeft small]
  cases set : byte.toBitVec.getLsbD bit with
  | true =>
    rw [testBit, bne_iff_ne]
    intro zero
    have here := single bit
    rw [zero, set, decide_eq_true rfl] at here
    simp at here
  | false =>
    have zero : byte &&& (1 <<< UInt8.ofNat bit) = 0 := by
      apply UInt8.toBitVec_inj.mp
      apply eq_of_getLsbD_eq
      intro index _
      rw [single]
      by_cases same : index = bit
      · simp [same, set]
      · simp [same]
    rw [testBit, zero]
    rfl

theorem getLsbD_foldl_setBit {count : Nat} (small : count ≤ 8)
    (index : Nat) : ((List.range count).foldl
      (fun byte bit => if bits bit then setBit byte bit else byte) 0).toBitVec.getLsbD index =
        (decide (index < count) && bits index) := by
  induction count with
  | zero => simp
  | succ count ih =>
    rw [List.range_succ, List.foldl_append, List.foldl_cons, List.foldl_nil]
    by_cases here : index = count
    · subst here
      cases set : bits index with
      | true => simp [getLsbD_setBit _ small]
      | false => simp [ih (Nat.le_of_succ_le small)]
    · have below : index < count + 1 ↔ index < count := by omega
      cases set : bits count with
      | true => simp [getLsbD_setBit _ small, ih (Nat.le_of_succ_le small), here, below]
      | false => simp [ih (Nat.le_of_succ_le small), below]

theorem getLsbD_byteOf {index : Nat} (small : index < 8) :
    (byteOf bits).toBitVec.getLsbD index = bits index := by
  rw [byteOf, getLsbD_foldl_setBit bits (Nat.le_refl 8), decide_eq_true small, Bool.true_and]

end

theorem bitAt_eq_testBit (bytes : List UInt8) (index : Nat) :
    bitAt bytes index = testBit (bytes.getD (index / 8) 0) (index % 8) :=
  (testBit_eq _ (Nat.mod_lt _ (by decide))).symm

theorem eq_of_bitAt {left right : List UInt8} (length : left.length = right.length)
    (bits : ∀ index, bitAt left index = bitAt right index) : left = right := by
  apply List.ext_getElem length
  intro byte inside other
  apply UInt8.toBitVec_inj.mp
  apply eq_of_getLsbD_eq
  intro bit small
  have here := bits (8 * byte + bit)
  have quotient : (8 * byte + bit) / 8 = byte := by omega
  have remainder : (8 * byte + bit) % 8 = bit := by omega
  rwa [bitAt, bitAt, quotient, remainder, List.getD_eq_getElem _ _ inside,
    List.getD_eq_getElem _ _ other] at here

theorem length_pack (values : List Bool) : (pack values).length = (values.length + 7) / 8 := by
  simp [pack]

theorem bitAt_pack (values : List Bool) (index : Nat) :
    bitAt (pack values) index = values.getD index false := by
  have small : index % 8 < 8 := Nat.mod_lt _ (by decide)
  have position : 8 * (index / 8) + index % 8 = index := Nat.div_add_mod index 8
  by_cases inside : index / 8 < (values.length + 7) / 8
  · have here : (pack values).getD (index / 8) 0 =
        byteOf fun bit => values.getD (8 * (index / 8) + bit) false := by
      simp [pack, List.getD_eq_getElem?_getD, inside]
    rw [bitAt, here, getLsbD_byteOf _ small, position]
  · have behind : values.length ≤ index := by omega
    have past : (pack values).length ≤ index / 8 := by
      rw [length_pack]
      exact Nat.not_lt.mp inside
    rw [bitAt, List.getD_eq_default _ _ past, List.getD_eq_default _ _ behind]
    simp

theorem bitAt_set_setBit {bytes : List UInt8} {position : Nat}
    (inside : position / 8 < bytes.length)
    (index : Nat) :
    bitAt (bytes.set (position / 8) (setBit (bytes.getD (position / 8) 0) (position % 8))) index =
      (bitAt bytes index || decide (index = position)) := by
  have small : position % 8 < 8 := Nat.mod_lt _ (by decide)
  by_cases here : position / 8 = index / 8
  · have same : index % 8 = position % 8 ↔ index = position := by omega
    have now : (bytes.set (position / 8)
        (setBit (bytes.getD (position / 8) 0) (position % 8))).getD (index / 8) 0 =
          setBit (bytes.getD (index / 8) 0) (position % 8) := by
      rw [← here, List.getD_eq_getElem?_getD, List.getElem?_set_self inside]
      rfl
    rw [bitAt, now, getLsbD_setBit _ small, bitAt]
    simp only [same]
  · have different : index ≠ position := by
      intro equal
      exact here (by rw [equal])
    have now : (bytes.set (position / 8)
        (setBit (bytes.getD (position / 8) 0) (position % 8))).getD (index / 8) 0 =
          bytes.getD (index / 8) 0 := by
      rw [List.getD_eq_getElem?_getD, List.getElem?_set_ne here, ← List.getD_eq_getElem?_getD]
    rw [bitAt, now, bitAt, decide_eq_false different, Bool.or_false]

end BitPacking
