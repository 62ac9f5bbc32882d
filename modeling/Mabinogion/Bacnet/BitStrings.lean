import Mabinogion.Bacnet.PrimitiveCodec

/-!
# Bit strings

The encoder packs bits from the top of each byte and pads the last byte; the
decoder reads them back, and underflows where the unused-bits byte claims more
bits than there are to leave out.
-/

namespace Mabinogion.Bacnet

open Checked UInt8
open List (length_cons length_nil range)

variable (bits : List Bool)

variable (byte : UInt8)

namespace ApduDecoder

section

/-- Bit `j` of a byte, counted from the top. -/
def topBit (byte : UInt8) (j : Nat) : Bool := (byte &&& (1 <<< UInt8.ofNat (7 - j))) != 0

/-- The bits of bytes of which only the last has unused ones. -/
def unpackBits (unusedBits : Nat) : Bytes → List Bool
  | [] => []
  | [byte] => (List.range (8 - unusedBits)).map (topBit byte)
  | byte :: bytes => (List.range 8).map (topBit byte) ++ unpackBits unusedBits bytes

variable (count unusedBits : Nat) (bytes : Bytes)

theorem unpackBits_cons (byte : UInt8) (bytes : Bytes) (more : bytes ≠ []) :
    unpackBits unusedBits (byte :: bytes) =
      (range 8).map (topBit byte) ++ unpackBits unusedBits bytes := by
  cases bytes with
  | nil => exact absurd rfl more
  | cons => rfl

theorem bitsOfByte_ok (whole : count ≤ 8) (decoder : ApduDecoder) :
    bitsOfByte byte count decoder = .ok ((range count).map (topBit byte)) decoder := by
  apply visitAll_ok
  intro j member
  have below : j < count := List.mem_range.mp member
  rw [bind_ok (checkedSub_ok decoder (by omega)), testBit, if_pos (by omega)]
  rfl

theorem bitsOfBytes_ok (fits : unusedBits ≤ 8) (index : Nat) (bytes : Bytes)
    (position : index + bytes.length = count) (decoder : ApduDecoder) :
    bitsOfBytes count unusedBits index bytes decoder =
      .ok (unpackBits unusedBits bytes) decoder := by
  induction bytes generalizing index with
  | nil => rfl
  | cons byte bytes ih =>
    rw [length_cons] at position
    have rest := ih (index + 1) (by omega)
    rw [bitsOfBytes, bind_ok (checkedSub_ok decoder (by omega))]
    cases bytes with
    | nil =>
      have single : bitsInByte index (count - 1) unusedBits decoder =
          .ok (8 - unusedBits) decoder := by
        rw [length_nil] at position
        rw [bitsInByte, if_pos (by omega), checkedSub_ok decoder fits]
      rw [bind_ok single, bind_ok (bitsOfByte_ok byte _ (by omega) decoder),
        bind_ok rest, unpackBits, unpackBits, List.append_nil]
      rfl
    | cons next bytes =>
      rw [length_cons] at position
      have full : bitsInByte index (count - 1) unusedBits decoder = .ok 8 decoder := by
        rw [bitsInByte, if_neg (by omega)]
        rfl
      rw [bind_ok full, bind_ok (bitsOfByte_ok byte 8 (le_refl 8) decoder),
        bind_ok rest, unpackBits_cons _ _ _ (List.cons_ne_nil next bytes)]
      rfl

theorem bitsOfBytes_underflow (tooMany : 8 < unusedBits) (index : Nat) (bytes : Bytes)
    (some : bytes ≠ []) (position : index + bytes.length = count) (decoder : ApduDecoder) :
    bitsOfBytes count unusedBits index bytes decoder = .fault .underflow := by
  induction bytes generalizing index with
  | nil => exact absurd rfl some
  | cons byte bytes ih =>
    rw [length_cons] at position
    rw [bitsOfBytes, bind_ok (checkedSub_ok decoder (by omega))]
    cases bytes with
    | nil =>
      rw [length_nil] at position
      apply bind_fault
      rw [bitsInByte, if_pos (by omega), checkedSub_underflow decoder tooMany]
    | cons next bytes =>
      have rest := ih (index + 1) (List.cons_ne_nil next bytes) (by omega)
      rw [length_cons] at position
      have full : bitsInByte index (count - 1) unusedBits decoder = .ok 8 decoder := by
        rw [bitsInByte, if_neg (by omega)]
        rfl
      rw [bind_ok full, bind_ok (bitsOfByte_ok byte 8 (le_refl 8) decoder), bind_fault rest]

/-- More unused bits than the last byte has, or any without a byte. -/
def UnusedBitsTooMany (bytes unusedBits : Nat) : Prop :=
  if bytes = 0 then 0 < unusedBits else 8 < unusedBits

theorem bits_after_bytes_ok
    (fits : ¬UnusedBitsTooMany bytes.length unusedBits) (decoder : ApduDecoder) :
    ((checkedSub (bytes.length * 8) unusedBits : Decode ApduError Nat) >>= fun _ =>
        bitsOfBytes bytes.length unusedBits 0 bytes) decoder =
      .ok (unpackBits unusedBits bytes) decoder := by
  unfold UnusedBitsTooMany at fits
  have within : unusedBits ≤ 8 ∧ unusedBits ≤ bytes.length * 8 := by
    split_ifs at fits <;> omega
  rw [bind_ok (checkedSub_ok decoder within.2),
    bitsOfBytes_ok _ _ within.1 0 bytes (Nat.zero_add _)]

theorem bits_after_bytes_underflow
    (tooMany : UnusedBitsTooMany bytes.length unusedBits) (decoder : ApduDecoder) :
    ((checkedSub (bytes.length * 8) unusedBits : Decode ApduError Nat) >>= fun _ =>
        bitsOfBytes bytes.length unusedBits 0 bytes) decoder = .fault .underflow := by
  unfold UnusedBitsTooMany at tooMany
  by_cases short : bytes.length * 8 < unusedBits
  · exact bind_fault (checkedSub_underflow decoder short)
  · rw [bind_ok (checkedSub_ok decoder (Nat.le_of_not_lt short))]
    have some : bytes ≠ [] := by
      rintro rfl
      simp at tooMany short
      omega
    have counted : bytes.length ≠ 0 := fun none => some (List.length_eq_zero_iff.mp none)
    rw [if_neg counted] at tooMany
    exact bitsOfBytes_underflow _ _ tooMany 0 bytes some (Nat.zero_add _) decoder

end

section

open ApduEncoder

def fillByte (byte : UInt8) (place : Nat) : List Bool → UInt8
  | [] => byte
  | bit :: bits =>
    fillByte (if bit then byte ||| (1 <<< UInt8.ofNat (7 - place)) else byte) (place + 1) bits

variable (total place j : Nat)

/-- The encoder's loop over the bits of one byte. -/
theorem packBits_byte (chunk rest : List Bool) (index : Nat) (byte : UInt8) (some : chunk ≠ [])
    (oneByte : index % 8 + chunk.length ≤ 8) (inside : index + chunk.length ≤ total)
    (ends : (index + chunk.length) % 8 = 0 ∨ index + chunk.length = total) :
    packBits total (chunk ++ rest) index byte =
      fillByte byte (index % 8) chunk :: packBits total rest (index + chunk.length) 0 := by
  induction chunk generalizing index byte with
  | nil => exact absurd rfl some
  | cons bit chunk ih =>
    rw [length_cons] at oneByte inside ends
    rw [List.cons_append, packBits, fillByte]
    cases chunk with
    | nil =>
      rw [length_nil] at ends inside
      rw [if_pos (by omega)]
      rfl
    | cons next chunk =>
      rw [length_cons] at oneByte inside
      rw [if_neg (by omega), ih (index + 1) _ (List.cons_ne_nil next chunk)
        (by rw [length_cons]; omega) (by rw [length_cons]; omega)
        (by rw [length_cons] at ends ⊢; omega)]
      have place : (index + 1) % 8 = index % 8 + 1 := by omega
      have position : index + 1 + (next :: chunk).length = index + (next :: chunk).length + 1 := by
        omega
      rw [place, position, length_cons]
      rfl

theorem mask_toNat (inByte : place < 8) :
    (1 <<< ofNat (7 - place) : UInt8).toNat = 2 ^ (7 - place) := by
  have table : ∀ a : Fin 8, (1 <<< ofNat (7 - a) : UInt8).toNat = 2 ^ (7 - a.val) := by
    decide
  exact table ⟨place, inByte⟩

theorem topBit_eq_testBit (inByte : j < 8) : topBit byte j = byte.toNat.testBit (7 - j) :=
    by
  have masked : (byte &&& (1 <<< ofNat (7 - j))).toNat =
      (byte.toNat.testBit (7 - j)).toNat * 2 ^ (7 - j) := by
    rw [UInt8.toNat_and, mask_toNat j inByte, Nat.and_two_pow]
  unfold topBit
  cases bit : byte.toNat.testBit (7 - j) with
  | false =>
    rw [bit, Bool.toNat_false, Nat.zero_mul] at masked
    have zero : byte &&& (1 <<< ofNat (7 - j)) = 0 := UInt8.toNat_inj.mp masked
    rw [zero]
    rfl
  | true =>
    rw [bit, Bool.toNat_true, Nat.one_mul] at masked
    apply bne_iff_ne.mpr
    intro zero
    rw [zero] at masked
    exact absurd masked.symm (pow_ne_zero _ (by decide))

theorem topBit_set (inByte : place < 8) (below : j < 8) :
    topBit (byte ||| (1 <<< ofNat (7 - place))) j = (topBit byte j || decide (place = j)) := by
  have same : (7 - place = 7 - j) = (place = j) := by
    apply propext
    omega
  rw [topBit_eq_testBit _ j below, topBit_eq_testBit _ j below, UInt8.toNat_or,
    mask_toNat place inByte, Nat.testBit_or, Nat.testBit_two_pow]
  simp only [same]

theorem fillByte_above (oneByte : place + bits.length ≤ 8) (above : j < place) :
    topBit (fillByte byte place bits) j = topBit byte j := by
  induction bits generalizing byte place with
  | nil => rfl
  | cons bit bits ih =>
    rw [length_cons] at oneByte
    rw [fillByte, ih _ (place + 1) (by omega) (by omega)]
    cases bit with
    | false => rfl
    | true =>
      rw [if_pos rfl, topBit_set byte place j (by omega) (by omega),
        decide_eq_false (by omega), Bool.or_false]

theorem fillByte_read (oneByte : place + bits.length ≤ 8)
    (clear : ∀ j, place ≤ j → j < 8 → topBit byte j = false) :
    (List.range' place bits.length).map (topBit (fillByte byte place bits)) = bits := by
  induction bits generalizing byte place with
  | nil => rfl
  | cons bit bits ih =>
    rw [length_cons] at oneByte ⊢
    rw [List.range'_succ, List.map_cons, fillByte, fillByte_above bits _ (place + 1) place
      (by omega) (Nat.lt_succ_self place), ih _ (place + 1) (by omega)]
    · have unset := clear place (le_refl place) (by omega)
      cases bit with
      | false => rw [if_neg Bool.false_ne_true, unset]
      | true => rw [if_pos rfl, topBit_set byte place place (by omega) (by omega), unset,
          decide_eq_true rfl, Bool.false_or]
    · intro j later inByte
      have unset := clear j (by omega) inByte
      cases bit with
      | false => exact unset
      | true => rw [if_pos rfl, topBit_set byte place j (by omega) inByte, unset,
          decide_eq_false (by omega), Bool.false_or]

theorem fillByte_read_whole (oneByte : bits.length ≤ 8) :
    (range bits.length).map (topBit (fillByte 0 0 bits)) = bits := by
  have zero : ∀ j, topBit 0 j = false := fun j => by simp [topBit]
  rw [List.range_eq_range']
  exact fillByte_read bits 0 0 (by omega) fun j _ _ => zero j

theorem unpackBits_packBits (bits : List Bool) (index : Nat) (aligned : index % 8 = 0)
    (inside : index + bits.length = total) :
    (packBits total bits index 0).length =
      (bits.length + 7) / 8 ∧ unpackBits ((8 - bits.length % 8) % 8) (packBits total bits index 0) =
      bits := by
  induction size : bits.length using Nat.strong_induction_on generalizing bits index with
  | _ size ih =>
    subst size
    by_cases none : bits = []
    · subst none
      exact ⟨rfl, rfl⟩
    have counted : bits.length ≠ 0 := fun zero => none (List.length_eq_zero_iff.mp zero)
    by_cases oneByte : bits.length ≤ 8
    · have packed := packBits_byte total bits [] index 0 none (by omega) (by omega) (Or.inr inside)
      rw [List.append_nil, aligned] at packed
      rw [packed]
      have used : 8 - (8 - bits.length % 8) % 8 = bits.length := by omega
      refine ⟨?_, ?_⟩
      · change 1 = _
        omega
      · change (range (8 - (8 - bits.length % 8) % 8)).map _ = bits
        rw [used]
        exact fillByte_read_whole bits oneByte
    · have first : (bits.take 8).length = 8 := List.length_take_of_le (by omega)
      have rest : (bits.drop 8).length = bits.length - 8 := List.length_drop
      have packed := packBits_byte total (bits.take 8) (bits.drop 8) index 0
        (by intro empty; rw [empty] at first; simp at first) (by omega) (by omega)
        (by omega)
      rw [List.take_append_drop, aligned, first] at packed
      obtain ⟨length, unpacked⟩ := ih (bits.length - 8) (by omega) (bits.drop 8) (index + 8)
        (by omega) (by omega) rest
      have more : packBits total (bits.drop 8) (index + 8) 0 ≠ [] := by
        intro empty
        rw [empty, length_nil] at length
        omega
      have unused : (8 - (bits.length - 8) % 8) % 8 = (8 - bits.length % 8) % 8 := by omega
      have whole := fillByte_read_whole (bits.take 8) (by omega)
      rw [first] at whole
      rw [packed, unpackBits_cons _ _ _ more, whole, ← unused, unpacked, length_cons, length,
        List.take_append_drop]
      exact ⟨by omega, rfl⟩

theorem unusedByte_toNat :
    (ofNat ((8 - bits.length % 8) % 8)).toNat = (8 - bits.length % 8) % 8 :=
  toNat_ofNat_of_lt' (show _ < 256 by omega)

theorem decodes_decodeBitString : Decodes Anything (decodeBitString ((bits.length + 7) / 8 + 1))
    (ofNat ((8 - bits.length % 8) % 8) :: packBits bits.length bits 0 0) bits := by
  obtain ⟨length, unpacked⟩ := unpackBits_packBits bits.length bits 0 rfl (Nat.zero_add _)
  rw [decodeBitString, if_neg (Nat.succ_ne_zero _), Nat.add_sub_cancel]
  apply (decodes_readU8 _).andThen
  have read := decodes_readBytes (packBits bits.length bits 0 0)
  rw [length] at read
  apply read.finish
  intro decoder
  rw [unusedByte_toNat, bits_after_bytes_ok _ _ ?_ decoder, unpacked]
  rw [UnusedBitsTooMany, length]
  split_ifs <;> omega

end

end ApduDecoder

end Mabinogion.Bacnet
