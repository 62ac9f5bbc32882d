import Mabinogion.Bacnet.Decoding
import Mabinogion.Library.Utf8

/-!
# Tags and primitive values read back

What the decoder's methods return on the bytes that the encoder's methods
append, wherever these bytes stand in the data.
-/

namespace Mabinogion.Bacnet

open Checked BigEndian UInt8 UInt32

variable (value : UInt32)

variable {bytes : Bytes}

namespace ApduDecoder

/-- The decoder after the consumed bytes, with the rest ahead. -/
def between (consumed rest : Bytes) : ApduDecoder :=
  ⟨consumed ++ rest, consumed.length, by simp⟩

@[simp] theorem peek_between (consumed rest : Bytes) :
    (between consumed rest).peek = rest.head? := by
  rw [peek, between, List.getElem?_append_right (le_refl _), Nat.sub_self, List.head?_eq_getElem?]

@[simp] theorem isEmpty_between (consumed rest : Bytes) :
    (between consumed rest).isEmpty = rest.isEmpty := by
  cases rest with
  | nil | cons => simp [isEmpty, between]

/-- Whatever follows, the computation reads exactly the bytes and returns the value. -/
def Decodes {Error Value : Type} (follow : Bytes → Prop)
    (computation : Decode Error Value) (bytes : Bytes) (value : Value) : Prop :=
  ∀ consumed rest, follow rest → computation (between consumed (bytes ++ rest)) =
    .ok value (between (consumed ++ bytes) rest)

abbrev Anything (_rest : Bytes) : Prop := True

section

variable {Error Other Value Result : Type} {follow : Bytes → Prop}

theorem decodes_pure (value : Value) :
    Decodes follow (pure value : Decode Error Value) [] value := by
  intro consumed rest _
  rw [List.append_nil]
  rfl

theorem decodes_failIf {condition : Bool} (error : Error) (passes : condition = false) :
    Decodes follow (failIf condition error : Decode Error Unit) [] () := by
  rw [passes]
  exact decodes_pure ()

variable {value : Value} {result : Result}

variable {next : Value → Decode Error Result}

theorem Decodes.bind {ahead : Bytes → Prop} {first : Decode Error Value} {bytes more : Bytes}
    (left : Decodes ahead first bytes value)
    (right : Decodes follow (next value) more result)
    (follows : ∀ rest, follow rest → ahead (more ++ rest)) :
    Decodes follow (first >>= next) (bytes ++ more) result := by
  intro consumed rest allowed
  rw [List.append_assoc, bind_ok (left consumed (more ++ rest) (follows rest allowed)),
    right (consumed ++ bytes) rest allowed, List.append_assoc]

variable {computation first : Decode Error Value}

/-- Most computations do not depend on what follows. -/
theorem Decodes.andThen {bytes more : Bytes}
    (left : Decodes Anything first bytes value) (right : Decodes follow (next value) more result) :
    Decodes follow (first >>= next) (bytes ++ more) result :=
  left.bind right fun _ _ => trivial

/-- What comes after the bytes reads nothing more. -/
theorem Decodes.lastly (left : Decodes Anything first bytes value)
    (right : Decodes follow (next value) [] result) :
    Decodes follow (first >>= next) bytes result := by
  have whole := left.andThen right
  rwa [List.append_nil] at whole

theorem Decodes.finish (left : Decodes follow first bytes value)
    (right : ∀ decoder, next value decoder = .ok result decoder) :
    Decodes follow (first >>= next) bytes result := by
  intro consumed rest allowed
  rw [bind_ok (left consumed rest allowed), right]

theorem Decodes.map (decodes : Decodes follow computation bytes value) (view : Value → Result) :
    Decodes follow (computation >>= fun value => pure (view value)) bytes (view value) :=
  decodes.finish fun _ => rfl

theorem Decodes.gets {view : ApduDecoder → Value}
    (sees : ∀ consumed rest, follow rest → view (between consumed (bytes ++ rest)) = value)
    (right : Decodes follow (next value) bytes result) :
    Decodes follow (Checked.gets view >>= next) bytes result := by
  intro consumed rest allowed
  have seen : (Checked.gets view : Decode Error Value) (between consumed (bytes ++ rest)) =
      .ok value (between consumed (bytes ++ rest)) := by
    rw [gets_apply, sees consumed rest allowed]
  rw [bind_ok seen, right consumed rest allowed]

theorem Decodes.mapErr (decodes : Decodes follow computation bytes value)
    (convert : Error → Other) :
    Decodes follow (mapErr convert computation) bytes value :=
  fun consumed rest allowed => mapErr_ok _ _ convert (decodes consumed rest allowed)

theorem Decodes.attempt (decodes : Decodes follow computation bytes value) :
    Decodes follow (attempt computation : Decode Other (Except Error Value)) bytes
      (.ok value) :=
  fun consumed rest allowed => attempt_ok _ _ (decodes consumed rest allowed)

theorem decodes_returned (decodes : Decodes follow computation bytes value) (ends : follow []) :
    (computation (.new bytes)).returned = some (.ok value) := by
  have ran := decodes [] [] ends
  rw [List.append_nil] at ran
  change (computation (between [] bytes)).returned = _
  rw [ran]
  rfl

end

theorem decodes_readU8 (byte : UInt8) : Decodes Anything readU8 [byte] byte := by
  intro consumed rest _
  simp [readU8, between]

theorem decodes_readBytes (bytes : Bytes) :
    Decodes Anything (readBytes bytes.length) bytes bytes := by
  intro consumed rest _
  simp [readBytes, between]

theorem decodes_readArray (bytes : Bytes) :
    Decodes Anything (readArray bytes.length) bytes bytes := by
  rw [readArray_eq]
  exact decodes_readBytes bytes

section

theorem tag_byte_halves (high low : UInt8) (fitsHigh : high < 16) (fitsLow : low < 16) :
    (((high <<< 4) ||| low) >>> 4) &&& 0x0F = high ∧
      ((high <<< 4) ||| low) &&& 0x08 = low &&& 0x08 ∧
      ((high <<< 4) ||| low) &&& 0x07 = low &&& 0x07 := by
  have table : ∀ a b : Fin 16,
      (((UInt8.ofNat a <<< 4) ||| UInt8.ofNat b) >>> 4) &&& 0x0F = UInt8.ofNat a ∧
      ((UInt8.ofNat a <<< 4) ||| UInt8.ofNat b) &&& 0x08 = UInt8.ofNat b &&& 0x08 ∧
      ((UInt8.ofNat a <<< 4) ||| UInt8.ofNat b) &&& 0x07 = UInt8.ofNat b &&& 0x07 := by
    decide
  have entry := table ⟨high.toNat, fitsHigh⟩ ⟨low.toNat, fitsLow⟩
  rwa [UInt8.ofNat_toNat, UInt8.ofNat_toNat] at entry

theorem inline_length_byte (len : Nat) (inline : len < 5) :
    UInt8.ofNat len < 5 ∧ UInt8.ofNat len < 16 ∧ UInt8.ofNat len &&& 0x08 = 0 ∧
      UInt8.ofNat len &&& 0x07 = UInt8.ofNat len ∧ (UInt8.ofNat len).toNat = len := by
  have table : ∀ a : Fin 5, UInt8.ofNat a < 5 ∧ UInt8.ofNat a < 16 ∧ UInt8.ofNat a &&& 0x08 = 0 ∧
      UInt8.ofNat a &&& 0x07 = UInt8.ofNat a ∧ (UInt8.ofNat a).toNat = a := by
    decide
  exact table ⟨len, inline⟩

theorem context_length_byte (len : Nat) (inline : len < 5) :
    (0x08 ||| UInt8.ofNat len) < 16 ∧ (0x08 ||| UInt8.ofNat len) &&& 0x08 = 0x08 ∧
      (0x08 ||| UInt8.ofNat len) &&& 0x07 = UInt8.ofNat len := by
  have table : ∀ a : Fin 5, (0x08 ||| UInt8.ofNat a) < 16 ∧
      (0x08 ||| UInt8.ofNat a) &&& 0x08 = 0x08 ∧
      (0x08 ||| UInt8.ofNat a) &&& 0x07 = UInt8.ofNat a := by
    decide
  exact table ⟨len, inline⟩

end

section

open ApduEncoder

theorem shifted_byte (places : UInt32) (few : places.toNat < 32) :
    (value >>> places).toUInt8 = UInt8.ofNat (value.toNat / 2 ^ places.toNat) := by
  apply UInt8.toNat_inj.mp
  rw [UInt32.toNat_toUInt8, UInt32.toNat_shiftRight, Nat.mod_eq_of_lt few,
    Nat.shiftRight_eq_div_pow,
    UInt8.toNat_ofNat']

theorem decodeUnsignedRaw_bytes (width : Nat) (value : UInt32) (fits : value.toNat < 256 ^ width) :
    decodeUnsignedRaw (BigEndian.bytes width value.toNat) = value := by
  apply UInt32.toNat_inj.mp
  rw [decodeUnsignedRaw, BigEndian.accumulate_toNat, BigEndian.value_bytes_of_lt _ _ fits]
  have zero : (0 : UInt32).toNat = 0 := rfl
  rw [zero, Nat.zero_mul, Nat.zero_add, Nat.mod_eq_of_lt value.toNat_lt]

theorem minimalBytes_eq : ∃ width, 1 ≤ width ∧ width ≤ 4 ∧ minimalBytes value =
      BigEndian.bytes width value.toNat ∧ value.toNat < 256 ^ width := by
  unfold minimalBytes
  split_ifs with one two three
  · refine ⟨1, by omega, by omega, ?_, UInt32.lt_iff_toNat_lt.mp one⟩
    simp [BigEndian.bytes]
  · refine ⟨2, by omega, by omega, ?_, UInt32.lt_iff_toNat_lt.mp two⟩
    simp [BigEndian.bytes, shifted_byte]
  · refine ⟨3, by omega, by omega, ?_, UInt32.lt_iff_toNat_lt.mp three⟩
    simp [BigEndian.bytes, shifted_byte]
  · refine ⟨4, by omega, by omega, ?_, value.toNat_lt⟩
    simp [BigEndian.bytes, shifted_byte]

theorem contextEnumeratedBytes_eq : ∃ width, 1 ≤ width ∧ width ≤ 4 ∧ contextEnumeratedBytes value =
      BigEndian.bytes width value.toNat ∧ value.toNat < 256 ^ width := by
  unfold contextEnumeratedBytes
  split_ifs with one two
  · refine ⟨1, by omega, by omega, ?_, UInt32.lt_iff_toNat_lt.mp one⟩
    simp [BigEndian.bytes]
  · refine ⟨2, by omega, by omega, ?_, UInt32.lt_iff_toNat_lt.mp two⟩
    simp [BigEndian.bytes, shifted_byte]
  · refine ⟨4, by omega, by omega, ?_, value.toNat_lt⟩
    simp [BigEndian.bytes, shifted_byte]

theorem sign_bit (byte : UInt8) : byte &&& 0x80 ≠ 0 ↔ 128 ≤ byte.toNat := by
  have table : ∀ a : Fin 256, UInt8.ofNat a &&& 0x80 ≠ 0 ↔ 128 ≤ a.val := by
    decide +kernel
  have entry := table ⟨byte.toNat, byte.toNat_lt⟩
  rwa [UInt8.ofNat_toNat] at entry

theorem signed_accumulation (bytes : Bytes) (start : Int32) :
    (bytes.foldl (fun (value : Int32) byte => (value <<< 8) ||| byte.toUInt32.toInt32)
      start).toUInt32 =
      bytes.foldl (fun (value : UInt32) byte => (value <<< 8) ||| byte.toUInt32)
        start.toUInt32 := by
  induction bytes generalizing start with
  | nil => rfl
  | cons byte bytes ih =>
    rw [List.foldl_cons, List.foldl_cons, ih]
    rfl

theorem toUInt32_toInt (value : Int32) :
    (value.toUInt32.toNat : Int) = if value.toInt < 0 then value.toInt + 2 ^ 32 else value.toInt := by
  have bits : value.toInt = if 2 * value.toUInt32.toNat < 2 ^ 32 then
      (value.toUInt32.toNat : Int) else value.toUInt32.toNat - 2 ^ 32 :=
    BitVec.toInt_eq_toNat_cond value.toBitVec
  have bound := value.toUInt32.toNat_lt
  split_ifs at bits ⊢ <;> omega

theorem signedLength_eq (value : Int32) : signedLength value =
    if -128 ≤ value.toInt ∧ value.toInt < 128 then 1
    else if -32768 ≤ value.toInt ∧ value.toInt < 32768 then 2
    else if -8388608 ≤ value.toInt ∧ value.toInt < 8388608 then 3
    else 4 := by
  unfold signedLength
  simp only [ge_iff_le, Int32.le_iff_toInt_le, Int32.lt_iff_toInt_lt]
  rfl

theorem signedLength_spec (value : Int32) : ∃ width, signedLength value = width + 1 ∧ width ≤ 3 ∧
    -(128 * 256 ^ width : Int) ≤ value.toInt ∧ value.toInt < 128 * 256 ^ width := by
  rw [signedLength_eq]
  split_ifs with one two three
  · exact ⟨0, rfl, by omega, one⟩
  · exact ⟨1, rfl, by omega, two⟩
  · exact ⟨2, rfl, by omega, three⟩
  · exact ⟨3, rfl, by omega, value.le_toInt, value.toInt_lt⟩

/-- The accumulation starts with the bits that the number has above its bytes. -/
theorem sign_extension (value : Int32) (width : Nat) (short : width ≤ 3)
    (low : -(128 * 256 ^ width : Int) ≤ value.toInt) (high : value.toInt < 128 * 256 ^ width) :
    let start : Int32 :=
      if UInt8.ofNat (value.toUInt32.toNat / 256 ^ width) &&& 0x80 ≠ 0 then -1 else 0
    (start.toUInt32.toNat * 256 ^ (width + 1) + value.toUInt32.toNat % 256 ^ (width + 1)) % 2 ^ 32 =
      value.toUInt32.toNat := by
  intro start
  have bits := toUInt32_toInt value
  have chosen : start.toUInt32.toNat = if value.toInt < 0 then 2 ^ 32 - 1 else 0 := by
    simp only [start, sign_bit, UInt8.toNat_ofNat']
    obtain rfl | rfl | rfl | rfl : width = 0 ∨ width = 1 ∨ width = 2 ∨ width = 3 := by omega
    all_goals
      split_ifs at bits ⊢ <;> first | rfl | omega
  rw [chosen]
  obtain rfl | rfl | rfl | rfl : width = 0 ∨ width = 1 ∨ width = 2 ∨ width = 3 := by omega
  all_goals
    split_ifs at bits ⊢ <;> omega

theorem decodes_decodeSigned (value : Int32) : Decodes Anything (decodeSigned (signedLength value))
      ((BigEndian.bytes 4 value.toUInt32.toNat).drop (4 - signedLength value)) value := by
  obtain ⟨width, length, short, low, high⟩ := signedLength_spec value
  rw [length, bytes_drop _ (by omega)]
  have read := decodes_readBytes (BigEndian.bytes (width + 1) value.toUInt32.toNat)
  rw [BigEndian.bytes_length] at read
  apply read.finish
  intro decoder
  let start : Int32 :=
    if UInt8.ofNat (value.toUInt32.toNat / 256 ^ width) &&& 0x80 ≠ 0 then -1 else 0
  have sameBits : ((BigEndian.bytes (width + 1) value.toUInt32.toNat).foldl
      (fun (total : Int32) byte => (total <<< 8) ||| byte.toUInt32.toInt32) start).toUInt32 =
        value.toUInt32 := by
    apply UInt32.toNat_inj.mp
    rw [signed_accumulation, BigEndian.accumulate_toNat, BigEndian.bytes_length, value_bytes]
    exact sign_extension value width short low high
  exact congrArg (fun bits : UInt32 => Outcome.ok bits.toInt32 decoder) sameBits

theorem decodeUnsignedRaw_minimalBytes : decodeUnsignedRaw (minimalBytes value) = value := by
  obtain ⟨width, _, _, bytes, fits⟩ := minimalBytes_eq value
  rw [bytes, decodeUnsignedRaw_bytes width value fits]

theorem decodes_minimalBytes :
    Decodes Anything (decodeUnsigned (minimalBytes value).length) (minimalBytes value) value := by
  have read := (decodes_readBytes (minimalBytes value)).map decodeUnsignedRaw
  rwa [decodeUnsignedRaw_minimalBytes] at read

theorem decodes_contextEnumeratedBytes : Decodes Anything
    (decodeUnsigned (contextEnumeratedBytes value).length) (contextEnumeratedBytes value) value :=
    by
  obtain ⟨width, _, _, bytes, fits⟩ := contextEnumeratedBytes_eq value
  have read := (decodes_readBytes (contextEnumeratedBytes value)).map decodeUnsignedRaw
  rwa [bytes, decodeUnsignedRaw_bytes width value fits, ← bytes] at read

theorem decodes_decodeReal (bits : UInt32) :
    Decodes Anything decodeReal (BigEndian.bytes 4 bits.toNat) bits := by
  have read := (decodes_readArray (BigEndian.bytes 4 bits.toNat)).map
    fun bytes => UInt32.ofNat (BigEndian.value bytes)
  rwa [BigEndian.bytes_length, BigEndian.value_bytes_of_lt 4 _ bits.toNat_lt,
    UInt32.ofNat_toNat] at read

theorem decodes_decodeDouble (bits : UInt64) :
    Decodes Anything decodeDouble (BigEndian.bytes 8 bits.toNat) bits := by
  have read := (decodes_readArray (BigEndian.bytes 8 bits.toNat)).map
    fun bytes => UInt64.ofNat (value bytes)
  rwa [bytes_length, value_bytes_of_lt 8 _ bits.toNat_lt, UInt64.ofNat_toNat] at read

end

section

open ApduEncoder

variable (text : String) (objectId : ObjectId)

theorem fromUTF8_utf8Bytes : String.fromUTF8? ⟨(utf8Bytes text).toArray⟩ = some text :=
  Utf8.text?_octets text

theorem decodes_decodeCharacterString :
    Decodes Anything (decodeCharacterString ((utf8Bytes text).length + 1))
      (0 :: utf8Bytes text) text := by
  rw [decodeCharacterString, if_neg (Nat.succ_ne_zero _), Nat.add_sub_cancel]
  apply (decodes_readU8 0).andThen
  apply (decodes_readBytes (utf8Bytes text)).finish
  intro decoder
  rw [fromUTF8_utf8Bytes]
  rfl

/-- Object identifiers that the decoder knows and the wire can hold. -/
def ObjectIdRecognised (objectId : ObjectId) : Prop :=
  ObjectType.fromU16 objectId.objectType.code = some objectId.objectType ∧
    objectId.instanceNumber ≤ 0x3FFFFF

theorem low_22_bits : (value &&& 0x3FFFFF).toNat = value.toNat % 2 ^ 22 := by
  rw [UInt32.toNat_and]
  exact Nat.and_two_pow_sub_one_eq_mod value.toNat 22

theorem objectType_code_lt (objectType : ObjectType) : objectType.code.toNat < 2 ^ 10 := by
  cases objectType <;> decide

theorem objectId_encode_toNat : objectId.encode.toNat =
      objectId.objectType.code.toNat * 2 ^ 22 + objectId.instanceNumber.toNat % 2 ^ 22 := by
  have fitsType := objectType_code_lt objectId.objectType
  have small : objectId.instanceNumber.toNat % 2 ^ 22 < 2 ^ 22 := Nat.mod_lt _ (by decide)
  rw [ObjectId.encode, UInt32.toNat_or, UInt32.toNat_shiftLeft, UInt16.toNat_toUInt32, low_22_bits]
  change (objectId.objectType.code.toNat <<< 22 % 2 ^ 32) ||| _ = _
  rw [Nat.shiftLeft_eq, Nat.mod_eq_of_lt (by omega), ← Nat.shiftLeft_eq,
    ← Nat.shiftLeft_add_eq_or_of_lt small, Nat.shiftLeft_eq]

theorem objectId_decode_encode (recognised : ObjectIdRecognised objectId) :
    ObjectId.decode objectId.encode = some objectId := by
  have fits : objectId.instanceNumber.toNat < 2 ^ 22 :=
    Nat.lt_succ_of_le (UInt32.le_iff_toNat_le.mp recognised.2)
  have fitsType := objectType_code_lt objectId.objectType
  have bits := objectId_encode_toNat objectId
  have typeBits : (objectId.encode >>> 22).toUInt16 = objectId.objectType.code := by
    apply UInt16.toNat_inj.mp
    rw [UInt32.toNat_toUInt16, UInt32.toNat_shiftRight]
    change objectId.encode.toNat >>> 22 % 2 ^ 16 = _
    rw [Nat.shiftRight_eq_div_pow, bits]
    omega
  have instanceBits : objectId.encode &&& 0x3FFFFF = objectId.instanceNumber := by
    apply UInt32.toNat_inj.mp
    rw [low_22_bits, bits]
    omega
  rw [ObjectId.decode, typeBits, recognised.1, instanceBits]
  rfl

theorem decodes_decodeObjectIdentifier (recognised : ObjectIdRecognised objectId) :
    Decodes Anything decodeObjectIdentifier (BigEndian.bytes 4 objectId.encode.toNat) objectId := by
  have read := decodes_readArray (BigEndian.bytes 4 objectId.encode.toNat)
  rw [BigEndian.bytes_length] at read
  apply read.finish
  intro decoder
  rw [BigEndian.value_bytes_of_lt 4 _ objectId.encode.toNat_lt, UInt32.ofNat_toNat,
    objectId_decode_encode objectId recognised]
  rfl

end

end ApduDecoder

end Mabinogion.Bacnet
