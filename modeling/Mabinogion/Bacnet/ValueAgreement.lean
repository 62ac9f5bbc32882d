import Mabinogion.Bacnet.ValueFormat

/-!
# Agreement of the value decoders

What a decoder returns fits a tag. The decoder of CreateObject drops octet strings and takes
a negative number of less than four bytes for a positive one.
-/

namespace Mabinogion.Bacnet

open Checked ApduDecoder ApduEncoder StreamFormat BigEndian UInt8

variable {value : BACnetValue}

section

variable {decoder after : ApduDecoder}

theorem unpackBits_length (unusedBits : Nat) (bytes : Bytes) :
    (unpackBits unusedBits bytes).length ≤ 8 * bytes.length := by
  induction bytes with
  | nil => exact le_refl 0
  | cons byte bytes ih =>
    cases bytes with
    | nil => simp [unpackBits]
    | cons next bytes =>
      rw [unpackBits_cons _ _ _ (List.cons_ne_nil next bytes), List.length_append, List.length_map,
        List.length_range]
      simp only [List.length_cons] at ih ⊢
      omega

theorem minimalBytes_length_le (value : UInt32) : (minimalBytes value).length ≤ 4 := by
  obtain ⟨width, _, atMost, bytes, _⟩ := minimalBytes_eq value
  rw [bytes, bytes_length]
  exact atMost

theorem signedLength_le (value : Int32) : signedLength value ≤ 4 := by
  obtain ⟨width, length, atMost, _, _⟩ := signedLength_spec value
  omega

/-- Only strings have a long content. -/
theorem contentLength_lt (strings : match value with
      | .octetString bytes => bytes.length < 2 ^ 32
      | .characterString text => (utf8Bytes text).length + 1 < 2 ^ 32
      | .bitString bits => (bits.length + 7) / 8 + 1 < 2 ^ 32
      | _ => True) : contentLength value < 2 ^ 32 := by
  cases value with
  | octetString | characterString | bitString => exact strings
  | unsigned value | enumerated value =>
    exact lt_of_le_of_lt (minimalBytes_length_le value) (by decide)
  | signed value => exact lt_of_le_of_lt (signedLength_le value) (by decide)
  | boolean value => cases value <;> decide
  | _ =>
    simp only [contentLength]
    decide

theorem LengthOctets.lt {lvt : UInt8} {octets : Bytes} {len : Nat}
    (measured : LengthOctets lvt octets len) : len < 2 ^ 32 := by
  cases measured with
  | inline => exact lt_trans lvt.toNat_lt (by decide)
  | @one octet => exact lt_trans octet.toNat_lt (by decide)
  | @two octets length | @four octets length =>
    have bound := value_lt octets
    rw [length] at bound
    omega

theorem TagOctets.len_lt {octets : Bytes} {tag : TagInfo} (tagged : TagOctets octets tag) :
    tag.len < 2 ^ 32 := by
  cases tagged with
  | pairing => exact Nat.two_pow_pos 32
  | valued _ _ measured => exact measured.lt

theorem valueOctets_fits {tag : TagInfo} {octets rest : Bytes} (fits : tag.len < 2 ^ 32)
    (here : valueOctets tag octets value rest) : contentLength value < 2 ^ 32 := by
  apply contentLength_lt
  unfold valueOctets at here
  split_ifs at here
  · obtain ⟨_, _, rfl⟩ := here
    trivial
  split at here
  case h_7 =>
    obtain ⟨length, rfl⟩ := here
    exact lt_of_eq_of_lt length fits
  case h_8 =>
    obtain ⟨text, content, rfl⟩ := here
    unfold textOctets at content
    split_ifs at content
    · rw [content.2]
      decide
    · obtain ⟨_, characters, _, length, decoded⟩ := content
      have octets : utf8Bytes _ = characters := Utf8.octets_of_text? decoded
      simp only [octets, length]
      omega
  case h_9 =>
    obtain ⟨bits, content, rfl⟩ := here
    unfold bitOctets at content
    split_ifs at content
    · rw [content.2]
      decide
    · obtain ⟨unusedBits, bytes, _, length, _, rfl⟩ := content
      have bound := unpackBits_length unusedBits.toNat bytes
      omega
  case h_1 | h_2 | h_5 | h_6 =>
    obtain ⟨_, rfl⟩ := here
    trivial
  case h_12 => cases here
  all_goals
    obtain ⟨_, _, rfl⟩ := here
    trivial

theorem decoded_value_fits {expectedTag : UInt8}
    (returned : decodePropertyValueFromContext expectedTag decoder = .ok value after) :
    contentLength value < 2 ^ 32 := by
  obtain ⟨_, _, ⟨_, _, _, _, _, _, tag, _, _, tagged, _, _, _, _, _, content, _, _, _, _, _, rfl,
    rfl⟩, _⟩ := octets_of_accepts (accepts_decodePropertyValueFromContext expectedTag) returned
  exact valueOctets_fits tagged.len_lt content

end

theorem indexedBits_eq_unpackBits {unusedBits : Nat} (fits : unusedBits ≤ 8) {data : Bytes}
    (some : data ≠ []) :
    indexedBits data (data.length * 8 - unusedBits) = unpackBits unusedBits data := by
  induction data with
  | nil => exact absurd rfl some
  | cons byte data ih =>
    cases data with
    | nil =>
      rw [unpackBits, indexedBits, List.length_singleton, Nat.one_mul]
      apply List.map_congr_left
      intro i member
      have inByte : i < 8 := by
        have := List.mem_range.mp member
        omega
      rw [Nat.div_eq_of_lt inByte, Nat.mod_eq_of_lt inByte]
      rfl
    | cons next data =>
      have rest := ih (List.cons_ne_nil next data)
      have split : (byte :: next :: data).length * 8 - unusedBits =
          8 + ((next :: data).length * 8 - unusedBits) := by
        simp only [List.length_cons]
        omega
      rw [unpackBits_cons _ _ _ (List.cons_ne_nil next data), ← rest, indexedBits, split,
        List.range_add, List.map_append, List.map_map, indexedBits]
      congr 1
      apply List.map_congr_left
      intro i _
      have later : (8 + i) / 8 = i / 8 + 1 := by omega
      have place : (8 + i) % 8 = i % 8 := by omega
      rw [Function.comp_apply, later, place]
      rfl

variable (number : Int32)

/-- The bits of a signed number that its bytes hold. -/
theorem raw_signed_toNat : (decodeUnsignedRaw (valueContent (.signed number))).toNat =
      number.toUInt32.toNat % 256 ^ signedLength number := by
  have short := signedLength_le number
  have small : number.toUInt32.toNat % 256 ^ signedLength number < 2 ^ 32 :=
    lt_of_le_of_lt (Nat.mod_le _ _) number.toUInt32.toNat_lt
  rw [valueContent, bytes_drop _ short, decodeUnsignedRaw, accumulate_toNat, value_bytes]
  have zero : (0 : UInt32).toNat = 0 := rfl
  rw [zero, Nat.zero_mul, Nat.zero_add, Nat.mod_eq_of_lt small]

/-- Taken as unsigned, a number is read back unless its sign was cut off. -/
theorem raw_signed_eq_iff : (decodeUnsignedRaw (valueContent (.signed number))).toInt32 = number ↔
      0 ≤ number ∨ number < -8388608 := by
  have sameBits : (decodeUnsignedRaw (valueContent (.signed number))).toInt32 = number ↔
      number.toUInt32.toNat % 256 ^ signedLength number = number.toUInt32.toNat := by
    rw [← raw_signed_toNat, UInt32.toNat_inj]
    exact ⟨congrArg Int32.toUInt32, congrArg UInt32.toInt32⟩
  have nonnegative : 0 ≤ number ↔ 0 ≤ number.toInt := Int32.le_iff_toInt_le
  have farBelow : number < -8388608 ↔ number.toInt < -8388608 := Int32.lt_iff_toInt_lt
  have bits := toUInt32_toInt number
  have bound := number.toUInt32.toNat_lt
  rw [sameBits, nonnegative, farBelow, signedLength_eq]
  split_ifs at bits ⊢ <;> omega

def ReadAlike (value : BACnetValue) : Prop :=
  contentLength value < 2 ^ 32 ∧ match value with
    | .octetString _ => False
    | .signed number => 0 ≤ number ∨ number < -8388608
    | _ => True

theorem valueContent_length_signed : (valueContent (.signed number)).length = signedLength number :=
    by
  have short := signedLength_le number
  rw [valueContent, bytes_drop _ short, bytes_length]

theorem applicationOctets_signed (rest : Bytes) :
    applicationOctets ⟨TagNumber.signedInt.code, false, signedLength number⟩
      (valueContent (.signed number))
      (.signed (decodeUnsignedRaw (valueContent (.signed number))).toInt32) rest :=
  ⟨_, ⟨valueContent_length_signed number, rfl⟩, rfl⟩

theorem applicationOctets_bits (bits : List Bool) (rest : Bytes) :
    applicationOctets ⟨TagNumber.bitString.code, false, (bits.length + 7) / 8 + 1⟩
      (valueContent (.bitString bits)) (.bitString bits) rest := by
  obtain ⟨length, unpacked⟩ := unpackBits_packBits bits.length bits 0 rfl (Nat.zero_add _)
  refine ⟨congrArg (· + 1) length, ?_⟩
  rw [valueContent, IndexedBits, BitsTooFew, unusedByte_toNat, length]
  refine ⟨by omega, congrArg BACnetValue.bitString ?_⟩
  by_cases none : bits = []
  · subst none
    rfl
  · have counted : bits.length ≠ 0 := fun zero => none (List.length_eq_zero_iff.mp zero)
    have some : packBits bits.length bits 0 0 ≠ [] := by
      intro empty
      rw [empty, List.length_nil] at length
      omega
    rw [← length, indexedBits_eq_unpackBits (by omega) some, unpacked]

theorem applicationOctets_content (scalar : Scalar value) (alike : ReadAlike value) (rest : Bytes) :
    applicationOctets ⟨(valueTag value).code, false, contentLength value⟩ (valueContent value)
      value rest := by
  cases value with
  | null => exact ⟨rfl, rfl⟩
  | boolean value => cases value <;> exact ⟨rfl, rfl⟩
  | unsigned value | enumerated value =>
    exact ⟨value, ⟨rfl, (decodeUnsignedRaw_minimalBytes value).symm⟩, rfl⟩
  | signed number =>
    have read := applicationOctets_signed number rest
    rwa [(raw_signed_eq_iff number).mpr alike.2] at read
  | real bits =>
    refine ⟨rfl, bytes_length 4 _, ?_⟩
    rw [valueContent, value_bytes_of_lt 4 _ bits.toNat_lt, UInt32.ofNat_toNat]
  | double bits =>
    refine ⟨rfl, bytes_length 8 _, ?_⟩
    rw [valueContent, value_bytes_of_lt 8 _ bits.toNat_lt, UInt64.ofNat_toNat]
  | octetString => exact absurd alike.2 id
  | characterString text => exact ⟨text, ⟨0, _, rfl, rfl, fromUTF8_utf8Bytes text⟩, rfl⟩
  | bitString bits => exact applicationOctets_bits bits rest
  | objectIdentifier objectId =>
    refine ⟨objectId, ⟨bytes_length 4 _, ?_⟩, rfl⟩
    rw [valueContent, value_bytes_of_lt 4 _ objectId.encode.toNat_lt, UInt32.ofNat_toNat,
      objectId_decode_encode objectId scalar]
  | unsigned64 | signed64 | date | time | array | list => exact absurd scalar id

theorem decodes_applicationValue (scalar : Scalar value)
    (fits : contentLength value < 2 ^ 32) {result : BACnetValue}
    (content : ∀ rest, applicationOctets ⟨(valueTag value).code, false, contentLength value⟩
      (valueContent value) result rest) :
    Decodes Anything decodeApplicationValue (encodeValue value) result := by
  rw [encodeValue_eq scalar]
  apply ((decodes_valueTag fits).mapErr _).andThen
  exact decodes_of_accepts (accepts_decodeApplicationContent _) fun rest _ => content rest

/-- All three return exactly the values that CreateObject reads as the other services do. -/
theorem value_decoders_agree_iff (value : BACnetValue) (scalar : Scalar value) :
    ((decodePropertyValue (.new (encodeValue value))).returned = some (.ok value) ∧
      (∀ expectedTag, (decodePropertyValueFromContext expectedTag
        (.new (encodeValue value))).returned = some (.ok value)) ∧
      (decodeApplicationValue (.new (encodeValue value))).returned = some (.ok value)) ↔
    ReadAlike value := by
  have ends : ∀ tagNumber, NotClosing tagNumber [] := by simp [NotClosing]
  constructor
  · rintro ⟨written, _, created⟩
    have fits : contentLength value < 2 ^ 32 := by
      obtain ⟨after, ran⟩ := returned_ok written
      exact decoded_value_fits ran
    refine ⟨fits, ?_⟩
    cases value with
    | octetString bytes =>
      -- An octet string is skipped as an unknown tag.
      rw [decodes_returned (decodes_applicationValue scalar fits fun _ => ⟨.inl rfl, rfl⟩)
        trivial] at created
      simp at created
    | signed number =>
      rw [decodes_returned (decodes_applicationValue scalar fits (applicationOctets_signed number))
        trivial] at created
      have same : (decodeUnsignedRaw (valueContent (.signed number))).toInt32 = number := by
        simpa using created
      exact (raw_signed_eq_iff number).mp same
    | _ => trivial
  · intro alike
    refine ⟨?_, ?_, ?_⟩
    · exact decodes_returned (decodes_value 3 scalar alike.1) (ends 3)
    · intro expectedTag
      exact decodes_returned (decodes_value expectedTag scalar alike.1) (ends expectedTag)
    · exact decodes_returned (decodes_applicationValue scalar alike.1
        (applicationOctets_content scalar alike)) trivial

theorem value_decoders_agree_on_enumerated :
    (decodePropertyValue (.new (encodeValue (.enumerated 300)))).returned =
        some (.ok (.enumerated 300)) ∧
      (∀ expectedTag, (decodePropertyValueFromContext expectedTag
        (.new (encodeValue (.enumerated 300)))).returned = some (.ok (.enumerated 300))) ∧
      (decodeApplicationValue (.new (encodeValue (.enumerated 300)))).returned =
        some (.ok (.enumerated 300)) :=
  (value_decoders_agree_iff (.enumerated 300) trivial).mpr ⟨by decide, trivial⟩

/-- CreateObject takes the one byte of -1 for 255. -/
theorem negative_number_created_positive :
    (decodePropertyValue (.new (encodeValue (.signed (-1))))).returned = some (.ok (.signed (-1))) ∧
      (decodeApplicationValue (.new (encodeValue (.signed (-1))))).returned =
        some (.ok (.signed 255)) ∧
      (decodeApplicationValue (.new (encodeValue (.octetString [1])))).returned =
        some (.ok .null) :=
  ⟨rfl, rfl, rfl⟩

end Mabinogion.Bacnet
