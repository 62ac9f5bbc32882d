import Mabinogion.Bacnet.OctetFormat
import Mabinogion.Bacnet.PropertyValue

/-!
# Round trips of property values

A scalar value is an application tag and its content. WriteProperty and WritePropertyMultiple
read it back where the length fits the tag, and CreateObject too, apart from octet strings and
short negative numbers.
-/

namespace Mabinogion.Bacnet

open Checked ApduDecoder ApduEncoder BigEndian

def Scalar : BACnetValue → Prop
  | .objectIdentifier objectId => ObjectIdRecognised objectId
  | .unsigned64 _ | .signed64 _ | .date _ | .time _ | .array _ | .list _ => False
  | _ => True

def valueTag : BACnetValue → TagNumber
  | .boolean _ => .boolean
  | .unsigned _ => .unsignedInt
  | .signed _ => .signedInt
  | .real _ => .real
  | .double _ => .double
  | .octetString _ => .octetString
  | .characterString _ => .characterString
  | .bitString _ => .bitString
  | .enumerated _ => .enumerated
  | .objectIdentifier _ => .objectIdentifier
  | _ => .null

def contentLength : BACnetValue → Nat
  | .boolean value => if value then 1 else 0
  | .unsigned value | .enumerated value => (minimalBytes value).length
  | .signed value => signedLength value
  | .real _ | .objectIdentifier _ => 4
  | .double _ => 8
  | .octetString bytes => bytes.length
  | .characterString text => (utf8Bytes text).length + 1
  | .bitString bits => (bits.length + 7) / 8 + 1
  | _ => 0

def valueContent : BACnetValue → Bytes
  | .unsigned value | .enumerated value => minimalBytes value
  | .signed value => (bytes 4 value.toUInt32.toNat).drop (4 - signedLength value)
  | .real bits => bytes 4 bits.toNat
  | .double bits => bytes 8 bits.toNat
  | .octetString bytes => bytes
  | .characterString text => 0 :: utf8Bytes text
  | .bitString bits =>
    UInt8.ofNat ((8 - bits.length % 8) % 8) :: packBits bits.length bits 0 0
  | .objectIdentifier objectId => bytes 4 objectId.encode.toNat
  | _ => []

variable {value : BACnetValue}

theorem encodeValue_eq (scalar : Scalar value) : encodeValue value =
      encodeApplicationTag (valueTag value) (contentLength value) ++ valueContent value := by
  cases value with
  | null => rfl
  | boolean value => cases value <;> rfl
  | unsigned64 | signed64 | date | time | array | list => exact absurd scalar id
  | _ => simp only [encodeValue]; rfl

theorem decodes_valueTag (fits : contentLength value < 2 ^ 32) :
    Decodes Anything decodeTagInfo (encodeApplicationTag (valueTag value) (contentLength value))
      ⟨(valueTag value).code, false, contentLength value⟩ := by
  have decodes := decodes_applicationTag (valueTag value) (contentLength value)
  rwa [Nat.mod_eq_of_lt fits] at decodes

theorem decodes_orApdu {Value : Type} {follow : Bytes → Prop} {computation : Decode ApduError Value}
    {bytes : Bytes} {value : Value} (decodes : Decodes follow computation bytes value) :
    Decodes follow (orApdu computation) bytes value :=
  decodes.mapErr ServiceError.apdu

theorem decodes_valueContent (scalar : Scalar value) :
    Decodes Anything (decodeValueContent ⟨(valueTag value).code, false, contentLength value⟩)
      (valueContent value) value := by
  cases value with
  | null => exact decodes_pure _
  | boolean value => cases value <;> exact decodes_pure _
  | unsigned value | enumerated value => exact (decodes_orApdu (decodes_minimalBytes value)).map _
  | signed value => exact (decodes_orApdu (decodes_decodeSigned value)).map _
  | real bits => exact (decodes_orApdu (decodes_decodeReal bits)).map _
  | double bits => exact (decodes_orApdu (decodes_decodeDouble bits)).map _
  | octetString bytes => exact (decodes_orApdu (decodes_readBytes bytes)).map _
  | characterString text => exact (decodes_orApdu (decodes_decodeCharacterString text)).map _
  | bitString bits => exact (decodes_orApdu (decodes_decodeBitString bits)).map _
  | objectIdentifier objectId =>
    exact (decodes_orApdu (decodes_decodeObjectIdentifier objectId scalar)).map _
  | unsigned64 | signed64 | date | time | array | list => exact absurd scalar id

variable (tagNumber : UInt8)

section

def closingByte (tagNumber : UInt8) : UInt8 :=
  if tagNumber < 15 then (tagNumber <<< 4) ||| 0x0F else 0xFF

def openingByte (tagNumber : UInt8) : UInt8 :=
  if tagNumber < 15 then (tagNumber <<< 4) ||| 0x0E else 0xFE

variable (tag : TagNumber) (len : Nat) (consumed rest : Bytes)

theorem isClosingTag_between : (between consumed rest).isClosingTag tagNumber =
      (rest.head? == some (closingByte tagNumber)) := by
  rw [isClosingTag, peek_between, closingByte]
  cases rest with
  | nil => rfl
  | cons =>
    split_ifs <;> rfl

theorem isOpeningTag_between : (between consumed rest).isOpeningTag tagNumber =
      (rest.head? == some (openingByte tagNumber)) := by
  rw [isOpeningTag, peek_between, openingByte]
  cases rest with
  | nil => rfl
  | cons =>
    split_ifs <;> rfl

theorem openingByte_context : openingByte tagNumber &&& 0x08 = 0x08 := by
  unfold openingByte
  split_ifs with short
  · exact (tag_byte_halves tagNumber 0x0E (UInt8.lt_trans short (by decide)) (by decide)).2.1
  · rfl

theorem applicationTag_head :
    ∃ byte more, encodeApplicationTag tag len = byte :: more ∧ byte &&& 0x08 = 0 := by
  have fitsTag : tag.code < 16 := by cases tag <;> decide
  unfold encodeApplicationTag
  split_ifs with inline
  · obtain ⟨_, fitsLow, plain, _, _⟩ := inline_length_byte len inline
    exact ⟨_, [], rfl, (tag_byte_halves tag.code _ fitsTag fitsLow).2.1.trans plain⟩
  · exact ⟨_, _, rfl, (tag_byte_halves tag.code 5 fitsTag (by decide)).2.1⟩

theorem applicationTag_not_opening :
    (between consumed (encodeApplicationTag tag len ++ rest)).isOpeningTag tagNumber = false := by
  obtain ⟨byte, more, head, plain⟩ := applicationTag_head tag len
  rw [isOpeningTag_between, head, List.cons_append, List.head?_cons, beq_eq_false_iff_ne]
  intro same
  have context := openingByte_context tagNumber
  rw [← Option.some.inj same, plain] at context
  exact absurd context (by decide)

variable {follow : Bytes → Prop} {present : ApduDecoder → Bool}

theorem decodes_skip_present {byte : UInt8}
    (sees : ∀ consumed rest, present (between consumed (byte :: rest)) = true) :
    Decodes Anything (skipIf present) [byte] () := by
  apply Decodes.gets fun consumed rest _ => sees consumed rest
  rw [if_pos rfl]
  exact (decodes_orApdu (decodes_readU8 byte)).map fun _ => ()

theorem Decodes.skip_absent {Result : Type} {next : Unit → Decode ServiceError Result}
    {bytes : Bytes} {result : Result}
    (sees : ∀ consumed rest, follow rest → present (between consumed (bytes ++ rest)) = false)
    (right : Decodes follow (next ()) bytes result) :
    Decodes follow (skipIf present >>= next) bytes result := by
  rw [skipIf, bind_bind]
  apply Decodes.gets sees
  rw [if_neg Bool.false_ne_true]
  exact right

end

/-- What may follow a value that stands alone. -/
def NotClosing (tagNumber : UInt8) (rest : Bytes) : Prop :=
  rest.head? ≠ some (closingByte tagNumber)

theorem decodes_value (expectedTag : UInt8) (scalar : Scalar value)
    (fits : contentLength value < 2 ^ 32) :
    Decodes (NotClosing expectedTag) (decodePropertyValueFromContext expectedTag)
      (encodeValue value) value := by
  rw [encodeValue_eq scalar]
  apply Decodes.skip_absent
  · intro consumed rest _
    rw [List.append_assoc]
    exact applicationTag_not_opening expectedTag _ _ consumed _
  · apply (decodes_orApdu (decodes_valueTag fits)).andThen
    apply (decodes_valueContent scalar).lastly
    apply Decodes.skip_absent
    · intro consumed rest unclosed
      rw [List.nil_append, isClosingTag_between, beq_eq_false_iff_ne.mpr unclosed, Bool.and_false]
    · exact decodes_pure value

theorem decodes_bracketed_value {expectedTag : UInt8} (short : expectedTag < 15)
    (scalar : Scalar value) (fits : contentLength value < 2 ^ 32) :
    Decodes Anything (decodePropertyValueFromContext expectedTag)
      (encodeOpeningTag expectedTag ++ (encodeValue value ++ encodeClosingTag expectedTag))
      value := by
  have opening : encodeOpeningTag expectedTag = [openingByte expectedTag] := by
    rw [encodeOpeningTag, openingByte, if_pos short, if_pos short]
  have closing : encodeClosingTag expectedTag = [closingByte expectedTag] := by
    rw [encodeClosingTag, closingByte, if_pos short, if_pos short]
  rw [opening, closing, encodeValue_eq scalar, List.append_assoc]
  apply (decodes_skip_present ?_).andThen
  · apply (decodes_orApdu (decodes_valueTag fits)).andThen
    apply (decodes_valueContent scalar).andThen
    refine Decodes.map (decodes_skip_present ?_) fun _ => value
    intro consumed rest
    rw [isClosingTag_between, isEmpty_between]
    simp
  · intro consumed rest
    rw [isOpeningTag_between]
    simp

/-- A scalar whose length can be written is read back. -/
theorem decode_encode_value (value : BACnetValue) (scalar : Scalar value)
    (fits : contentLength value < 2 ^ 32) (rest : Bytes) (unclosed : rest.head? ≠ some 0x3F) :
    decodePropertyValue (.new (encodeValue value ++ rest)) =
      .ok value (between (encodeValue value) rest) :=
  decodes_value 3 scalar fits [] rest unclosed

theorem decode_encode_signed : decodePropertyValue (.new (encodeValue (.signed (-129)) ++ [0x3E])) =
      .ok (.signed (-129)) (between [0x32, 0xFF, 0x7F] [0x3E]) :=
  decode_encode_value (.signed (-129)) trivial (by decide) [0x3E] (by decide)

theorem decodes_wrapped_text :
    Decodes (NotClosing 3) decodePropertyValue (encodeApplicationTag .characterString (2 ^ 32))
      (.characterString "") := by
  have tag := decodes_applicationTag .characterString (2 ^ 32)
  rw [Nat.mod_self] at tag
  apply Decodes.skip_absent
  · intro consumed rest _
    exact applicationTag_not_opening 3 _ _ consumed rest
  · apply (decodes_orApdu tag).lastly
    have empty : Decodes Anything
        (decodeValueContent ⟨TagNumber.characterString.code, false, 0⟩) [] (.characterString "") :=
      decodes_pure _
    apply empty.lastly
    apply Decodes.skip_absent
    · intro consumed rest unclosed
      rw [List.nil_append, isClosingTag_between, beq_eq_false_iff_ne.mpr unclosed, Bool.and_false]
    · exact decodes_pure _

theorem utf8Bytes_replicate (count : Nat) :
    (utf8Bytes (String.ofList (List.replicate count 'a'))).length = count := by
  have one : 'a'.utf8Size = 1 := rfl
  rw [utf8Bytes, String.toByteArray_ofList, List.utf8Encode]
  simp [one]

/-- The length has wrapped to zero. -/
theorem longest_text_lost : decodePropertyValue (.new (encodeValue
        (.characterString (String.ofList (List.replicate (2 ^ 32 - 1) 'a'))))) =
      .ok (.characterString "") (between (encodeApplicationTag .characterString (2 ^ 32))
        (0 :: utf8Bytes (String.ofList (List.replicate (2 ^ 32 - 1) 'a')))) ∧
    BACnetValue.characterString (String.ofList (List.replicate (2 ^ 32 - 1) 'a')) ≠
      .characterString "" := by
  have length := utf8Bytes_replicate (2 ^ 32 - 1)
  generalize String.ofList (List.replicate (2 ^ 32 - 1) 'a') = text at length
  constructor
  · have unclosed : NotClosing 3 (0 :: utf8Bytes text) := by
      intro same
      exact absurd (Option.some.inj same) (by decide)
    rw [encodeValue, encodeCharacterString, length]
    exact decodes_wrapped_text [] (0 :: utf8Bytes text) unclosed
  · intro same
    rw [BACnetValue.characterString.inj same] at length
    exact absurd length (by decide)

end Mabinogion.Bacnet
