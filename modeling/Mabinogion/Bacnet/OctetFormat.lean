import Mabinogion.Bacnet.BitStrings
import Mabinogion.Library.StreamFormat

/-!
# Octets of tags and primitive values

The octets from which the decoder's methods return a value: the forms of a tag
with its number and its length, and the contents that stand behind a tag.
-/

namespace Mabinogion.Bacnet

open Checked ApduDecoder StreamFormat BigEndian
open List (append_nil)

inductive NumberOctets (tagByte : UInt8) : Bytes → UInt8 → Prop where
  | short (below : (tagByte >>> 4) &&& 0x0F ≠ 0x0F) :
      NumberOctets tagByte [] ((tagByte >>> 4) &&& 0x0F)
  | extended (full : (tagByte >>> 4) &&& 0x0F = 0x0F) (number : UInt8) :
      NumberOctets tagByte [number] number

inductive LengthOctets : UInt8 → Bytes → Nat → Prop where
  | inline {lvt : UInt8} (short : lvt ≠ 5) : LengthOctets lvt [] lvt.toNat
  | one {octet : UInt8} (notTwo : octet ≠ 254) (notFour : octet ≠ 255) :
      LengthOctets 5 [octet] octet.toNat
  | two {octets : Bytes} (length : octets.length = 2) :
      LengthOctets 5 (254 :: octets) (value octets)
  | four {octets : Bytes} (length : octets.length = 4) :
      LengthOctets 5 (255 :: octets) (value octets)

def Pairing (tagByte : UInt8) : Prop :=
  tagByte &&& 0x08 ≠ 0 ∧ (tagByte &&& 0x07 = 6 ∨ tagByte &&& 0x07 = 7)

inductive TagOctets : Bytes → TagInfo → Prop where
  | pairing {tagByte number : UInt8} {numberOctets : Bytes} (pair : Pairing tagByte)
      (numbered : NumberOctets tagByte numberOctets number) :
      TagOctets (tagByte :: numberOctets) ⟨number, true, 0⟩
  | valued {tagByte number : UInt8} {numberOctets lengthOctets : Bytes} {len : Nat}
      (single : ¬Pairing tagByte) (numbered : NumberOctets tagByte numberOctets number)
      (measured : LengthOctets (tagByte &&& 0x07) lengthOctets len) :
      TagOctets (tagByte :: (numberOctets ++ lengthOctets))
        ⟨number, (tagByte &&& 0x08) != 0, len⟩

variable (len : Nat)

section

variable {Error Value : Type}

theorem accepts_readU8 : Accepts between readU8 fun octets value _ => octets = [value] := by
  intro consumed input value after
  constructor
  · intro returned
    cases input with
    | nil => simp [readU8, between] at returned
    | cons byte input =>
      have read := decodes_readU8 byte consumed input trivial
      obtain ⟨rfl, rfl⟩ := Outcome.ok.inj (returned.symm.trans read)
      exact ⟨[value], input, rfl, rfl, rfl⟩
  · rintro ⟨octets, rest, rfl, rfl, rfl⟩
    exact decodes_readU8 value consumed rest trivial

theorem readBytes_short {len : Nat} (consumed : Bytes) {input : Bytes}
    (short : input.length < len) :
    readBytes len (between consumed input) = .err .tooShort (between consumed input) := by
  have beyond : ¬(between consumed input).pos + len ≤ (between consumed input).data.length := by
    simp only [between, List.length_append]
    omega
  rw [readBytes, dif_neg beyond]

theorem accepts_readBytes :
    Accepts between (readBytes len) fun octets value _ => octets.length = len ∧ value = octets := by
  intro consumed input value after
  constructor
  · intro returned
    by_cases enough : len ≤ input.length
    · have read := decodes_readBytes (input.take len) consumed (input.drop len) trivial
      have taken : (input.take len).length = len := List.length_take_of_le enough
      rw [List.take_append_drop, taken] at read
      obtain ⟨rfl, rfl⟩ := Outcome.ok.inj (returned.symm.trans read)
      exact ⟨_, input.drop len, (List.take_append_drop len input).symm, ⟨taken, rfl⟩, rfl⟩
    · rw [readBytes_short consumed (Nat.lt_of_not_le enough)] at returned
      simp at returned
  · rintro ⟨octets, rest, rfl, ⟨rfl, rfl⟩, rfl⟩
    exact decodes_readBytes value consumed rest trivial

theorem accepts_skip : Accepts between (skip len) fun octets _ _ => octets.length = len :=
  ((accepts_readBytes len).map fun _ => ()).congr (by simp)

theorem accepts_readArray (width : Nat) : Accepts between (readArray width) fun octets value _ =>
      octets.length = width ∧ value = octets := by
  rw [readArray_eq]
  exact accepts_readBytes width

theorem accepts_readIndexed (convert : ApduError → Error) (width : Nat) :
    Accepts between (readIndexed convert width) fun octets value _ =>
      octets.length = width ∧ value = octets := by
  rw [readIndexed_eq]
  exact (accepts_readBytes width).mapErr convert

section

variable {computation : Decode Error Value} {format : StreamFormat UInt8 Value}
variable {decoder after : ApduDecoder} {value : Value}
variable (accepts : Accepts between computation format)

include accepts

/-- Every decoder stands somewhere, so that every value is read from octets in the format. -/
theorem octets_of_accepts (returned : computation decoder = .ok value after) :
    ∃ octets rest, format octets value rest ∧
      remaining decoder = octets.length + remaining after := by
  obtain ⟨data, pos, bound⟩ := decoder
  have place : (⟨data, pos, bound⟩ : ApduDecoder) = between (data.take pos) (data.drop pos) := by
    simp [between, bound]
  rw [place] at returned ⊢
  obtain ⟨octets, rest, same, here, rfl⟩ := (accepts _ _ _ _).mp returned
  refine ⟨octets, rest, here, ?_⟩
  rw [same]
  simp only [remaining, between, List.length_append]
  omega

theorem smaller_of_accepts (occurs : ∀ rest, ¬format [] value rest)
    (returned : computation decoder = .ok value after) : remaining after < remaining decoder := by
  obtain ⟨octets, rest, here, taken⟩ := octets_of_accepts accepts returned
  have some : octets ≠ [] := fun empty => occurs rest (empty ▸ here)
  have positive := List.length_pos_of_ne_nil some
  omega

theorem consumes_of_accepts (occurs : ∀ value rest, ¬format [] value rest) :
    Consumes remaining computation :=
  fun _ value _ returned => smaller_of_accepts accepts (occurs value) returned

theorem decodes_of_accepts {follow : Bytes → Prop} {bytes : Bytes}
    (here : ∀ rest, follow rest → format bytes value rest) :
    Decodes follow computation bytes value :=
  fun _ rest allowed => (accepts _ _ _ _).mpr ⟨bytes, rest, rfl, here rest allowed, rfl⟩

end

/-- A format that starts with a byte, read byte first. -/
theorem accepts_byte_first {next : UInt8 → Decode ApduError Value}
    {format : StreamFormat UInt8 Value} (some : ∀ value rest, ¬format [] value rest)
    (right : ∀ byte, Accepts between (next byte)
      fun octets value rest => format (byte :: octets) value rest) :
    Accepts between (readU8 >>= next) format := by
  apply (accepts_readU8.bind right).congr
  intro octets value rest
  constructor
  · rintro ⟨head, byte, tail, rfl, rfl, here⟩
    exact here
  · intro here
    cases octets with
    | nil => exact absurd here (some value rest)
    | cons byte octets => exact ⟨[byte], byte, octets, rfl, rfl, here⟩

end

section

theorem accepts_decodeLength (lvt : UInt8) :
    Accepts between (decodeLength lvt) fun octets len _ => LengthOctets lvt octets len := by
  unfold decodeLength
  split_ifs with extended
  · subst extended
    apply accepts_byte_first
    · intro len rest impossible
      cases impossible with
      | inline short => exact short rfl
    · intro byte
      have wide (width : Nat) : Accepts between (do
          let octets ← readArray width
          pure (value octets)) fun octets len _ =>
            octets.length = width ∧ len = value octets :=
        (accepts_readArray width).computed fun _ => accepts_pure _
      split_ifs with two four
      · subst two
        apply (wide 2).congr
        intro octets len rest
        constructor
        · rintro ⟨length, rfl⟩
          exact .two length
        · intro here
          cases here with
          | one notTwo => exact absurd rfl notTwo
          | two length => exact ⟨length, rfl⟩
      · subst four
        apply (wide 4).congr
        intro octets len rest
        constructor
        · rintro ⟨length, rfl⟩
          exact .four length
        · intro here
          cases here with
          | one _ notFour => exact absurd rfl notFour
          | four length => exact ⟨length, rfl⟩
      · apply (accepts_pure byte.toNat).congr
        intro octets len rest
        constructor
        · rintro ⟨rfl, rfl⟩
          exact .one two four
        · intro here
          cases here with
          | one => exact ⟨rfl, rfl⟩
          | two => exact absurd rfl two
          | four => exact absurd rfl four
  · apply (accepts_pure lvt.toNat).congr
    intro octets len rest
    constructor
    · rintro ⟨rfl, rfl⟩
      exact .inline extended
    · intro here
      cases here with
      | inline => exact ⟨rfl, rfl⟩
      | one | two | four => exact absurd rfl extended

theorem accepts_decodeTagNumber (tagByte : UInt8) :
    Accepts between (decodeTagNumber tagByte) fun octets number _ =>
      NumberOctets tagByte octets number := by
  unfold decodeTagNumber
  split_ifs with full
  · apply accepts_readU8.congr
    intro octets number rest
    constructor
    · rintro rfl
      exact .extended full number
    · intro here
      cases here with
      | short below => exact absurd full below
      | extended => rfl
  · apply (accepts_pure _).congr
    intro octets number rest
    constructor
    · rintro ⟨rfl, rfl⟩
      exact .short full
    · intro here
      cases here with
      | short => exact ⟨rfl, rfl⟩
      | extended other => exact absurd other full

def tagRest (tagByte number : UInt8) : StreamFormat UInt8 TagInfo := fun octets tag _ =>
  Pairing tagByte ∧ octets = [] ∧ tag = ⟨number, true, 0⟩ ∨
    ¬Pairing tagByte ∧ ∃ len, LengthOctets (tagByte &&& 0x07) octets len ∧
      tag = ⟨number, (tagByte &&& 0x08) != 0, len⟩

theorem accepts_decodeTagLength (tagByte number : UInt8) :
    Accepts between (decodeTagLength tagByte number) (tagRest tagByte number) := by
  have context : ((tagByte &&& 0x08) != 0) = true ↔ tagByte &&& 0x08 ≠ 0 := bne_iff_ne
  simp only [decodeTagLength]
  split_ifs with opening closing
  · have pair : Pairing tagByte := ⟨context.mp opening.1, .inl opening.2⟩
    exact (accepts_pure _).congr (by simp [nothing, tagRest, pair])
  · have pair : Pairing tagByte := ⟨context.mp closing.1, .inr closing.2⟩
    exact (accepts_pure _).congr (by simp [nothing, tagRest, pair])
  · have single : ¬Pairing tagByte := by
      rintro ⟨isContext, six | seven⟩
      · exact opening ⟨context.mpr isContext, six⟩
      · exact closing ⟨context.mpr isContext, seven⟩
    exact ((accepts_decodeLength _).map _).congr (by simp [tagRest, single])

def tagOctets : StreamFormat UInt8 TagInfo := fun octets tag _ => TagOctets octets tag

theorem accepts_decodeTagInfo : Accepts between decodeTagInfo tagOctets := by
  apply accepts_byte_first
  · intro tag rest impossible
    cases impossible
  · intro tagByte
    apply ((accepts_decodeTagNumber tagByte).bind (accepts_decodeTagLength tagByte)).congr
    intro octets tag rest
    constructor
    · rintro ⟨numberOctets, number, lengthOctets, rfl, numbered, pairing | valued⟩
      · obtain ⟨pair, rfl, rfl⟩ := pairing
        rw [append_nil]
        exact .pairing pair numbered
      · obtain ⟨single, len, measured, rfl⟩ := valued
        exact .valued single numbered measured
    · intro here
      cases here with
      | pairing pair numbered =>
        exact ⟨_, _, [], (append_nil _).symm, numbered, .inl ⟨pair, rfl, rfl⟩⟩
      | valued single numbered measured =>
        exact ⟨_, _, _, rfl, numbered, .inr ⟨single, _, measured, rfl⟩⟩

section

open ApduEncoder

theorem tagOctets_of_halves (high low : UInt8) (fitsHigh : high < 15) (fitsLow : low < 16)
    (unpaired : ¬(low &&& 0x08 ≠ 0 ∧ 5 < low &&& 0x07)) {octets : Bytes} {len : Nat}
    (measured : LengthOctets (low &&& 0x07) octets len) :
    TagOctets (((high <<< 4) ||| low) :: octets) ⟨high, low &&& 0x08 != 0, len⟩ := by
  obtain ⟨number, context, lvt⟩ :=
    tag_byte_halves high low (UInt8.lt_trans fitsHigh (by decide)) fitsLow
  have below : (((high <<< 4) ||| low) >>> 4) &&& 0x0F ≠ 0x0F :=
    number.symm ▸ UInt8.ne_of_lt fitsHigh
  have single : ¬Pairing ((high <<< 4) ||| low) := by
    rw [Pairing, context, lvt]
    rintro ⟨isContext, six | seven⟩
    · exact unpaired ⟨isContext, by rw [six]; decide⟩
    · exact unpaired ⟨isContext, by rw [seven]; decide⟩
  have tag := TagOctets.valued single (.short below) (lvt.symm ▸ measured)
  rwa [number, context] at tag

/-- The three forms of length bytes: the longest holds a length modulo `2 ^ 32`. -/
theorem lengthOctets_extendedLength (len : Nat) :
    LengthOctets 5 (extendedLength len) (len % 2 ^ 32) := by
  unfold extendedLength
  split_ifs with oneByte twoBytes
  · have byte : (UInt8.ofNat len).toNat = len := UInt8.toNat_ofNat_of_lt' (show len < 256 by omega)
    have small : UInt8.ofNat len < 254 := by
      rw [UInt8.lt_iff_toNat_lt, byte]
      exact oneByte
    have octets := LengthOctets.one (UInt8.ne_of_lt small)
      (UInt8.ne_of_lt (UInt8.lt_trans small (by decide)))
    rw [byte] at octets
    rwa [Nat.mod_eq_of_lt (by omega)]
  · have octets := LengthOctets.two (bytes_length 2 len)
    rw [value_bytes_of_lt 2 len (by omega)] at octets
    rwa [UInt16.toNat_ofNat_of_lt' (show len < 65536 by omega), Nat.mod_eq_of_lt (by omega)]
  · have octets := LengthOctets.four (bytes_length 4 (UInt32.ofNat len).toNat)
    rwa [value_bytes_of_lt 4 _ (UInt32.toNat_lt _), UInt32.toNat_ofNat'] at octets

theorem decodes_applicationTag (tag : TagNumber) (len : Nat) :
    Decodes Anything decodeTagInfo (encodeApplicationTag tag len)
      ⟨tag.code, false, len % 2 ^ 32⟩ := by
  have fitsTag : tag.code < 15 := by cases tag <;> decide
  apply decodes_of_accepts accepts_decodeTagInfo
  intro _ _
  unfold encodeApplicationTag
  split_ifs with inline
  · obtain ⟨small, fitsLow, plain, low, number⟩ := inline_length_byte len inline
    have measured := LengthOctets.inline (UInt8.ne_of_lt small)
    have octets := tagOctets_of_halves tag.code (UInt8.ofNat len) fitsTag fitsLow
      (fun both => both.1 plain) (low.symm ▸ measured)
    rw [plain, low, number] at octets
    rw [Nat.mod_eq_of_lt (by omega)]
    exact octets
  · exact tagOctets_of_halves tag.code 5 fitsTag (by decide) (by decide)
      (lengthOctets_extendedLength len)

theorem decodes_contextTag (tagNumber : UInt8) (short : tagNumber < 15) (len : Nat) :
    Decodes Anything decodeTagInfo (encodeContextTag tagNumber len)
      ⟨tagNumber, true, len % 2 ^ 32⟩ := by
  apply decodes_of_accepts accepts_decodeTagInfo
  intro _ _
  unfold encodeContextTag
  rw [if_pos short]
  split_ifs with inline
  · obtain ⟨small, _, _, _, number⟩ := inline_length_byte len inline
    obtain ⟨fitsLow, context, low⟩ := context_length_byte len inline
    have measured := LengthOctets.inline (UInt8.ne_of_lt small)
    have octets := tagOctets_of_halves tagNumber (0x08 ||| UInt8.ofNat len) short fitsLow
      (fun both => UInt8.lt_asymm small (low ▸ both.2)) (low.symm ▸ measured)
    rw [context, low, number] at octets
    rw [UInt8.or_assoc, Nat.mod_eq_of_lt (by omega)]
    exact octets
  · exact tagOctets_of_halves tagNumber 0x0D short (by decide) (by decide)
      (lengthOctets_extendedLength len)

end

def tagged {Value : Type} (allowed : TagInfo → Prop)
    (content : TagInfo → StreamFormat UInt8 Value) : StreamFormat UInt8 Value :=
  fun octets value rest => ∃ head tag behind, octets = head ++ behind ∧ TagOctets head tag ∧
    allowed tag ∧ content tag behind value rest

abbrev AnyTag (_tag : TagInfo) : Prop := True

theorem not_tagged_nil {Value : Type} {allowed : TagInfo → Prop}
    {content : TagInfo → StreamFormat UInt8 Value} {value : Value} {rest : Bytes} :
    ¬tagged allowed content [] value rest := by
  rintro ⟨head, tag, behind, empty, octets, _⟩
  obtain ⟨rfl, rfl⟩ := List.append_eq_nil_iff.mp empty.symm
  cases octets

variable {Error Value : Type} {convert : ApduError → Error}
variable {next : TagInfo → Decode Error Value} {content : TagInfo → StreamFormat UInt8 Value}

theorem accepts_tagged (right : ∀ tag, Accepts between (next tag) (content tag)) :
    Accepts between (decodeTagInfo.mapErr convert >>= next) (tagged AnyTag content) :=
  ((accepts_decodeTagInfo.mapErr convert).bind right).congr
    (by simp [followedBy, tagged, tagOctets])

theorem accepts_tagged_checked {refuses : TagInfo → Bool} {error : Error}
    {allowed : TagInfo → Prop} (same : ∀ tag, refuses tag = false ↔ allowed tag)
    (right : ∀ tag, Accepts between (next tag) (content tag)) :
    Accepts between (decodeTagInfo.mapErr convert >>= fun tag =>
        failIf (refuses tag) error >>= fun _ => next tag) (tagged allowed content) :=
  ((accepts_decodeTagInfo.mapErr convert).bind fun tag => (right tag).guarded _ error).congr
    (by simp [followedBy, tagged, tagOctets, same])

end

variable (len : Nat)

def unsignedOctets : StreamFormat UInt8 UInt32 := fun octets value _ =>
  octets.length = len ∧ value = decodeUnsignedRaw octets

theorem accepts_decodeUnsigned : Accepts between (decodeUnsigned len) (unsignedOctets len) :=
  (accepts_readBytes len).computed fun _ => accepts_pure _

/-- A number that starts with its sign. -/
def signedValue (octets : Bytes) : Int32 :=
  let start : Int32 := if octets.headD 0 &&& 0x80 ≠ 0 then -1 else 0
  octets.foldl (fun value byte => (value <<< 8) ||| byte.toUInt32.toInt32) start

def signedOctets : StreamFormat UInt8 Int32 := fun octets value _ =>
  octets.length = len ∧ octets ≠ [] ∧ value = signedValue octets

theorem accepts_decodeSigned : Accepts between (decodeSigned len) (signedOctets len) := by
  apply (accepts_readBytes len).computed
  intro octets
  apply ((accepts_checkedIndex octets 0).map _).congr
  intro more value rest
  cases octets with
  | nil => simp
  | cons => simp [signedValue]

theorem accepts_decodeReal :
    Accepts between decodeReal fun octets bits _ => octets.length = 4 ∧ bits =
      UInt32.ofNat (value octets) :=
  (accepts_readArray 4).computed fun _ => accepts_pure _

theorem accepts_decodeDouble :
    Accepts between decodeDouble fun octets bits _ => octets.length = 8 ∧ bits =
      UInt64.ofNat (value octets) :=
  (accepts_readArray 8).computed fun _ => accepts_pure _

def objectIdOctets : StreamFormat UInt8 ObjectId := fun octets objectId _ =>
  octets.length = 4 ∧ ObjectId.decode (UInt32.ofNat (value octets)) = some objectId

theorem accepts_decodeObjectIdentifier : Accepts between decodeObjectIdentifier objectIdOctets :=
  (accepts_readArray 4).computed fun _ => accepts_liftOption _ _

def textOctets : StreamFormat UInt8 String := fun octets text _ =>
  if len = 0 then octets = [] ∧ text = ""
  else ∃ encoding characters, octets = encoding :: characters ∧ characters.length = len - 1 ∧
    String.fromUTF8? ⟨characters.toArray⟩ = some text

theorem accepts_decodeCharacterString :
    Accepts between (decodeCharacterString len) (textOctets len) := by
  unfold decodeCharacterString
  split_ifs with empty
  · exact (accepts_pure "").congr (by simp [nothing, textOctets, empty])
  · apply accepts_byte_first
    · simp [textOctets, empty]
    · intro encoding
      exact ((accepts_readBytes (len - 1)).computed fun _ => accepts_liftOption _ _).congr
        (by simp [textOctets, empty])

def bitOctets : StreamFormat UInt8 (List Bool) := fun octets bits _ =>
  if len = 0 then octets = [] ∧ bits = []
  else ∃ unusedBits bytes, octets = unusedBits :: bytes ∧ bytes.length = len - 1 ∧
    ¬UnusedBitsTooMany bytes.length unusedBits.toNat ∧ bits = unpackBits unusedBits.toNat bytes

theorem accepts_bits_after_bytes (unusedBits : Nat) (bytes : Bytes) :
    Accepts between ((checkedSub (bytes.length * 8) unusedBits : Decode ApduError Nat) >>= fun _ =>
        bitsOfBytes bytes.length unusedBits 0 bytes) fun octets bits _ =>
      octets = [] ∧ ¬UnusedBitsTooMany bytes.length unusedBits ∧
        bits = unpackBits unusedBits bytes := by
  by_cases tooMany : UnusedBitsTooMany bytes.length unusedBits
  · intro consumed input bits after
    rw [bits_after_bytes_underflow unusedBits bytes tooMany]
    simp [tooMany]
  · exact (accepts_still (bits_after_bytes_ok unusedBits bytes tooMany)).congr
      (by simp [nothing, tooMany])

theorem accepts_decodeBitString : Accepts between (decodeBitString len) (bitOctets len) := by
  unfold decodeBitString
  split_ifs with empty
  · exact (accepts_pure []).congr (by simp [nothing, bitOctets, empty])
  · apply accepts_byte_first
    · simp [bitOctets, empty]
    · intro unusedBits
      exact ((accepts_readBytes (len - 1)).computed fun bytes =>
        accepts_bits_after_bytes unusedBits.toNat bytes).congr (by simp [bitOctets, empty])

def skippedOctets : StreamFormat UInt8 Unit := fun octets _ rest =>
  octets.length = len ∨ octets = [] ∧ rest.length < len

theorem accepts_attempt {Error Value Content : Type} {len : Nat}
    {reads : Decode ApduError Content} {view : Bytes → Content}
    {next : Decode Error Value} {format : StreamFormat UInt8 Value}
    (enough : Accepts between reads fun octets content _ =>
      octets.length = len ∧ content = view octets)
    (short : ∀ consumed input, input.length < len →
      reads (between consumed input) = .err .tooShort (between consumed input))
    (right : Accepts between next format) :
    Accepts between ((attempt reads : Decode Error (Except ApduError Content)) >>= fun _ => next)
      ((skippedOctets len).followedBy fun _ => format) := by
  have attempted : Accepts between (attempt reads : Decode Error (Except ApduError Content))
      fun octets result rest => octets.length = len ∧ result = .ok (view octets) ∨
        octets = [] ∧ rest.length < len ∧ result = .error .tooShort := by
    intro consumed input result after
    by_cases few : input.length < len
    · rw [attempt_err _ _ (short consumed input few)]
      constructor
      · intro returned
        obtain ⟨rfl, rfl⟩ := Outcome.ok.inj returned
        exact ⟨[], input, rfl, .inr ⟨rfl, few, rfl⟩, by rw [append_nil]⟩
      · rintro ⟨octets, rest, rfl, ⟨length, _⟩ | ⟨rfl, _, rfl⟩, rfl⟩
        · rw [List.length_append] at few
          omega
        · rw [append_nil, List.nil_append]
    · have taken : (input.take len).length = len := List.length_take_of_le (Nat.le_of_not_lt few)
      have read := (enough consumed input (view (input.take len)) _).mpr
        ⟨_, _, (List.take_append_drop len input).symm, ⟨taken, rfl⟩, rfl⟩
      rw [attempt_ok _ _ read]
      constructor
      · intro returned
        obtain ⟨rfl, rfl⟩ := Outcome.ok.inj returned
        exact ⟨_, _, (List.take_append_drop len input).symm, .inl ⟨taken, rfl⟩, rfl⟩
      · rintro ⟨octets, rest, rfl, ⟨length, rfl⟩ | ⟨rfl, shorter, _⟩, rfl⟩
        · rw [List.take_left' length, List.drop_left' length]
        · exact absurd shorter few
  apply (attempted.bind fun _ => right).congr
  intro octets value rest
  constructor
  · rintro ⟨head, _, tail, same, ⟨length, _⟩ | ⟨empty, few, _⟩, here⟩
    · exact ⟨head, (), tail, same, .inl length, here⟩
    · exact ⟨head, (), tail, same, .inr ⟨empty, few⟩, here⟩
  · rintro ⟨head, _, tail, same, length | ⟨empty, few⟩, here⟩
    · exact ⟨head, .ok (view head), tail, same, .inl ⟨length, rfl⟩, here⟩
    · exact ⟨head, .error .tooShort, tail, same, .inr ⟨empty, few, rfl⟩, here⟩

section

variable {Error Value : Type}
variable {next : UInt8 → Decode Error Value} {present : ApduDecoder → Bool} {octet : UInt8}

/-- A look at the next octet, which stays unread. -/
theorem accepts_peek {format : UInt8 → StreamFormat UInt8 Value} (missing : Error)
    (right : ∀ octet, Accepts between (next octet) (format octet)) :
    Accepts between (gets peek >>= fun seen => liftOption missing seen >>= next)
      fun octets value rest => ∃ octet, (octets ++ rest).head? = some octet ∧
        format octet octets value rest := by
  apply (Accepts.gets peek_between fun seen => (accepts_liftOption missing seen).bind right).congr
  intro octets value rest
  constructor
  · rintro ⟨_, octet, tail, rfl, ⟨rfl, seen⟩, here⟩
    exact ⟨octet, seen, here⟩
  · rintro ⟨octet, seen, here⟩
    exact ⟨[], octet, octets, rfl, ⟨rfl, seen⟩, here⟩

theorem faultsOn_peek {faulty : UInt8 → Bytes → Prop}
    (missing : Error) (faults : ∀ octet, FaultsOn between (next octet) (faulty octet)) :
    FaultsOn between (gets peek >>= fun seen => liftOption missing seen >>= next) fun input =>
      ∃ octet, input.head? = some octet ∧ faulty octet input := by
  have lifts (seen : Option UInt8) :
      Tame remaining (liftOption missing seen : Decode Error UInt8) :=
    orderly_liftOption missing seen
  apply (FaultsOn.gets peek_between fun seen => FaultsOn.behind (lifts seen).safe
    (accepts_liftOption missing seen) faults).congr
  intro input
  constructor
  · rintro ⟨_, octet, rest, rfl, ⟨rfl, seen⟩, faulted⟩
    exact ⟨octet, seen, faulted⟩
  · rintro ⟨octet, seen, faulted⟩
    exact ⟨[], octet, input, rfl, ⟨rfl, seen⟩, faulted⟩

def theOctet (octet : UInt8) : StreamFormat UInt8 Unit := fun octets _ _ => octets = [octet]

def anyOctet : StreamFormat UInt8 UInt8 := fun octets octet _ => octets = [octet]

def starts (octet : UInt8) (input : Bytes) : Bool := input.head? == some octet

theorem accepts_expected (missing : Error) (convert : ApduError → Error)
    (sees : ∀ consumed input, present (between consumed input) = (input.head? == some octet)) :
    Accepts between (gets present >>= fun here => failIf (!here) missing >>= fun _ =>
      readU8.mapErr convert >>= fun _ => pure ()) (theOctet octet) := by
  apply (Accepts.gets sees fun here =>
    ((accepts_readU8.mapErr convert).map fun _ => ()).guarded (!here) missing).congr
  intro octets value rest
  constructor
  · rintro ⟨here, byte, rfl, _⟩
    simp only [List.cons_append, List.head?_cons, Bool.not_eq_false', beq_iff_eq] at here
    exact congrArg (fun byte => [byte]) (Option.some.inj here)
  · rintro rfl
    exact ⟨by simp, octet, rfl, rfl⟩

theorem faultsOn_opened {convert : ApduError → Error} {next : Decode Error Value} {value : Value}
    {faulty : Bytes → Prop}
    (sees : ∀ consumed input, present (between consumed input) = starts octet input)
    (faults : FaultsOn between next faulty) :
    FaultsOn between (gets present >>= fun here =>
        if here then readU8.mapErr convert >>= fun _ => next else pure value)
      ((theOctet octet).Before fun _ => faulty) := by
  apply (FaultsOn.ifSeen sees (FaultsOn.behind (orderly_readU8.mapErr convert).safe
    (accepts_readU8.mapErr convert) fun _ => faults) (safe_pure value).faultsOn).congr
  intro input
  constructor
  · intro faulted
    split_ifs at faulted with here
    obtain ⟨_, byte, rest, rfl, rfl, faulted⟩ := faulted
    obtain rfl : byte = octet := Option.some.inj (beq_iff_eq.mp here)
    exact ⟨[byte], (), rest, rfl, rfl, faulted⟩
  · rintro ⟨_, _, rest, rfl, rfl, faulted⟩
    have here : starts octet ([octet] ++ rest) = true := beq_iff_eq.mpr rfl
    rw [if_pos here]
    exact ⟨[octet], octet, rest, rfl, rfl, faulted⟩

end

end Mabinogion.Bacnet
