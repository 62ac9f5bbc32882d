import Mabinogion.Bacnet.ValueCodec

/-!
# Octets of property values

The octets that the value decoders accept, and those they panic on: a signed
number without any octet, whose sign is looked up all the same, and a bit string
that declares more unused bits than it has.
-/

namespace Mabinogion.Bacnet

open Checked ApduDecoder StreamFormat Accepts FaultsOn

theorem faultsOn_decodeSigned (len : Nat) :
    FaultsOn between (decodeSigned len) fun _ => len = 0 := by
  apply (behind (orderly_readBytes len).safe (accepts_readBytes len) fun octets =>
    (faultsOn_checkedIndex octets 0).ahead fun _ => safe_pure _).congr
  intro input
  constructor
  · rintro ⟨octets, _, rest, rfl, ⟨rfl, rfl⟩, missing⟩
    rw [List.getElem?_eq_none_iff] at missing
    exact Nat.le_zero.mp missing
  · rintro rfl
    exact ⟨[], [], input, rfl, ⟨rfl, rfl⟩, rfl⟩

/-- The content is there, and its first octet counts too many unused bits. -/
def BitsFaulty (tooMany : Nat → Nat → Prop) (len : Nat) (input : Bytes) : Prop :=
  ∃ unusedBits bytes rest, input = unusedBits :: (bytes ++ rest) ∧ bytes.length + 1 = len ∧
    tooMany bytes.length unusedBits.toNat

theorem faultsOn_bits_after_bytes (unusedBits : Nat) (bytes : Bytes) :
    FaultsOn between ((checkedSub (bytes.length * 8) unusedBits : Decode ApduError Nat) >>=
        fun _ => bitsOfBytes bytes.length unusedBits 0 bytes) fun _ =>
      UnusedBitsTooMany bytes.length unusedBits := by
  intro consumed input
  by_cases tooMany : UnusedBitsTooMany bytes.length unusedBits
  · simp [Faults, bits_after_bytes_underflow unusedBits bytes tooMany, tooMany]
  · simp [Faults, bits_after_bytes_ok unusedBits bytes tooMany, tooMany]

theorem faultsOn_decodeBitString (len : Nat) :
    FaultsOn between (decodeBitString len) (BitsFaulty UnusedBitsTooMany len) := by
  unfold decodeBitString
  split_ifs with empty
  · exact (safe_pure _).faultsOn.congr (by simp [BitsFaulty, empty])
  · apply (behind orderly_readU8.safe accepts_readU8 fun unusedBits =>
      behind (orderly_readBytes (len - 1)).safe (accepts_readBytes (len - 1)) fun bytes =>
        faultsOn_bits_after_bytes unusedBits.toNat bytes).congr
    intro input
    constructor
    · rintro ⟨_, unusedBits, _, rfl, rfl, _, bytes, rest, rfl, ⟨length, rfl⟩, tooMany⟩
      exact ⟨unusedBits, bytes, rest, rfl, by omega, tooMany⟩
    · rintro ⟨unusedBits, bytes, rest, rfl, length, tooMany⟩
      exact ⟨[unusedBits], unusedBits, bytes ++ rest, rfl, rfl, bytes, bytes, rest, rfl,
        ⟨by omega, rfl⟩, tooMany⟩

/-- CreateObject counts the bits of all octets together. -/
def BitsTooFew (bytes unusedBits : Nat) : Prop := bytes * 8 < unusedBits

section

open UInt8

theorem shifted_eq_topBit (byte : UInt8) {j : Nat} (inByte : j < 8) :
    ((byte >>> ofNat (7 - j)) &&& 1 == 1) = topBit byte j := by
  have shift : (ofNat (7 - j)).toNat % 8 = 7 - j := by
    rw [toNat_ofNat']
    omega
  have low : ((byte >>> ofNat (7 - j)) &&& 1).toNat = byte.toNat / 2 ^ (7 - j) % 2 := by
    rw [UInt8.toNat_and, UInt8.toNat_shiftRight, shift, Nat.shiftRight_eq_div_pow]
    exact Nat.and_one_is_mod _
  rw [topBit_eq_testBit byte j inByte, Nat.testBit_eq_decide_div_mod_eq, ← low]
  apply Bool.eq_iff_iff.mpr
  rw [beq_iff_eq, decide_eq_true_iff, ← UInt8.toNat_inj]
  rfl

def indexedBits (data : Bytes) (total : Nat) : List Bool :=
  (List.range total).map fun i => topBit (data.getD (i / 8) 0) (i % 8)

theorem decodeIndexedBits_ok {unusedBits : UInt8} {data : Bytes}
    (fits : unusedBits.toNat ≤ data.length * 8) (decoder : ApduDecoder) :
    decodeIndexedBits (unusedBits :: data) decoder =
      .ok (.bitString (indexedBits data (data.length * 8 - unusedBits.toNat))) decoder := by
  have visits : ∀ i ∈ List.range (data.length * 8 - unusedBits.toNat), (do
        let byte ← checkedIndex data (i / 8)
        let bitIdx ← checkedSub 7 (i % 8)
        shiftedBit byte bitIdx) decoder = .ok (topBit (data.getD (i / 8) 0) (i % 8)) decoder := by
    intro i member
    have inside : i / 8 < data.length := by
      have := List.mem_range.mp member
      omega
    have indexed : (checkedIndex data (i / 8) : Decode String UInt8) decoder =
        .ok (data.getD (i / 8) 0) decoder := by
      rw [checkedIndex, List.getD_eq_getElem?_getD, List.getElem?_eq_getElem inside]
      rfl
    rw [bind_ok indexed, bind_ok (checkedSub_ok decoder (by omega)), shiftedBit,
      if_pos (by omega), shifted_eq_topBit _ (by omega)]
    rfl
  have first : (checkedIndex (unusedBits :: data) 0 : Decode String UInt8) decoder =
      .ok unusedBits decoder := rfl
  rw [decodeIndexedBits, if_neg (by simp), bind_ok first, List.drop_one, List.tail_cons,
    bind_ok (checkedSub_ok decoder fits),
    bind_ok (visitAll_ok decoder visits)]
  rfl

end

theorem decodeIndexedBits_underflow {unusedBits : UInt8} {data : Bytes}
    (short : BitsTooFew data.length unusedBits.toNat) (decoder : ApduDecoder) :
    decodeIndexedBits (unusedBits :: data) decoder = .fault .underflow := by
  have first : (checkedIndex (unusedBits :: data) 0 : Decode String UInt8) decoder =
      .ok unusedBits decoder := rfl
  rw [decodeIndexedBits, if_neg (by simp), bind_ok first, List.drop_one, List.tail_cons]
  exact bind_fault (checkedSub_underflow decoder short)

theorem faultsOn_decodeIndexedBits (octets : Bytes) :
    FaultsOn between (decodeIndexedBits octets) fun _ =>
      ∃ unusedBits data, octets = unusedBits :: data ∧ BitsTooFew data.length unusedBits.toNat := by
  intro consumed input
  cases octets with
  | nil => simp [Faults, decodeIndexedBits]
  | cons unusedBits data =>
    by_cases short : BitsTooFew data.length unusedBits.toNat
    · exact iff_of_true ⟨.underflow, decodeIndexedBits_underflow short _⟩
        ⟨unusedBits, data, rfl, short⟩
    · have fits : unusedBits.toNat ≤ data.length * 8 := Nat.le_of_not_lt short
      simp [Faults, decodeIndexedBits_ok fits, short]

theorem faultsOn_indexedBitString (text : String) (len : Nat) :
    FaultsOn between (orText text (readBytes len) >>= decodeIndexedBits)
      (BitsFaulty BitsTooFew len) := by
  apply (behind (orderly_orText text (orderly_readBytes len)).safe
    ((accepts_readBytes len).mapErr fun _ => text) faultsOn_decodeIndexedBits).congr
  intro input
  constructor
  · rintro ⟨_, _, rest, rfl, ⟨length, rfl⟩, unusedBits, bytes, rfl, short⟩
    exact ⟨unusedBits, bytes, rest, rfl, length, short⟩
  · rintro ⟨unusedBits, bytes, rest, rfl, length, short⟩
    exact ⟨unusedBits :: bytes, _, rest, rfl, ⟨length, rfl⟩, unusedBits, bytes, rfl, short⟩

section

def valueOctets (tag : TagInfo) : StreamFormat UInt8 BACnetValue := fun octets value rest =>
  if tag.isContext then ∃ number, unsignedOctets tag.len octets number rest ∧
    value = .unsigned number
  else match tag.tagNumber with
    | 0 => octets = [] ∧ value = .null
    | 1 => octets = [] ∧ value = .boolean (tag.len != 0)
    | 2 => ∃ number, unsignedOctets tag.len octets number rest ∧ value = .unsigned number
    | 3 => ∃ number, signedOctets tag.len octets number rest ∧ value = .signed number
    | 4 => octets.length = 4 ∧ value = .real (UInt32.ofNat (BigEndian.value octets))
    | 5 => octets.length = 8 ∧ value = .double (UInt64.ofNat (BigEndian.value octets))
    | 6 => octets.length = tag.len ∧ value = .octetString octets
    | 7 => ∃ text, textOctets tag.len octets text rest ∧ value = .characterString text
    | 8 => ∃ bits, bitOctets tag.len octets bits rest ∧ value = .bitString bits
    | 9 => ∃ number, unsignedOctets tag.len octets number rest ∧ value = .enumerated number
    | 12 => ∃ objectId, objectIdOctets octets objectId rest ∧ value = .objectIdentifier objectId
    | _ => False

variable (tag : TagInfo) (tagNumber : UInt8)

theorem accepts_decodeValueContent :
    Accepts between (decodeValueContent tag) (valueOctets tag) := by
  fun_cases decodeValueContent tag with
  | case1 context =>
    exact (content (accepts_decodeUnsigned _) _ _).congr (by simp [valueOctets, context])
  | case2 plain number | case3 plain number =>
    exact (accepts_pure _).congr (by simp [nothing, valueOctets, plain, number])
  | case4 plain number | case11 plain number =>
    exact (content (accepts_decodeUnsigned _) _ _).congr (by simp [valueOctets, plain, number])
  | case5 plain number =>
    exact (content (accepts_decodeSigned _) _ _).congr (by simp [valueOctets, plain, number])
  | case6 plain number =>
    exact (content accepts_decodeReal _ _).congr (by simp [valueOctets, plain, number])
  | case7 plain number =>
    exact (content accepts_decodeDouble _ _).congr (by simp [valueOctets, plain, number])
  | case8 plain number =>
    exact (content (accepts_readBytes _) _ _).congr (by simp [valueOctets, plain, number])
  | case9 plain number =>
    exact (content (accepts_decodeCharacterString _) _ _).congr
      (by simp [valueOctets, plain, number])
  | case10 plain number =>
    exact (content (accepts_decodeBitString _) _ _).congr (by simp [valueOctets, plain, number])
  | case12 plain number =>
    exact (content accepts_decodeObjectIdentifier _ _).congr (by simp [valueOctets, plain, number])
  | case13 plain =>
    apply (accepts_fail _).congr
    intro octets value rest
    simp_all [valueOctets]

def ContentFaulty (tag : TagInfo) (input : Bytes) : Prop :=
  tag.isContext = false ∧ (tag.tagNumber = 3 ∧ tag.len = 0 ∨
    tag.tagNumber = 8 ∧ BitsFaulty UnusedBitsTooMany tag.len input)

theorem not_contentFaulty {tag : TagInfo} (others : tag.tagNumber ≠ 3 ∧ tag.tagNumber ≠ 8)
    (input : Bytes) : ¬ContentFaulty tag input := by
  rintro ⟨_, ⟨signed, _⟩ | ⟨bits, _⟩⟩
  · exact others.1 signed
  · exact others.2 bits

theorem never_faults {Error Value : Type} {computation : Decode Error Value}
    (tame : Tame remaining computation) {faulty : Bytes → Prop}
    (never : ∀ input, ¬faulty input) : FaultsOn between computation faulty :=
  tame.safe.faultsOn_never never

theorem faultsOn_decodeValueContent :
    FaultsOn between (decodeValueContent tag) (ContentFaulty tag) := by
  have contents {Content : Type} {reads : Decode ApduError Content} {make : Content → BACnetValue}
      {faulty : Bytes → Prop} (faults : FaultsOn between reads faulty) :
      FaultsOn between (orApdu reads >>= fun content => pure (make content)) faulty :=
    (faults.mapErr _).ahead fun _ => safe_pure _
  have never {Content : Type} {reads : Decode ApduError Content} {make : Content → BACnetValue}
      (tame : Tame remaining reads) (others : tag.tagNumber ≠ 3 ∧ tag.tagNumber ≠ 8) :
      FaultsOn between (orApdu reads >>= fun content => pure (make content)) (ContentFaulty tag) :=
    contents (never_faults tame (not_contentFaulty others))
  fun_cases decodeValueContent tag with
  | case1 context =>
    exact contents (never_faults (orderly_decodeUnsigned _) (by simp [ContentFaulty, context]))
  | case2 _ number | case3 _ number =>
    exact never_faults (orderly_pure _) (not_contentFaulty (by rw [number]; decide))
  | case4 _ number | case11 _ number =>
    exact never (orderly_decodeUnsigned _) (by rw [number]; decide)
  | case5 plain number =>
    exact (contents (faultsOn_decodeSigned _)).congr (by simp [ContentFaulty, plain, number])
  | case6 _ number => exact never orderly_decodeReal (by rw [number]; decide)
  | case7 _ number => exact never orderly_decodeDouble (by rw [number]; decide)
  | case8 _ number => exact never (orderly_readBytes _) (by rw [number]; decide)
  | case9 _ number => exact never (orderly_decodeCharacterString _) (by rw [number]; decide)
  | case10 plain number =>
    exact (contents (faultsOn_decodeBitString _)).congr (by simp [ContentFaulty, plain, number])
  | case12 _ number => exact never orderly_decodeObjectIdentifier (by rw [number]; decide)
  | case13 _ _ _ _ three _ _ _ _ eight =>
    exact never_faults (orderly_fail _) (not_contentFaulty ⟨three, eight⟩)

/-- An octet that is read where it stands, and not missed where it does not. -/
def optionalOctet (octet : UInt8) : StreamFormat UInt8 Unit := fun octets _ rest =>
  if (octets ++ rest).head? = some octet then octets = [octet] else octets = []

theorem accepts_skipIf {present : ApduDecoder → Bool} {octet : UInt8}
    (sees : ∀ consumed input, present (between consumed input) = (input.head? == some octet)) :
    Accepts between (skipIf present) (optionalOctet octet) := by
  apply (ifSeen sees ((accepts_readU8.mapErr _).map _) (accepts_pure ())).congr
  intro octets value rest
  simp only [optionalOctet, beq_iff_eq]
  split_ifs with next
  · constructor
    · rintro ⟨byte, rfl, _⟩
      exact congrArg (fun byte => [byte]) (Option.some.inj next)
    · rintro rfl
      exact ⟨octet, rfl, trivial⟩
  · simp [nothing]

/-- A value, with or without the tags around it. -/
def valueField (tagNumber : UInt8) : StreamFormat UInt8 BACnetValue :=
  (optionalOctet (openingByte tagNumber)).followedBy fun _ => tagged AnyTag fun tag =>
    (valueOctets tag).followedBy fun value =>
      (optionalOctet (closingByte tagNumber)).followedBy fun _ => nothing value

def ValueFaulty (tagNumber : UInt8) : Bytes → Prop :=
  (optionalOctet (openingByte tagNumber)).Before fun _ => tagOctets.Before ContentFaulty

theorem closing_between (consumed input : Bytes) :
    (!(between consumed input).isEmpty && (between consumed input).isClosingTag tagNumber) =
      (input.head? == some (closingByte tagNumber)) := by
  rw [isClosingTag_between, isEmpty_between]
  cases input with
  | nil | cons => rfl

theorem accepts_decodePropertyValueFromContext :
    Accepts between (decodePropertyValueFromContext tagNumber) (valueField tagNumber) := by
  apply (accepts_skipIf (isOpeningTag_between tagNumber)).bind
  intro _
  apply accepts_tagged
  intro tag
  apply (accepts_decodeValueContent tag).bind
  intro value
  exact (accepts_skipIf (closing_between tagNumber)).bind fun _ => accepts_pure value

theorem faultsOn_decodePropertyValueFromContext :
    FaultsOn between (decodePropertyValueFromContext tagNumber) (ValueFaulty tagNumber) := by
  apply behind (orderly_skipIf _).safe (accepts_skipIf (isOpeningTag_between tagNumber))
  intro _
  apply behind (orderly_orApdu orderly_decodeTagInfo).safe (accepts_decodeTagInfo.mapErr _)
  intro tag
  apply (faultsOn_decodeValueContent tag).ahead
  intro value
  exact ((orderly_skipIf _).bind fun _ => orderly_pure value).safe

end

/-- The bits of a content that has enough of them. -/
def IndexedBits : Bytes → BACnetValue → Prop
  | [], value => value = .bitString []
  | unusedBits :: data, value => ¬BitsTooFew data.length unusedBits.toNat ∧
      value = .bitString (indexedBits data (data.length * 8 - unusedBits.toNat))

theorem accepts_decodeIndexedBits (octets : Bytes) :
    Accepts between (decodeIndexedBits octets) fun more value _ =>
      more = [] ∧ IndexedBits octets value := by
  cases octets with
  | nil => exact (accepts_pure _).congr (by simp [nothing, IndexedBits])
  | cons unusedBits data =>
    by_cases short : BitsTooFew data.length unusedBits.toNat
    · intro consumed input value after
      rw [decodeIndexedBits_underflow short]
      simp [IndexedBits, short]
    · have fits : unusedBits.toNat ≤ data.length * 8 := Nat.le_of_not_lt short
      exact (accepts_still (decodeIndexedBits_ok fits)).congr
        (by simp [nothing, IndexedBits, short])

def applicationOctets (tag : TagInfo) : StreamFormat UInt8 BACnetValue := fun octets value rest =>
  match tag.tagNumber with
  | 0 => octets = [] ∧ value = .null
  | 1 => octets = [] ∧ value = .boolean (tag.len != 0)
  | 2 => ∃ number, unsignedOctets tag.len octets number rest ∧ value = .unsigned number
  | 3 => ∃ number, unsignedOctets tag.len octets number rest ∧ value = .signed number.toInt32
  | 4 => tag.len = 4 ∧ octets.length = 4 ∧ value = .real (UInt32.ofNat (BigEndian.value octets))
  | 5 => tag.len = 8 ∧ octets.length = 8 ∧ value = .double (UInt64.ofNat (BigEndian.value octets))
  | 7 => ∃ text, textOctets tag.len octets text rest ∧ value = .characterString text
  | 8 => octets.length = tag.len ∧ IndexedBits octets value
  | 9 => ∃ number, unsignedOctets tag.len octets number rest ∧ value = .enumerated number
  | 12 => ∃ objectId, objectIdOctets octets objectId rest ∧ value = .objectIdentifier objectId
  | _ => skippedOctets tag.len octets () rest ∧ value = .null

theorem accepts_decodeApplicationContent (tag : TagInfo) :
    Accepts between (decodeApplicationContent tag) (applicationOctets tag) := by
  fun_cases decodeApplicationContent tag with
  | case1 number | case2 number =>
    exact (accepts_pure _).congr (by simp [nothing, applicationOctets, number])
  | case3 number | case4 number | case9 number =>
    exact (content (accepts_decodeUnsigned _) _ _).congr (by simp [applicationOctets, number])
  | case5 number | case6 number =>
    exact (((accepts_readIndexed _ _).computed fun _ => accepts_pure _).guarded _ _).congr
      (by simp [applicationOctets, number])
  | case7 number =>
    exact (content (accepts_decodeCharacterString _) _ _).congr
      (by simp [applicationOctets, number])
  | case8 number =>
    exact (((accepts_readBytes _).mapErr _).computed accepts_decodeIndexedBits).congr
      (by simp [applicationOctets, number])
  | case10 number =>
    exact (content accepts_decodeObjectIdentifier _ _).congr (by simp [applicationOctets, number])
  | case11 =>
    apply (accepts_attempt (accepts_readBytes _) readBytes_short (accepts_pure _)).congr
    intro octets value rest
    rw [followedBy_nothing]
    simp_all [applicationOctets, skippedOctets]

def applicationField : StreamFormat UInt8 BACnetValue :=
  tagged AnyTag fun tag octets value rest =>
    if tag.isContext then
      ∃ number, unsignedOctets tag.len octets number rest ∧ value = .unsigned number
    else applicationOctets tag octets value rest

theorem accepts_decodeApplicationValue :
    Accepts between decodeApplicationValue applicationField := by
  apply accepts_tagged
  intro tag
  split_ifs
  · exact ((accepts_decodeUnsigned _).mapErr _).map _
  · exact accepts_decodeApplicationContent tag

def ApplicationValueFaulty : Bytes → Prop := tagOctets.Before fun tag input =>
  tag.isContext = false ∧ tag.tagNumber = 8 ∧ BitsFaulty BitsTooFew tag.len input

theorem faultsOn_decodeApplicationContent (tag : TagInfo) :
    FaultsOn between (decodeApplicationContent tag) fun input =>
      tag.tagNumber = 8 ∧ BitsFaulty BitsTooFew tag.len input := by
  have readable {computation : Decode String BACnetValue} (tame : Tame remaining computation)
      (other : tag.tagNumber ≠ 8) : FaultsOn between computation fun input =>
        tag.tagNumber = 8 ∧ BitsFaulty BitsTooFew tag.len input :=
    never_faults tame fun _ bits => other bits.1
  fun_cases decodeApplicationContent tag with
  | case1 number | case2 number => exact readable (orderly_pure _) (by rw [number]; decide)
  | case3 number | case4 number | case9 number =>
    exact readable ((orderly_orText _ (orderly_decodeUnsigned _)).bind fun _ => orderly_pure _)
      (by rw [number]; decide)
  | case5 number | case6 number =>
    apply readable _ (by rw [number]; decide)
    apply (orderly_failIf _ _).bind
    intro _
    exact (orderly_readIndexed _ _).bind fun _ => orderly_pure _
  | case7 number =>
    exact readable ((orderly_orText _ (orderly_decodeCharacterString _)).bind
      fun _ => orderly_pure _) (by rw [number]; decide)
  | case8 number => exact (faultsOn_indexedBitString _ _).congr (by simp [number])
  | case10 number =>
    exact readable ((orderly_orText _ orderly_decodeObjectIdentifier).bind
      fun _ => orderly_pure _) (by rw [number]; decide)
  | case11 =>
    exact readable ((orderly_readBytes _).attempt.bind fun _ => orderly_pure _) ‹_›

theorem faultsOn_decodeApplicationValue :
    FaultsOn between decodeApplicationValue ApplicationValueFaulty := by
  apply behind (orderly_orText _ orderly_decodeTagInfo).safe
    (accepts_decodeTagInfo.mapErr _)
  intro tag
  split_ifs with context
  · have tame : Tame remaining (do
        let value ← orText "Failed to decode context value" (decodeUnsigned tag.len)
        pure (BACnetValue.unsigned value)) :=
      (orderly_orText _ (orderly_decodeUnsigned _)).bind fun _ => orderly_pure _
    exact never_faults tame (by simp [context])
  · exact (faultsOn_decodeApplicationContent tag).congr (by simp [context])

end Mabinogion.Bacnet
