import Mabinogion.Bacnet.PropertyRequests
import Mabinogion.Bacnet.Server

/-!
# ReadRange requests

The fields come in any order, each behind a context tag, and the last of each kind counts.
A count is read without its sign, so a negative one is lost unless it fills four bytes.
-/

namespace Mabinogion.Bacnet

open Checked ApduDecoder
open Server (ServiceResult)
open List (append_assoc)

inductive RangeType where
  | none
  | byPosition (referenceIndex count : Int32)
  | bySequenceNumber (referenceSeq : UInt64) (count : Int32)
  | byTime (referenceDate : BACnetDate) (referenceTime : BACnetTime) (count : Int32)

structure ReadRangeRequest where
  objectId : ObjectId
  propertyId : PropertyId
  arrayIndex : Option UInt32
  range : RangeType

namespace ReadRangeRequest

/-- Every error is the same reject. -/
def orMissing {Value : Type} (computation : Decode ApduError Value) : Decode ServiceResult Value :=
  computation.mapErr fun _ => .missingRequiredParameter

def decodeUnsignedFromDecoder : Decode ServiceResult UInt32 := do
  let tag ← orMissing decodeTagInfo
  orMissing (decodeUnsigned tag.len)

/-- The bytes are read as unsigned and their bits taken as signed. -/
def decodeSignedFromDecoder : Decode ServiceResult Int32 := do
  let tag ← orMissing decodeTagInfo
  let raw ← orMissing (decodeUnsigned tag.len)
  pure raw.toInt32

def decodeFourBytes {Value : Type} (make : UInt8 → UInt8 → UInt8 → UInt8 → Value) :
    Decode ServiceResult Value := do
  let _ ← orMissing decodeTagInfo
  let left ← gets remaining
  failIf (left < 4) .missingRequiredParameter
  let bytes ← orMissing (readBytes 4)
  let first ← checkedIndex bytes 0
  let second ← checkedIndex bytes 1
  let third ← checkedIndex bytes 2
  let fourth ← checkedIndex bytes 3
  pure (make first second third fourth)

def decodeDateFromDecoder : Decode ServiceResult BACnetDate := decodeFourBytes BACnetDate.mk

def decodeTimeFromDecoder : Decode ServiceResult BACnetTime := decodeFourBytes BACnetTime.mk

structure Fields where
  arrayIndex : Option UInt32
  range : RangeType

variable (fields : Fields)

def decodeField (tag : TagInfo) : Decode ServiceResult Fields :=
  match tag.tagNumber with
  | 2 => do
    let index ← orMissing (decodeUnsigned tag.len)
    pure { fields with arrayIndex := some index }
  | 3 => do
    let refIdx ← decodeUnsignedFromDecoder
    let count ← decodeSignedFromDecoder
    -- the closing tag, if any
    let _ ← attempt decodeTagInfo
    pure { fields with range := .byPosition refIdx.toInt32 count }
  | 6 => do
    let refSeq ← decodeUnsignedFromDecoder
    let count ← decodeSignedFromDecoder
    let _ ← attempt decodeTagInfo
    pure { fields with range := .bySequenceNumber refSeq.toUInt64 count }
  | 7 => do
    let date ← decodeDateFromDecoder
    let time ← decodeTimeFromDecoder
    let count ← decodeSignedFromDecoder
    let _ ← attempt decodeTagInfo
    pure { fields with range := .byTime date time count }
  | _ => do
    orMissing (skip tag.len)
    pure fields

/-- The loop breaks at a tag that cannot be read and at one without context. -/
def decodeTagged : Except ApduError TagInfo → Decode ServiceResult (Fields ⊕ Fields)
  | .error _ => pure (.inr fields)
  | .ok tag => do
    if tag.isContext then do
      let next ← decodeField fields tag
      pure (.inl next)
    else pure (.inr fields)

def decodeRound : Decode ServiceResult (Fields ⊕ Fields) := do
  if ← gets fun decoder => decide (decoder.remaining > 0) then do
    let tag ← attempt decodeTagInfo
    decodeTagged fields tag
  else pure (.inr fields)

def readRange : Decode ServiceResult ReadRangeRequest := do
  let tag0 ← orMissing decodeTagInfo
  failIf (tag0.tagNumber != 0 || !tag0.isContext) .missingRequiredParameter
  let objectId ← orMissing decodeObjectIdentifier
  let tag1 ← orMissing decodeTagInfo
  failIf (tag1.tagNumber != 1 || !tag1.isContext) .missingRequiredParameter
  let propRaw ← orMissing (decodeUnsigned tag1.len)
  let propertyId ← liftOption .missingRequiredParameter (PropertyId.fromU32 propRaw)
  let fields ← loop remaining decodeRound ⟨none, .none⟩
  pure ⟨objectId, propertyId, fields.arrayIndex, fields.range⟩

def decode (data : Bytes) : Option (Except ServiceResult ReadRangeRequest) :=
  if data.length < 7 then some (.error .missingRequiredParameter)
  else (readRange (.new data)).returned

section

variable {Value : Type} {allowed : Fault → Prop}

theorem orderly_orMissing {computation : Decode ApduError Value}
    (orderly : Orderly remaining allowed computation) :
    Orderly remaining allowed (orMissing computation) :=
  orderly.mapErr _

theorem orderly_decodeUnsignedFromDecoder : Orderly remaining allowed decodeUnsignedFromDecoder :=
  (orderly_orMissing orderly_decodeTagInfo).bind fun _ =>
    orderly_orMissing (orderly_decodeUnsigned _)

theorem orderly_decodeSignedFromDecoder : Orderly remaining allowed decodeSignedFromDecoder := by
  apply (orderly_orMissing orderly_decodeTagInfo).bind
  intro tag
  exact (orderly_orMissing (orderly_decodeUnsigned tag.len)).bind fun _ => orderly_pure _

theorem orderly_decodeFourBytes (make : UInt8 → UInt8 → UInt8 → UInt8 → Value) :
    Orderly remaining allowed (decodeFourBytes make) := by
  apply (orderly_orMissing orderly_decodeTagInfo).bind
  intro _
  apply (orderly_gets remaining).bind
  intro left
  apply (orderly_failIf _ _).bind
  intro _
  apply (orderly_orMissing (orderly_readBytes 4)).bind_returned
  intro bytes decoder after read
  have length := readBytes_length (mapErr_eq_ok decoder after read)
  have indexed (index : Nat) (inside : index < 4) : Orderly remaining allowed
      (checkedIndex bytes index : Decode ServiceResult UInt8) :=
    orderly_checkedIndex (by omega)
  apply (indexed 0 (by decide)).bind
  intro first
  apply (indexed 1 (by decide)).bind
  intro second
  apply (indexed 2 (by decide)).bind
  intro third
  exact (indexed 3 (by decide)).bind fun _ => orderly_pure _

variable (fields : Fields)

theorem orderly_decodeField (tag : TagInfo) :
    Orderly remaining allowed (decodeField fields tag) := by
  have ends (next : Fields) : Orderly remaining allowed (do
      let _ ← (attempt decodeTagInfo : Decode ServiceResult (Except ApduError TagInfo))
      pure next) :=
    orderly_decodeTagInfo.attempt.bind fun _ => orderly_pure _
  fun_cases decodeField fields tag with
  | case1 =>
    exact (orderly_orMissing (orderly_decodeUnsigned tag.len)).bind fun _ => orderly_pure _
  | case2 | case3 =>
    apply orderly_decodeUnsignedFromDecoder.bind
    intro reference
    exact orderly_decodeSignedFromDecoder.bind fun _ => ends _
  | case4 =>
    apply (orderly_decodeFourBytes _).bind
    intro date
    apply (orderly_decodeFourBytes _).bind
    intro time
    exact orderly_decodeSignedFromDecoder.bind fun _ => ends _
  | case5 => exact (orderly_orMissing (orderly_skip tag.len)).bind fun _ => orderly_pure _

theorem orderly_decodeTagged (tag : Except ApduError TagInfo) :
    Orderly remaining allowed (decodeTagged fields tag) := by
  cases tag with
  | error => exact orderly_pure _
  | ok tag =>
    apply Orderly.ite _ (orderly_pure _)
    exact (orderly_decodeField fields tag).bind fun _ => orderly_pure _

theorem brief_decodeRound : Brief remaining allowed (decodeRound fields) := by
  apply (orderly_gets _).bind_paced
  intro more
  apply Paced.ite _ (brief_stop _)
  refine ⟨orderly_decodeTagInfo.attempt.bind (orderly_decodeTagged fields), ?_⟩
  intro decoder step after returned goesOn
  obtain ⟨tag, middle, read, ended⟩ := bind_eq_ok _ _ returned
  cases tag with
  | error =>
    cases ended
    cases goesOn
  | ok tag =>
    have shorter := brisk_decodeTagInfo.consumes _ _ _ (attempt_eq_ok _ _ read)
    exact lt_of_le_of_lt ((@orderly_decodeTagged allowed fields (.ok tag)).ok ended) shorter

theorem orderly_readRange : Orderly remaining allowed readRange := by
  apply (orderly_orMissing orderly_decodeTagInfo).bind
  intro tag0
  apply (orderly_failIf _ _).bind
  intro _
  apply (orderly_orMissing orderly_decodeObjectIdentifier).bind
  intro objectId
  apply (orderly_orMissing orderly_decodeTagInfo).bind
  intro tag1
  apply (orderly_failIf _ _).bind
  intro _
  apply (orderly_orMissing (orderly_decodeUnsigned tag1.len)).bind
  intro propRaw
  apply (orderly_liftOption _ _).bind
  intro propertyId
  exact (Paced.loop brief_decodeRound _).bind fun _ => orderly_pure _

theorem decode_returns (data : Bytes) : decode data ≠ none := by
  unfold decode
  split
  · exact Option.some_ne_none _
  · exact orderly_readRange.returns _

end

section

open ApduEncoder

def encodeNumbered (tagNumber : UInt8) (reference : UInt32) (count : Int32) : Bytes :=
  encodeOpeningTag tagNumber ++
    (encodeUnsigned reference ++ (encodeSigned count ++ encodeClosingTag tagNumber))

def encodeRange : RangeType → Bytes
  | .byPosition referenceIndex count => encodeNumbered 3 referenceIndex.toUInt32 count
  | .bySequenceNumber referenceSeq count => encodeNumbered 6 referenceSeq.toUInt32 count
  | _ => []

def encodeReadRange (request : ReadRangeRequest) : Bytes :=
  encodeContextObjectIdentifier 0 request.objectId ++
    (encodeContextEnumerated 1 request.propertyId.code ++
      (encodeOptionalUnsigned 2 request.arrayIndex ++ encodeRange request.range))

/-- The identifiers are recognised, and the reference is one that can be written. -/
structure Valid (request : ReadRangeRequest) : Prop where
  objectId : ObjectIdRecognised request.objectId
  propertyId : PropertyIdRecognised request.propertyId
  reference : match request.range with
    | .byPosition _ _ => True
    | .bySequenceNumber referenceSeq _ => referenceSeq.toUInt32.toUInt64 = referenceSeq
    | _ => False

def readCount (count : Int32) : Int32 :=
  (decodeUnsignedRaw (valueContent (.signed count))).toInt32

def readRangeType : RangeType → RangeType
  | .byPosition referenceIndex count => .byPosition referenceIndex (readCount count)
  | .bySequenceNumber referenceSeq count => .bySequenceNumber referenceSeq (readCount count)
  | range => range

variable {follow : Bytes → Prop} {fields next : Fields} {bytes more : Bytes}

theorem decodes_decodeUnsignedFromDecoder (reference : UInt32) :
    Decodes Anything decodeUnsignedFromDecoder (encodeUnsigned reference) reference :=
  ((@decodes_valueTag (.unsigned reference) (contentLength_lt trivial)).mapErr _).andThen
    ((decodes_minimalBytes reference).mapErr _)

theorem decodes_decodeSignedFromDecoder (count : Int32) :
    Decodes Anything decodeSignedFromDecoder (encodeSigned count) (readCount count) := by
  apply ((@decodes_valueTag (.signed count) (contentLength_lt trivial)).mapErr _).andThen
  have read := (decodes_readBytes (valueContent (.signed count))).map decodeUnsignedRaw
  rw [valueContent_length_signed] at read
  exact (read.mapErr _).map UInt32.toInt32

theorem decodes_numbered (make : UInt32 → Int32 → Fields) (reference : UInt32) (count : Int32)
    {tag : TagInfo} (closes : Decodes Anything decodeTagInfo bytes tag) :
    Decodes Anything (do
        let reference ← decodeUnsignedFromDecoder
        let count ← decodeSignedFromDecoder
        let _ ← attempt decodeTagInfo
        pure (make reference count))
      (encodeUnsigned reference ++ (encodeSigned count ++ bytes))
      (make reference (readCount count)) := by
  apply (decodes_decodeUnsignedFromDecoder reference).andThen
  apply (decodes_decodeSignedFromDecoder count).andThen
  exact closes.attempt.map _

theorem decodes_loop {tag : TagInfo} {head content : Bytes} {result : Fields}
    (read : Decodes Anything decodeTagInfo head tag) (some : head ≠ [])
    (context : tag.isContext = true)
    (field : Decodes Anything (decodeField fields tag) content next)
    (later : Decodes follow (loop remaining decodeRound next) more result) :
    Decodes follow (loop remaining decodeRound fields) (head ++ content ++ more) result := by
  have round : Decodes Anything (decodeRound fields) (head ++ content) (.inl next) := by
    apply @Decodes.gets _ _ _ _ _ true
    · intro consumed rest _
      have positive := List.length_pos_of_ne_nil some
      simp only [remaining, between, List.length_append]
      exact decide_eq_true (by omega)
    · apply read.attempt.andThen
      show Decodes _ (if tag.isContext then _ else _) _ _
      rw [if_pos context]
      exact field.map Sum.inl
  intro consumed rest allowed
  have advances (acc : Fields) : Advances remaining (decodeRound acc) :=
    (brief_decodeRound acc).advances
  rw [append_assoc, loop_next advances (round consumed _ trivial), later _ rest allowed,
    append_assoc]

theorem decodes_loop_end : Decodes (fun rest => rest = []) (loop remaining decodeRound fields) []
    fields := by
  rintro consumed _ rfl
  apply loop_stop
  have none : decide ((between consumed ([] ++ [])).remaining > 0) = false := by
    simp [remaining, between]
  rw [decodeRound, bind_ok (gets_apply _ _), none, if_neg Bool.false_ne_true,
    List.append_nil consumed]
  rfl

theorem decodes_range {range : RangeType} (reference : match range with
      | .byPosition _ _ => True
      | .bySequenceNumber referenceSeq _ => referenceSeq.toUInt32.toUInt64 = referenceSeq
      | _ => False) :
    Decodes (fun rest => rest = []) (loop remaining decodeRound fields) (encodeRange range)
      { fields with range := readRangeType range } := by
  have pairing (byte : UInt8) (tag : TagInfo)
      (pairs : decodeTagNumber byte >>= decodeTagLength byte = pure tag) :
      Decodes Anything decodeTagInfo [byte] tag := by
    apply (decodes_readU8 byte).andThen
    rw [pairs]
    exact decodes_pure tag
  cases range with
  | byPosition referenceIndex count =>
    have field := decodes_numbered (fun reference count =>
      { fields with range := .byPosition reference.toInt32 count }) referenceIndex.toUInt32 count
      (pairing 0x3F ⟨3, true, 0⟩ rfl)
    have looped := decodes_loop (pairing 0x3E ⟨3, true, 0⟩ rfl) (by simp) rfl field decodes_loop_end
    rwa [List.append_nil] at looped
  | bySequenceNumber referenceSeq count =>
    have field := decodes_numbered (fun reference count =>
      { fields with range := .bySequenceNumber reference.toUInt64 count }) referenceSeq.toUInt32
      count (pairing 0x6F ⟨6, true, 0⟩ rfl)
    have looped := decodes_loop (pairing 0x6E ⟨6, true, 0⟩ rfl) (by simp) rfl field decodes_loop_end
    rw [List.append_nil, reference] at looped
    exact looped
  | none | byTime => exact absurd reference id

variable {request : ReadRangeRequest}

theorem decodes_fields (valid : request.Valid) :
    Decodes (fun rest => rest = []) (loop remaining decodeRound ⟨none, .none⟩)
      (encodeOptionalUnsigned 2 request.arrayIndex ++ encodeRange request.range)
      ⟨request.arrayIndex, readRangeType request.range⟩ := by
  cases request.arrayIndex with
  | none => exact decodes_range valid.reference
  | some index =>
    have tag := decodes_contextUnsigned_tag 2 (by decide) index
    have field := ((decodes_minimalBytes index).mapErr
      fun _ => ServiceResult.missingRequiredParameter).map fun index =>
        (⟨some index, .none⟩ : Fields)
    have starts : encodeContextTag 2 (minimalBytes index).length ≠ [] := by
      have small := minimalBytes_length_le index
      rw [contextTag_inline 2 (by decide) (by omega)]
      exact List.cons_ne_nil _ _
    exact decodes_loop tag starts rfl field (decodes_range valid.reference)

theorem decodes_readRange (valid : request.Valid) :
    Decodes (fun rest => rest = []) readRange (encodeReadRange request)
      { request with range := readRangeType request.range } := by
  rw [encodeReadRange, encodeContextObjectIdentifier, encodeContextEnumerated, append_assoc,
    append_assoc]
  apply ((decodes_contextTag 0 (by decide) 4).mapErr _).andThen
  apply (decodes_failIf _ rfl).andThen
  apply ((decodes_decodeObjectIdentifier request.objectId valid.objectId).mapErr _).andThen
  apply ((decodes_contextEnumerated_tag 1 (by decide) request.propertyId.code).mapErr _).andThen
  apply (decodes_failIf _ rfl).andThen
  apply ((decodes_contextEnumeratedBytes request.propertyId.code).mapErr _).andThen
  rw [valid.propertyId]
  apply (decodes_pure request.propertyId).andThen
  exact (decodes_fields valid).finish fun _ => rfl

/-- The count of the range has no sign to lose, or fills the four bytes with it. -/
def CountSurvives (request : ReadRangeRequest) : Prop :=
  match request.range with
  | .byPosition _ count | .bySequenceNumber _ count => 0 ≤ count ∨ count < -8388608
  | _ => True

theorem decode_encodeReadRange (valid : request.Valid) : decode (encodeReadRange request) =
      some (.ok { request with range := readRangeType request.range }) := by
  have long : ¬(encodeReadRange request).length < 7 := by
    obtain ⟨width, positive, small, bytes, _⟩ := contextEnumeratedBytes_eq request.propertyId.code
    rw [encodeReadRange, encodeContextObjectIdentifier, encodeContextEnumerated, bytes,
      BigEndian.bytes_length, contextTag_inline 0 (by decide) (by decide),
      contextTag_inline 1 (by decide) (by omega)]
    simp only [List.length_append, BigEndian.bytes_length, List.length_singleton]
    omega
  rw [decode, if_neg long, decodes_returned (decodes_readRange valid) rfl]

/-- A request for a numbered range is read back just when its count is. -/
theorem range_request_read_back_iff (request : ReadRangeRequest) (valid : request.Valid) :
    decode (encodeReadRange request) = some (.ok request) ↔ request.CountSurvives := by
  rw [decode_encodeReadRange valid]
  obtain ⟨objectId, propertyId, arrayIndex, range⟩ := request
  cases range with
  | byPosition | bySequenceNumber =>
    simp [readRangeType, readCount, CountSurvives, raw_signed_eq_iff]
  | none | byTime => exact absurd valid.reference id

theorem ten_records_read_back :
    decode (encodeReadRange ⟨⟨.trendLog, 1⟩, .logBuffer, none, .byPosition 1 10⟩) =
      some (.ok ⟨⟨.trendLog, 1⟩, .logBuffer, none, .byPosition 1 10⟩) :=
  (range_request_read_back_iff ⟨⟨.trendLog, 1⟩, .logBuffer, none, .byPosition 1 10⟩
    ⟨⟨rfl, by decide⟩, rfl, trivial⟩).mpr (.inl (by decide))

/-- The sign is lost. -/
theorem negative_count_read_positive :
    decode (encodeReadRange ⟨⟨.trendLog, 1⟩, .logBuffer, none, .byPosition 1 (-1)⟩) =
      some (.ok ⟨⟨.trendLog, 1⟩, .logBuffer, none, .byPosition 1 255⟩) :=
  decode_encodeReadRange ⟨⟨rfl, by decide⟩, rfl, trivial⟩

end

end ReadRangeRequest

end Mabinogion.Bacnet
