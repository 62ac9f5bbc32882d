import Mabinogion.Bacnet.PropertyService
import Mabinogion.Bacnet.ValueAgreement

/-!
# Property requests read back

What the property decoders return for the requests a client encodes. An array index is
recognised by the tag byte of its one-byte form only, so indices from 256 on are misread.
-/

namespace Mabinogion.Bacnet

open Checked ApduDecoder ApduEncoder UInt8 Decodes
open List (append_assoc flatMap_cons)

section

variable {Error Item : Type} {stop : ApduDecoder → Bool} {item : Decode Error Item}
variable {ahead follow : Bytes → Prop} {encode : Item → Bytes}

/-- How the items of a list are told apart from what comes behind the list. -/
structure ListFrame (stop : ApduDecoder → Bool) (ahead follow : Bytes → Prop)
    (encode : Item → Bytes) : Prop where
  starts : ∀ item consumed rest, stop (between consumed (encode item ++ rest)) = false
  next : ∀ item rest, ahead (encode item ++ rest)
  last : ∀ rest, follow rest → ahead rest
  ends : ∀ consumed rest, follow rest → stop (between consumed rest) = true

variable (frame : ListFrame stop ahead follow encode) (consumes : Consumes remaining item)

include frame consumes

theorem Decodes.collect (items : List Item)
    (each : ∀ entry ∈ items, Decodes ahead item (encode entry) entry) :
    Decodes follow (collectUntil remaining stop item) (items.flatMap encode) items := by
  suffices from_items : ∀ collected consumed rest, follow rest →
      collectFrom remaining stop item collected (between consumed (items.flatMap encode ++ rest)) =
        .ok (collected ++ items) (between (consumed ++ items.flatMap encode) rest) from
    from_items []
  induction items with
  | nil =>
    intro collected consumed rest allowed
    rw [List.flatMap_nil, List.nil_append, collectFrom_stop _ (frame.ends consumed rest allowed),
      List.append_nil, List.append_nil]
  | cons entry items ih =>
    intro collected consumed rest allowed
    have later := ih fun other member => each other (List.mem_cons_of_mem entry member)
    have boundary : ahead (items.flatMap encode ++ rest) := by
      cases items with
      | nil => exact frame.last rest allowed
      | cons next =>
        rw [flatMap_cons, append_assoc]
        exact frame.next next _
    have read := each entry List.mem_cons_self consumed (items.flatMap encode ++ rest) boundary
    rw [flatMap_cons, append_assoc,
      collectFrom_next consumes _ (frame.starts entry consumed _) read,
      later (collected ++ [entry]) (consumed ++ encode entry) rest allowed]
    simp only [append_assoc, List.singleton_append]

variable {good : Item → Prop} {items : List Item} {error : Error}
  (each : ∀ entry ∈ items, good entry → Decodes ahead item (encode entry) entry)

include each

theorem collect_fails (refused : ∀ entry ∈ items, ¬good entry → ∀ collected consumed rest,
      ∃ after, collectFrom remaining stop item collected
        (between consumed (encode entry ++ rest)) = .err error after)
    (bad : ∃ entry ∈ items, ¬good entry) (collected : List Item) (consumed rest : Bytes) :
    ∃ after, collectFrom remaining stop item collected
      (between consumed (items.flatMap encode ++ rest)) = .err error after := by
  induction items generalizing collected consumed with
  | nil => simp at bad
  | cons entry items ih =>
    rw [flatMap_cons, append_assoc]
    by_cases fine : good entry
    · have later : ∃ other ∈ items, ¬good other := by
        obtain ⟨other, member, wrong⟩ := bad
        rcases List.mem_cons.mp member with rfl | inRest
        · exact absurd fine wrong
        · exact ⟨other, inRest, wrong⟩
      have boundary : ahead (items.flatMap encode ++ rest) := by
        cases items with
        | nil => simp at later
        | cons next =>
          rw [flatMap_cons, append_assoc]
          exact frame.next next _
      rw [collectFrom_next consumes _ (frame.starts entry consumed _)
        (each entry List.mem_cons_self fine consumed _ boundary)]
      exact ih (fun other member => each other (List.mem_cons_of_mem entry member))
        (fun other member => refused other (List.mem_cons_of_mem entry member)) later _ _
    · exact refused entry List.mem_cons_self fine collected consumed _

theorem collect_ok_good (refused : ∀ entry ∈ items, ¬good entry → ∀ consumed rest, ∃ after,
      item (between consumed (encode entry ++ rest)) = .err error after)
    {read : List Item} {after : ApduDecoder}
    (returned : collectUntil remaining stop item (.new (items.flatMap encode)) = .ok read after) :
    ∀ entry ∈ items, good entry := by
  by_contra bad
  push Not at bad
  obtain ⟨stopped, failed⟩ := collect_fails frame consumes each
    (fun entry member bad collected consumed rest => (refused entry member bad consumed rest).imp
      fun _ => collectFrom_fails _ (frame.starts entry consumed rest))
    bad [] [] []
  rw [List.append_nil] at failed
  exact absurd (failed.symm.trans returned) (by simp)

end

variable (tagNumber : UInt8)

section

variable {follow : Bytes → Prop}

def PropertyIdRecognised (propertyId : PropertyId) : Prop :=
  PropertyId.fromU32 propertyId.code = some propertyId

theorem decodes_contextObjectIdentifier (short : tagNumber < 15) {objectId : ObjectId}
    (recognised : ObjectIdRecognised objectId) : Decodes Anything
    (contextObjectIdentifier tagNumber) (encodeContextObjectIdentifier tagNumber objectId) objectId
    := by
  have passes : (!true || tagNumber != tagNumber || 4 % 2 ^ 32 != 4) = false := by simp
  apply (decodes_orApdu (decodes_contextTag tagNumber short 4)).andThen
  exact (decodes_failIf ServiceError.invalidRequest passes).andThen
    (decodes_orApdu (decodes_decodeObjectIdentifier objectId recognised))

theorem decodes_contextEnumerated_tag (short : tagNumber < 15) (value : UInt32) : Decodes Anything
    decodeTagInfo (encodeContextTag tagNumber (contextEnumeratedBytes value).length)
    ⟨tagNumber, true, (contextEnumeratedBytes value).length⟩ := by
  obtain ⟨width, _, atMost, bytes, _⟩ := contextEnumeratedBytes_eq value
  have tag := decodes_contextTag tagNumber short (contextEnumeratedBytes value).length
  rwa [Nat.mod_eq_of_lt (by rw [bytes, BigEndian.bytes_length]; omega)] at tag

theorem decodes_contextPropertyIdentifier (short : tagNumber < 15) {propertyId : PropertyId}
    (recognised : PropertyIdRecognised propertyId) : Decodes Anything
    (contextPropertyIdentifier tagNumber) (encodeContextEnumerated tagNumber propertyId.code)
    propertyId := by
  have passes : (!true || tagNumber != tagNumber) = false := by simp
  apply (decodes_orApdu (decodes_contextEnumerated_tag tagNumber short propertyId.code)).andThen
  apply (decodes_failIf ServiceError.invalidRequest passes).andThen
  apply (decodes_orApdu (decodes_contextEnumeratedBytes propertyId.code)).finish
  intro decoder
  rw [recognised]
  rfl

theorem decodes_contextUnsigned_tag (short : tagNumber < 15) (value : UInt32) : Decodes Anything
    decodeTagInfo (encodeContextTag tagNumber (minimalBytes value).length)
    ⟨tagNumber, true, (minimalBytes value).length⟩ := by
  have small := minimalBytes_length_le value
  have tag := decodes_contextTag tagNumber short (minimalBytes value).length
  rwa [Nat.mod_eq_of_lt (by omega)] at tag

theorem decodes_optionalUnsigned {present : ApduDecoder → Bool} {tagNumber : UInt8}
    (short : tagNumber < 15) {value : UInt32}
    (sees : ∀ consumed rest,
      present (between consumed (encodeContextUnsigned tagNumber value ++ rest)) = true) :
    Decodes Anything (optionalUnsigned present) (encodeContextUnsigned tagNumber value)
      (some value) := by
  apply gets fun consumed rest _ => sees consumed rest
  rw [if_pos rfl]
  apply (decodes_orApdu (decodes_contextUnsigned_tag tagNumber short value)).andThen
  exact (decodes_orApdu (decodes_minimalBytes value)).map some

variable (priority : Option UInt8) (value : UInt32) {Result : Type} {present : ApduDecoder → Bool}
variable {next : Option UInt32 → Decode ServiceError Result} {bytes : Bytes} {result : Result}

/-- Where the look ahead does not find the tag, there is no number. -/
theorem Decodes.optional_absent
    (sees : ∀ consumed rest, follow rest → present (between consumed (bytes ++ rest)) = false)
    (right : Decodes follow (next none) bytes result) :
    Decodes follow (optionalUnsigned present >>= next) bytes result := by
  rw [optionalUnsigned, bind_bind]
  apply gets sees
  rw [if_neg Bool.false_ne_true]
  exact right

theorem peeks_between (byte : UInt8) (consumed rest : Bytes) :
    peeks byte (between consumed rest) = (rest.head? == some byte) := by
  rw [peeks, isEmpty_between, peek_between]
  cases rest with
  | nil => rfl
  | cons => simp

theorem contextTag_inline (short : tagNumber < 15) {len : Nat} (inline : len < 5) :
    encodeContextTag tagNumber len = [(tagNumber <<< 4) ||| (0x08 ||| ofNat len)] := by
  rw [encodeContextTag, if_pos short, if_pos inline, UInt8.or_assoc]

theorem contextUnsigned_head (short : tagNumber < 15) (value : UInt32) (rest : Bytes) :
    (encodeContextUnsigned tagNumber value ++ rest).head? =
      some ((tagNumber <<< 4) ||| (0x08 ||| ofNat (minimalBytes value).length)) := by
  have small := minimalBytes_length_le value
  rw [encodeContextUnsigned, contextTag_inline tagNumber short (by omega)]
  rfl

theorem minimalBytes_length_one_iff : (minimalBytes value).length = 1 ↔ value < 256 := by
  unfold minimalBytes
  constructor
  · intro one
    split_ifs at one with small
    · exact small
    all_goals simp at one
  · intro small
    rw [if_pos small]
    rfl

theorem minimalBytes_length_cases : (minimalBytes value).length = 1 ∨ (minimalBytes value).length =
      2 ∨ (minimalBytes value).length = 3 ∨ (minimalBytes value).length = 4 := by
  unfold minimalBytes
  split_ifs <;> simp

theorem contextEnumerated_head (propertyId : PropertyId) (rest : Bytes) :
    ∃ byte, (encodeContextEnumerated 0 propertyId.code ++ rest).head? = some byte ∧
      (byte = 0x09 ∨ byte = 0x0A ∨ byte = 0x0C) := by
  have lengths : (contextEnumeratedBytes propertyId.code).length = 1 ∨
      (contextEnumeratedBytes propertyId.code).length = 2 ∨
      (contextEnumeratedBytes propertyId.code).length = 4 := by
    unfold contextEnumeratedBytes
    split_ifs <;> simp
  rw [encodeContextEnumerated, contextTag_inline 0 (by decide) (by omega)]
  refine ⟨_, rfl, ?_⟩
  rcases lengths with length | length | length
  all_goals
    rw [length]
    decide

/-- Only numbers below 256 stand behind the tag of one byte. -/
theorem contextUnsigned_one_byte_iff (short : tagNumber < 15) (value : UInt32) (rest : Bytes) :
    (encodeContextUnsigned tagNumber value ++ rest).head? = some ((tagNumber <<< 4) ||| 0x09) ↔
      value < 256 := by
  have small := minimalBytes_length_le value
  have fitsTag : tagNumber < 16 := UInt8.lt_trans short (by decide)
  rw [contextUnsigned_head tagNumber short, Option.some_inj, ← minimalBytes_length_one_iff]
  by_cases inline : (minimalBytes value).length < 5
  · obtain ⟨fitsLow, _, low⟩ := context_length_byte _ inline
    obtain ⟨_, _, _, _, number⟩ := inline_length_byte _ inline
    constructor
    · intro same
      have lows := congrArg (fun byte : UInt8 => byte &&& 0x07) same
      simp only [(tag_byte_halves tagNumber _ fitsTag fitsLow).2.2, low,
        (tag_byte_halves tagNumber 0x09 fitsTag (by decide)).2.2] at lows
      rw [lows] at number
      exact number.symm
    · intro one
      rw [one]
      rfl
  · omega

def ShortIndex (index : Option UInt32) : Prop := ∀ value, index = some value → value < 256

def encodeOptionalUnsigned (tagNumber : UInt8) : Option UInt32 → Bytes
  | none => []
  | some value => encodeContextUnsigned tagNumber value

theorem Decodes.optional (short : tagNumber < 15) (number : Option UInt32)
    (sees : ∀ value, number = some value → ∀ consumed rest,
      present (between consumed (encodeContextUnsigned tagNumber value ++ rest)) = true)
    (misses : ∀ consumed rest, follow rest → present (between consumed (bytes ++ rest)) = false)
    (right : Decodes follow (next number) bytes result) :
    Decodes follow (optionalUnsigned present >>= next)
      (encodeOptionalUnsigned tagNumber number ++ bytes) result := by
  cases number with
  | none => exact optional_absent misses right
  | some value =>
    exact (decodes_optionalUnsigned short (sees value rfl)).andThen right

theorem peeks_contextUnsigned (short : tagNumber < 15) (value : UInt32) (consumed rest : Bytes)
    : peeks ((tagNumber <<< 4) ||| 0x09)
    (between consumed (encodeContextUnsigned tagNumber value ++ rest)) = decide (value < 256) := by
  rw [peeks_between]
  apply Bool.eq_iff_iff.mpr
  rw [beq_iff_eq, contextUnsigned_one_byte_iff tagNumber short, decide_eq_true_iff]

def encodePriority (tagNumber : UInt8) (priority : Option UInt8) : Bytes :=
  encodeOptionalUnsigned tagNumber (priority.map UInt8.toUInt32)

theorem short_priority : ShortIndex (priority.map toUInt32) := by
  intro value same
  obtain ⟨byte, _, rfl⟩ := Option.map_eq_some_iff.mp same
  rw [UInt32.lt_iff_toNat_lt, toNat_toUInt32]
  exact byte.toNat_lt

theorem priority_back : (priority.map toUInt32).map UInt32.toUInt8 = priority := by
  cases priority with
  | none => rfl
  | some => simp

end

variable (request : WritePropertyRequest)

section

open PropertyService

structure WritePropertyRequest.Valid (request : WritePropertyRequest) : Prop where
  objectIdentifier : ObjectIdRecognised request.objectIdentifier
  propertyIdentifier : PropertyIdRecognised request.propertyIdentifier
  propertyValue : Scalar request.propertyValue

variable (request : WritePropertyRequest)

/-- What follows the identifiers in a WriteProperty request. -/
def encodeIndexedValue : Bytes :=
  encodeOptionalUnsigned 2 request.propertyArrayIndex ++
    ((encodeOpeningTag 3 ++ (encodeValue request.propertyValue ++ encodeClosingTag 3)) ++
      (encodePriority 4 request.priority ++ []))

def encodeWriteProperty : Bytes :=
  encodeContextObjectIdentifier 0 request.objectIdentifier ++
    (encodeContextEnumerated 1 request.propertyIdentifier.code ++ encodeIndexedValue request)

theorem peeksPriority_contextUnsigned (value : UInt32) (consumed rest : Bytes) :
    peeksPriority (between consumed (encodeContextUnsigned 4 value ++ rest)) = true := by
  have head := contextUnsigned_head 4 (by decide) value rest
  rw [peeksPriority, isEmpty_between, peek_between, head]
  have some : (encodeContextUnsigned 4 value ++ rest).isEmpty = false := by
    cases bytes : encodeContextUnsigned 4 value ++ rest with
    | nil => simp [bytes] at head
    | cons => rfl
  rw [some]
  rcases minimalBytes_length_cases value with length | length | length | length
  all_goals
    rw [length]
    decide

theorem decodes_writeProperty (valid : request.Valid)
    (short : ShortIndex request.propertyArrayIndex)
    (fits : contentLength request.propertyValue < 2 ^ 32) :
    Decodes (fun rest => rest = []) writeProperty (encodeWriteProperty request) request := by
  have tags : (0 : UInt8) < 15 ∧ (1 : UInt8) < 15 ∧ (2 : UInt8) < 15 ∧ (3 : UInt8) < 15 ∧
      (4 : UInt8) < 15 := by
    decide
  apply (decodes_contextObjectIdentifier 0 tags.1 valid.objectIdentifier).andThen
  apply (decodes_contextPropertyIdentifier 1 tags.2.1 valid.propertyIdentifier).andThen
  apply optional 2 tags.2.2.1
  · intro value same consumed rest
    exact (peeks_contextUnsigned 2 tags.2.2.1 value consumed rest).trans
      (decide_eq_true (short value same))
  · intro consumed rest _
    rw [peeks_between]
    rfl
  apply (decodes_bracketed_value tags.2.2.2.1 valid.propertyValue fits).andThen
  apply optional 4 tags.2.2.2.2
  · intro value _ consumed rest
    exact peeksPriority_contextUnsigned value consumed rest
  · rintro consumed _ rfl
    simp [peeksPriority]
  rw [priority_back]
  exact decodes_pure request

theorem writeProperty_long_index (valid : request.Valid) {index : UInt32}
    (given : request.propertyArrayIndex = some index) (long : ¬index < 256)
    {decoded : WritePropertyRequest} {after : ApduDecoder}
    (returned : writeProperty (.new (encodeWriteProperty request)) = .ok decoded after) :
    decoded.propertyArrayIndex = none := by
  have objectIdentifier := decodes_contextObjectIdentifier 0 (by decide) valid.objectIdentifier []
    (encodeContextEnumerated 1 request.propertyIdentifier.code ++ encodeIndexedValue request) trivial
  have propertyIdentifier := decodes_contextPropertyIdentifier 1 (by decide)
    valid.propertyIdentifier ([] ++ encodeContextObjectIdentifier 0 request.objectIdentifier)
    (encodeIndexedValue request) trivial
  have unseen : ∀ consumed, optionalUnsigned (peeks 0x29)
      (between consumed (encodeIndexedValue request)) =
        .ok none (between consumed (encodeIndexedValue request)) := by
    intro consumed
    rw [optionalUnsigned, bind_ok (gets_apply _ _), encodeIndexedValue, given]
    have misses : peeks 0x29 (between consumed (encodeContextUnsigned 2 index ++
        ((encodeOpeningTag 3 ++ (encodeValue request.propertyValue ++ encodeClosingTag 3)) ++
          (encodePriority 4 request.priority ++ [])))) = false :=
      (peeks_contextUnsigned 2 (by decide) index consumed _).trans (decide_eq_false long)
    rw [encodeOptionalUnsigned, misses, if_neg Bool.false_ne_true]
    rfl
  change writeProperty (between [] (encodeWriteProperty request)) = _ at returned
  rw [writeProperty, encodeWriteProperty, bind_ok objectIdentifier,
    bind_ok propertyIdentifier, bind_ok (unseen _)] at returned
  obtain ⟨value, _, _, returned⟩ := bind_eq_ok _ _ returned
  obtain ⟨priority, _, rfl⟩ := map_eq_ok _ _ returned
  rfl

theorem decodeWriteProperty_iff (valid : request.Valid) :
    decodeWriteProperty (encodeWriteProperty request) = some (.ok request) ↔
      ShortIndex request.propertyArrayIndex ∧ contentLength request.propertyValue < 2 ^ 32 := by
  constructor
  · intro decoded
    obtain ⟨after, returned⟩ := returned_ok decoded
    constructor
    · intro index given
      by_contra long
      have lost := writeProperty_long_index request valid given long returned
      rw [given] at lost
      simp at lost
    · obtain ⟨_, _, _, returned⟩ := bind_eq_ok _ _ returned
      obtain ⟨_, _, _, returned⟩ := bind_eq_ok _ _ returned
      obtain ⟨_, _, _, returned⟩ := bind_eq_ok _ _ returned
      obtain ⟨value, _, read, returned⟩ := bind_eq_ok _ _ returned
      obtain ⟨_, _, same⟩ := map_eq_ok _ _ returned
      rw [same]
      exact decoded_value_fits read
  · rintro ⟨short, fits⟩
    exact decodes_returned (decodes_writeProperty request valid short fits) rfl

end

end Mabinogion.Bacnet
