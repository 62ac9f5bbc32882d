import Mabinogion.Bacnet.PropertyFormat

/-!
# Property lists read back

Property references between tags, in access specifications up to the end of the request. An
index that is not recognised has the whole request refused.
-/

namespace Mabinogion.Bacnet

open Checked ApduDecoder ApduEncoder WritePropertyMultipleRequest Decodes PropertyService
open List (append_assoc nil_append)

variable (reference : PropertyReference)

def encodeReference : Bytes :=
  encodeContextEnumerated 0 reference.propertyId.code ++
    encodeOptionalUnsigned 1 reference.arrayIndex

def NotIndexByte (rest : Bytes) : Prop := rest.head? ≠ some 0x19

theorem closing_one : encodeClosingTag 1 = [0x1F] := by decide

theorem reference_head (rest : Bytes) :
    ∃ byte, (encodeReference reference ++ rest).head? = some byte ∧
      (byte = 0x09 ∨ byte = 0x0A ∨ byte = 0x0C) := by
  rw [encodeReference, append_assoc]
  exact contextEnumerated_head reference.propertyId _

/-- A byte that neither an item nor the closing tag starts with is told apart from both. -/
theorem referenceFrame {Item : Type} {encode : Item → Bytes} (lookahead : UInt8)
    (heads : ∀ item rest, ∃ byte, (encode item ++ rest).head? = some byte ∧
      (byte = 0x09 ∨ byte = 0x0A ∨ byte = 0x0C))
    (apart : lookahead ≠ 0x09 ∧ lookahead ≠ 0x0A ∧ lookahead ≠ 0x0C ∧ lookahead ≠ 0x1F) :
    ListFrame (isClosingTag 1) (fun rest => rest.head? ≠ some lookahead)
      (fun rest => rest.head? = some 0x1F) encode where
  starts := by
    intro item consumed rest
    obtain ⟨byte, head, known⟩ := heads item rest
    rw [isClosingTag_between, head]
    rcases known with rfl | rfl | rfl <;> decide
  next := by
    intro item rest same
    obtain ⟨byte, head, known⟩ := heads item rest
    rw [head, Option.some_inj] at same
    rcases known with rfl | rfl | rfl
    · exact apart.1 same.symm
    · exact apart.2.1 same.symm
    · exact apart.2.2.1 same.symm
  last := by
    intro rest closing same
    rw [closing, Option.some_inj] at same
    exact apart.2.2.2 same.symm
  ends := by
    intro consumed rest closing
    rw [isClosingTag_between, closing]
    rfl

theorem contextPropertyIdentifier_refused {bytes : Bytes} {tag : TagInfo}
    (read : Decodes Anything decodeTagInfo bytes tag) (other : tag.tagNumber ≠ 0)
    (consumed rest : Bytes) :
    contextPropertyIdentifier 0 (between consumed (bytes ++ rest)) =
      .err .invalidRequest (between (consumed ++ bytes) rest) := by
  have wrong : (!tag.isContext || tag.tagNumber != 0) = true := by simp [other]
  rw [contextPropertyIdentifier, bind_ok (decodes_orApdu read consumed rest trivial)]
  apply bind_err
  rw [wrong]
  rfl

theorem not_short_index {index : Option UInt32} (long : ¬ShortIndex index) :
    ∃ value, index = some value ∧ ¬value < 256 := by
  unfold ShortIndex at long
  push Not at long
  exact long

theorem index_not_closing (index : UInt32) (consumed rest : Bytes) :
    isClosingTag 1 (between consumed (encodeContextUnsigned 1 index ++ rest)) = false := by
  rw [isClosingTag_between, contextUnsigned_head 1 (by decide)]
  rcases minimalBytes_length_cases index with length | length | length | length
  all_goals
    rw [length]
    decide

theorem longIndex_refused (index : UInt32) (consumed rest : Bytes) :
    ∃ after, contextPropertyIdentifier 0
      (between consumed (encodeContextUnsigned 1 index ++ rest)) = .err .invalidRequest after := by
  rw [encodeContextUnsigned, append_assoc]
  exact ⟨_, contextPropertyIdentifier_refused (decodes_contextUnsigned_tag 1 (by decide) index)
    (show (1 : UInt8) ≠ 0 by decide) consumed _⟩

section

variable {present : ApduDecoder → Bool}
variable (sees : ∀ consumed rest, present (between consumed rest) = (rest.head? == some 0x19))

include sees

theorem decodes_propertyReference (reference : PropertyReference)
    (recognised : PropertyIdRecognised reference.propertyId)
    (short : ShortIndex reference.arrayIndex) :
    Decodes NotIndexByte (decodePropertyReference present) (encodeReference reference)
      reference := by
  rw [encodeReference, ← List.append_nil (encodeOptionalUnsigned 1 _)]
  apply (decodes_contextPropertyIdentifier 0 (by decide) recognised).andThen
  apply Decodes.optional 1 (by decide)
  · intro value same consumed rest
    rw [sees, beq_iff_eq]
    exact (contextUnsigned_one_byte_iff 1 (by decide) value rest).mpr (short value same)
  · intro consumed rest unindexed
    rw [nil_append, sees, beq_eq_false_iff_ne]
    exact unindexed
  exact decodes_pure reference

theorem decodes_reference_without_index (propertyId : PropertyId)
    (recognised : PropertyIdRecognised propertyId) (index : UInt32) (large : ¬index < 256) :
    Decodes (fun rest => ∃ more, rest = encodeContextUnsigned 1 index ++ more)
      (decodePropertyReference present) (encodeContextEnumerated 0 propertyId.code)
      ⟨propertyId, none⟩ := by
  apply (decodes_contextPropertyIdentifier 0 (by decide) recognised).lastly
  apply optional_absent
  · rintro consumed _ ⟨more, rfl⟩
    rw [nil_append, sees, beq_eq_false_iff_ne]
    exact fun seen => large ((contextUnsigned_one_byte_iff 1 (by decide) index more).mp seen)
  · exact decodes_pure _

end

section

variable {Item Specification : Type} {item : Decode ServiceError Item}
variable {make : ObjectId → List Item → Specification}
variable {ahead : Bytes → Prop} {encode : Item → Bytes}

def encodeAccessSpecification (encode : Item → Bytes) (objectId : ObjectId)
    (items : List Item) : Bytes :=
  encodeContextObjectIdentifier 0 objectId ++
    (encodeOpeningTag 1 ++ (items.flatMap encode ++ encodeClosingTag 1))

theorem decodes_expectOpeningTag (tagNumber : UInt8) (short : tagNumber < 15) :
    Decodes Anything (expectOpeningTag tagNumber) (encodeOpeningTag tagNumber) () := by
  have opening : encodeOpeningTag tagNumber = [openingByte tagNumber] := by
    rw [encodeOpeningTag, openingByte, if_pos short, if_pos short]
  rw [opening]
  apply Decodes.gets
  · intro consumed rest _
    rw [isOpeningTag_between]
    exact beq_self_eq_true _
  · apply (decodes_failIf _ rfl).andThen
    exact (decodes_orApdu (decodes_readU8 _)).map fun _ => ()

variable (frame : ListFrame (isClosingTag 1) ahead (fun rest => rest.head? = some 0x1F) encode)
variable (consumes : Consumes remaining item)
variable (objectId : ObjectId) (recognised : ObjectIdRecognised objectId) (items : List Item)

include frame consumes recognised

theorem decodes_accessSpecification
    (each : ∀ entry ∈ items, Decodes ahead item (encode entry) entry) :
    Decodes Anything (accessSpecification item make)
      (encodeAccessSpecification encode objectId items) (make objectId items) := by
  apply (decodes_contextObjectIdentifier 0 (by decide) recognised).andThen
  apply (decodes_expectOpeningTag 1 (by decide)).andThen
  apply (collect frame consumes items each).bind
  · rw [closing_one]
    exact (decodes_orApdu (decodes_readU8 0x1F)).map fun _ => make objectId items
  · intro rest _
    rw [closing_one]
    rfl

theorem accessSpecification_refused (good : Item → Prop)
    (each : ∀ entry ∈ items, good entry → Decodes ahead item (encode entry) entry)
    (refused : ∀ entry ∈ items, ¬good entry → ∀ collected consumed rest, ∃ after,
      collectFrom remaining (isClosingTag 1) item collected
        (between consumed (encode entry ++ rest)) = .err .invalidRequest after)
    (bad : ¬∀ entry ∈ items, good entry) (consumed rest : Bytes) :
    ∃ after, accessSpecification item make
      (between consumed (encodeAccessSpecification encode objectId items ++ rest)) =
        .err .invalidRequest after := by
  push Not at bad
  obtain ⟨after, failed⟩ := collect_fails frame consumes each refused bad []
    ((consumed ++ encodeContextObjectIdentifier 0 objectId) ++ encodeOpeningTag 1)
    (encodeClosingTag 1 ++ rest)
  have identified := decodes_contextObjectIdentifier 0 (by decide) recognised consumed
    (encodeOpeningTag 1 ++ (items.flatMap encode ++ (encodeClosingTag 1 ++ rest))) trivial
  have opened := decodes_expectOpeningTag 1 (by decide)
    (consumed ++ encodeContextObjectIdentifier 0 objectId)
    (items.flatMap encode ++ (encodeClosingTag 1 ++ rest)) trivial
  refine ⟨after, ?_⟩
  rw [encodeAccessSpecification, append_assoc, append_assoc, append_assoc,
    accessSpecification, bind_ok identified, bind_ok opened]
  exact bind_err failed

omit frame consumes recognised in
/-- Specifications up to the end of the data. -/
theorem specificationFrame (objectIdOf : Specification → ObjectId)
    (itemsOf : Specification → List Item) :
    ListFrame isEmpty Anything (fun rest => rest = []) fun specification =>
      encodeAccessSpecification encode (objectIdOf specification) (itemsOf specification) where
  starts := by
    intro specification consumed rest
    rw [isEmpty_between, encodeAccessSpecification, encodeContextObjectIdentifier,
      contextTag_inline 0 (by decide) (by decide)]
    rfl
  next := fun _ _ => trivial
  last := fun _ _ => trivial
  ends := by
    rintro consumed _ rfl
    rw [isEmpty_between]
    rfl

end

section

open ReadPropertyMultipleHandler

variable (specification : ReadAccessSpecification)

def encodeReadAccessSpecification : Bytes :=
  encodeAccessSpecification encodeReference specification.objectId
    specification.propertyReferences

structure ReadAccessSpecification.Valid (specification : ReadAccessSpecification) : Prop where
  objectId : ObjectIdRecognised specification.objectId
  propertyIds : ∀ reference ∈ specification.propertyReferences,
    PropertyIdRecognised reference.propertyId

theorem peeksIndex_between (consumed rest : Bytes) :
    peeksIndex (between consumed rest) = (rest.head? == some 0x19) := by
  rw [peeksIndex, isEmpty_between, isClosingTag_between, peek_between]
  cases rest with
  | nil => rfl
  | cons byte =>
    by_cases index : byte = 0x19
    · rw [index]
      rfl
    · simp [index]

theorem readFrame : ListFrame (isClosingTag 1) NotIndexByte (fun rest => rest.head? = some 0x1F)
      encodeReference :=
  referenceFrame 0x19 reference_head (by decide)

theorem longIndex_reference_refused (reference : PropertyReference)
    (recognised : PropertyIdRecognised reference.propertyId)
    (long : ¬ShortIndex reference.arrayIndex) (collected : List PropertyReference)
    (consumed rest : Bytes) :
    ∃ after, collectFrom remaining (isClosingTag 1) propertyReference collected
      (between consumed (encodeReference reference ++ rest)) = .err .invalidRequest after := by
  obtain ⟨index, given, large⟩ := not_short_index long
  have read := decodes_reference_without_index peeksIndex_between reference.propertyId recognised
    index large consumed (encodeContextUnsigned 1 index ++ rest) ⟨rest, rfl⟩
  have starts := readFrame.starts reference consumed rest
  rw [encodeReference, given, encodeOptionalUnsigned, append_assoc] at starts ⊢
  rw [propertyReference, collectFrom_next (brisk_decodePropertyReference _).consumes _ starts read]
  obtain ⟨after, refused⟩ := longIndex_refused index
    (consumed ++ encodeContextEnumerated 0 reference.propertyId.code) rest
  exact ⟨after, collectFrom_fails _ (index_not_closing index _ rest) (bind_err refused)⟩

/-- The references of a specification without an index that is misread. -/
def ReadAccessSpecification.ReadBack : Prop :=
  ∀ reference ∈ specification.propertyReferences, ShortIndex reference.arrayIndex

theorem decodes_readAccessSpecification
    (valid : specification.Valid) (readBack : specification.ReadBack) :
    Decodes Anything readAccessSpecification (encodeReadAccessSpecification specification)
      specification :=
  decodes_accessSpecification readFrame (brisk_decodePropertyReference peeksIndex).consumes
    specification.objectId valid.objectId specification.propertyReferences
    fun reference member => decodes_propertyReference peeksIndex_between reference
      (valid.propertyIds reference member) (readBack reference member)

theorem readAccessSpecification_refused (valid : specification.Valid)
    (misread : ¬specification.ReadBack) (consumed rest : Bytes) :
    ∃ after, readAccessSpecification
      (between consumed (encodeReadAccessSpecification specification ++ rest)) =
        .err .invalidRequest after :=
  accessSpecification_refused readFrame (brisk_decodePropertyReference peeksIndex).consumes
    specification.objectId valid.objectId specification.propertyReferences
    (fun reference => ShortIndex reference.arrayIndex)
    (fun reference member => decodes_propertyReference peeksIndex_between reference
      (valid.propertyIds reference member))
    (fun reference member => longIndex_reference_refused reference
      (valid.propertyIds reference member))
    misread consumed rest

theorem readSpecificationFrame :
    ListFrame isEmpty Anything (fun rest => rest = []) encodeReadAccessSpecification :=
  specificationFrame _ _

theorem decodeReadPropertyMultiple_iff (specifications : List ReadAccessSpecification)
    (valid : ∀ specification ∈ specifications, specification.Valid) :
    decodeRequest (specifications.flatMap encodeReadAccessSpecification) =
        some (.ok ⟨specifications⟩) ↔
      ∀ specification ∈ specifications, specification.ReadBack := by
  constructor
  · intro decoded
    obtain ⟨final, returned⟩ := returned_ok decoded
    obtain ⟨_, middle, ran, _⟩ := bind_eq_ok _ _ returned
    exact collect_ok_good readSpecificationFrame brisk_readAccessSpecification.consumes
      (fun specification member => decodes_readAccessSpecification specification
        (valid specification member))
      (fun specification member => readAccessSpecification_refused specification
        (valid specification member))
      ran
  · intro readBack
    have list := collect readSpecificationFrame brisk_readAccessSpecification.consumes
      specifications fun specification member => decodes_readAccessSpecification specification
        (valid specification member) (readBack specification member)
    exact decodes_returned (list.map ReadPropertyMultipleRequest.mk) rfl

end

section

open WritePropertyMultipleHandler

variable (write : PropertyValueWrite)

def encodePropertyValueWrite : Bytes :=
  encodeReference write.propertyRef ++
    ((encodeOpeningTag 2 ++ (encodeValue write.value ++ encodeClosingTag 2)) ++
      (encodePriority 3 write.priority ++ []))

def encodeWriteAccessSpecification (specification : WriteAccessSpecification) : Bytes :=
  encodeAccessSpecification encodePropertyValueWrite specification.objectId
    specification.propertyValues

structure WriteAccessSpecification.Valid (specification : WriteAccessSpecification) : Prop where
  objectId : ObjectIdRecognised specification.objectId
  propertyIds : ∀ write ∈ specification.propertyValues,
    PropertyIdRecognised write.propertyRef.propertyId
  values : ∀ write ∈ specification.propertyValues, Scalar write.value

def PropertyValueWrite.ReadBack : Prop :=
  ShortIndex write.propertyRef.arrayIndex ∧ contentLength write.value < 2 ^ 32

theorem writeFrame : ListFrame (isClosingTag 1) (fun rest => rest.head? ≠ some 0x39)
      (fun rest => rest.head? = some 0x1F) encodePropertyValueWrite := by
  refine referenceFrame 0x39 (fun write rest => ?_) (by decide)
  rw [encodePropertyValueWrite, append_assoc]
  exact reference_head write.propertyRef _

theorem opening_two : encodeOpeningTag 2 = [0x2E] := by decide

variable (specification : WriteAccessSpecification) (write : PropertyValueWrite)

theorem decodes_propertyValueWrite (recognised : PropertyIdRecognised write.propertyRef.propertyId)
    (scalar : Scalar write.value) (readBack : write.ReadBack) :
    Decodes (fun rest => rest.head? ≠ some 0x39) propertyValueWrite
      (encodePropertyValueWrite write) write := by
  have reference := decodes_propertyReference (peeks_between 0x19) write.propertyRef recognised
    readBack.1
  apply reference.bind
  · apply (decodes_bracketed_value (by decide) scalar readBack.2).andThen
    apply Decodes.optional 3 (by decide)
    · intro value same consumed rest
      exact (peeks_contextUnsigned 3 (by decide) value consumed rest).trans
        (decide_eq_true (short_priority write.priority value same))
    · intro consumed rest unprioritised
      rw [nil_append, peeks_between, beq_eq_false_iff_ne]
      exact unprioritised
    rw [priority_back]
    exact decodes_pure write
  · intro rest _ same
    rw [opening_two] at same
    exact absurd (Option.some.inj same) (by decide)

theorem decodes_openingTag_two : Decodes Anything decodeTagInfo [0x2E] ⟨2, true, 0⟩ :=
  (decodes_readU8 0x2E).andThen (decodes_pure _)

theorem decodes_context_value (index : UInt32) :
    Decodes (NotClosing 2) (decodePropertyValueFromContext 2) (encodeContextUnsigned 1 index)
      (.unsigned index) := by
  apply skip_absent
  · intro consumed rest _
    rw [isOpeningTag_between, contextUnsigned_head 1 (by decide)]
    rcases minimalBytes_length_cases index with length | length | length | length
    all_goals
      rw [length]
      decide
  · apply (decodes_orApdu (decodes_contextUnsigned_tag 1 (by decide) index)).andThen
    have number : Decodes Anything
        (decodeValueContent ⟨1, true, (minimalBytes index).length⟩) (minimalBytes index)
        (.unsigned index) :=
      (decodes_orApdu (decodes_minimalBytes index)).map BACnetValue.unsigned
    apply number.lastly
    apply skip_absent
    · intro consumed rest unclosed
      rw [nil_append, isClosingTag_between, beq_eq_false_iff_ne.mpr unclosed, Bool.and_false]
    · exact decodes_pure _

theorem decodes_misread_index (propertyId : PropertyId)
    (recognised : PropertyIdRecognised propertyId) (index : UInt32) (large : ¬index < 256) :
    Decodes (fun rest => rest.head? = some 0x2E) propertyValueWrite
      (encodeContextEnumerated 0 propertyId.code ++ (encodeContextUnsigned 1 index ++ []))
      ⟨⟨propertyId, none⟩, .unsigned index, none⟩ := by
  have reference := decodes_reference_without_index (peeks_between 0x19) propertyId recognised
    index large
  apply reference.bind
  · apply (decodes_context_value index).bind
    · apply optional_absent
      · intro consumed rest opening
        rw [nil_append, peeks_between, opening]
        decide
      · exact decodes_pure _
    · intro rest opening
      rw [nil_append, NotClosing, opening]
      decide
  · intro rest _
    exact ⟨rest, by rw [List.append_nil]⟩

theorem longIndex_write_refused (recognised : PropertyIdRecognised write.propertyRef.propertyId)
    (long : ¬ShortIndex write.propertyRef.arrayIndex) (collected : List PropertyValueWrite)
    (consumed rest : Bytes) :
    ∃ after, collectFrom remaining (isClosingTag 1) propertyValueWrite collected
      (between consumed (encodePropertyValueWrite write ++ rest)) = .err .invalidRequest after := by
  obtain ⟨index, given, large⟩ := not_short_index long
  have starts := writeFrame.starts write consumed rest
  have read := decodes_misread_index write.propertyRef.propertyId recognised index large consumed
    (((encodeOpeningTag 2 ++ (encodeValue write.value ++ encodeClosingTag 2)) ++
      (encodePriority 3 write.priority ++ [])) ++ rest)
    (by rw [opening_two]; rfl)
  rw [List.append_nil] at read
  rw [encodePropertyValueWrite, encodeReference, given, encodeOptionalUnsigned,
    append_assoc (encodeContextEnumerated 0 _ ++ encodeContextUnsigned 1 index)] at starts ⊢
  rw [collectFrom_next consumes_propertyValueWrite _ starts read, opening_two]
  have refused := contextPropertyIdentifier_refused decodes_openingTag_two
    (show (2 : UInt8) ≠ 0 by decide)
    (consumed ++ (encodeContextEnumerated 0 write.propertyRef.propertyId.code ++
      encodeContextUnsigned 1 index))
    (((encodeValue write.value ++ encodeClosingTag 2) ++ (encodePriority 3 write.priority ++ [])) ++
      rest)
  exact ⟨_, collectFrom_fails _ (by rw [isClosingTag_between]; rfl) (bind_err (bind_err refused))⟩

theorem decodes_writeAccessSpecification (valid : specification.Valid)
    (readBack : ∀ write ∈ specification.propertyValues, write.ReadBack) :
    Decodes Anything writeAccessSpecification (encodeWriteAccessSpecification specification)
      specification :=
  decodes_accessSpecification writeFrame consumes_propertyValueWrite specification.objectId
    valid.objectId specification.propertyValues
    fun write member => decodes_propertyValueWrite write (valid.propertyIds write member)
      (valid.values write member) (readBack write member)

theorem writeAccessSpecification_refused (valid : specification.Valid)
    (fits : ∀ write ∈ specification.propertyValues, contentLength write.value < 2 ^ 32)
    (misread : ¬∀ write ∈ specification.propertyValues, ShortIndex write.propertyRef.arrayIndex)
    (consumed rest : Bytes) :
    ∃ after, writeAccessSpecification
      (between consumed (encodeWriteAccessSpecification specification ++ rest)) =
        .err .invalidRequest after :=
  accessSpecification_refused writeFrame consumes_propertyValueWrite specification.objectId
    valid.objectId specification.propertyValues
    (fun write => ShortIndex write.propertyRef.arrayIndex)
    (fun write member short => decodes_propertyValueWrite write (valid.propertyIds write member)
      (valid.values write member) ⟨short, fits write member⟩)
    (fun write member => longIndex_write_refused write (valid.propertyIds write member))
    misread consumed rest

theorem writeSpecificationFrame :
    ListFrame isEmpty Anything (fun rest => rest = []) encodeWriteAccessSpecification :=
  specificationFrame _ _

variable {decoder after : ApduDecoder}

theorem propertyValueWrite_fits {write : PropertyValueWrite}
    (returned : propertyValueWrite decoder = .ok write after) :
    contentLength write.value < 2 ^ 32 := by
  obtain ⟨_, _, _, returned⟩ := bind_eq_ok _ _ returned
  obtain ⟨value, _, read, returned⟩ := bind_eq_ok _ _ returned
  obtain ⟨_, _, rfl⟩ := map_eq_ok _ _ returned
  exact decoded_value_fits read

theorem writeAccessSpecification_fits {specification : WriteAccessSpecification}
    (returned : writeAccessSpecification decoder = .ok specification after) :
    ∀ write ∈ specification.propertyValues, contentLength write.value < 2 ^ 32 := by
  obtain ⟨_, _, _, returned⟩ := bind_eq_ok _ _ returned
  obtain ⟨_, _, _, returned⟩ := bind_eq_ok _ _ returned
  obtain ⟨writes, _, collected, returned⟩ := bind_eq_ok _ _ returned
  obtain ⟨_, _, rfl⟩ := map_eq_ok _ _ returned
  exact collectUntil_forall consumes_propertyValueWrite
    (fun _ _ _ => propertyValueWrite_fits) collected

theorem decodeWritePropertyMultiple_iff (specifications : List WriteAccessSpecification)
    (valid : ∀ specification ∈ specifications, specification.Valid) :
    decodeRequest (specifications.flatMap encodeWriteAccessSpecification) =
        some (.ok ⟨specifications⟩) ↔
      ∀ specification ∈ specifications, ∀ write ∈ specification.propertyValues, write.ReadBack := by
  constructor
  · intro decoded
    obtain ⟨final, returned⟩ := returned_ok decoded
    obtain ⟨read, middle, ran, ended⟩ := bind_eq_ok _ _ returned
    obtain ⟨same, _⟩ := Outcome.ok.inj ended
    obtain rfl := mk.inj same
    -- The values are known to fit first: a misread index is then all that can go wrong.
    have fits := collectUntil_forall consumes_writeAccessSpecification
      (fun _ _ _ => writeAccessSpecification_fits) ran
    have short := collect_ok_good writeSpecificationFrame consumes_writeAccessSpecification
      (fun specification member short => decodes_writeAccessSpecification specification
        (valid specification member) fun write written =>
          ⟨short write written, fits specification member write written⟩)
      (fun specification member => writeAccessSpecification_refused specification
        (valid specification member) (fits specification member))
      ran
    intro specification member write written
    exact ⟨short specification member write written, fits specification member write written⟩
  · intro readBack
    have list := collect writeSpecificationFrame consumes_writeAccessSpecification
      specifications fun specification member => decodes_writeAccessSpecification specification
        (valid specification member) (readBack specification member)
    exact decodes_returned (list.map mk) rfl

end

/-- Read back just when every array index is absent or below 256 and every value fits its tag. -/
theorem property_requests_read_back_iff (request : WritePropertyRequest)
    (reads : List ReadAccessSpecification) (writes : List WriteAccessSpecification)
    (requestValid : request.Valid) (readsValid : ∀ specification ∈ reads, specification.Valid)
    (writesValid : ∀ specification ∈ writes, specification.Valid) :
    (decodeWriteProperty (encodeWriteProperty request) = some (.ok request) ↔
      ShortIndex request.propertyArrayIndex ∧ contentLength request.propertyValue < 2 ^ 32) ∧
    (ReadPropertyMultipleHandler.decodeRequest (reads.flatMap encodeReadAccessSpecification) =
        some (.ok ⟨reads⟩) ↔
      ∀ specification ∈ reads, ∀ reference ∈ specification.propertyReferences,
        ShortIndex reference.arrayIndex) ∧
    (WritePropertyMultipleHandler.decodeRequest (writes.flatMap encodeWriteAccessSpecification) =
        some (.ok ⟨writes⟩) ↔
      ∀ specification ∈ writes, ∀ write ∈ specification.propertyValues,
        ShortIndex write.propertyRef.arrayIndex ∧ contentLength write.value < 2 ^ 32) :=
  ⟨decodeWriteProperty_iff request requestValid, decodeReadPropertyMultiple_iff reads readsValid,
    decodeWritePropertyMultiple_iff writes writesValid⟩

theorem property_requests_read_back_at_slots : decodeWriteProperty (encodeWriteProperty
        ⟨⟨.analogOutput, 1⟩, .priorityArray, some 8, .real 0x3F800000, some 9⟩) =
      some (.ok ⟨⟨.analogOutput, 1⟩, .priorityArray, some 8, .real 0x3F800000, some 9⟩) ∧
    ReadPropertyMultipleHandler.decodeRequest (List.flatMap encodeReadAccessSpecification
        [⟨⟨.analogOutput, 1⟩, [⟨.priorityArray, some 1⟩, ⟨.presentValue, none⟩]⟩]) =
      some (.ok ⟨[⟨⟨.analogOutput, 1⟩, [⟨.priorityArray, some 1⟩, ⟨.presentValue, none⟩]⟩]⟩) ∧
    WritePropertyMultipleHandler.decodeRequest (List.flatMap encodeWriteAccessSpecification
        [⟨⟨.analogOutput, 1⟩, [⟨⟨.presentValue, none⟩, .null, some 16⟩]⟩]) =
      some (.ok ⟨[⟨⟨.analogOutput, 1⟩, [⟨⟨.presentValue, none⟩, .null, some 16⟩]⟩]⟩) := by
  have readBack := property_requests_read_back_iff
    ⟨⟨.analogOutput, 1⟩, .priorityArray, some 8, .real 0x3F800000, some 9⟩
    [⟨⟨.analogOutput, 1⟩, [⟨.priorityArray, some 1⟩, ⟨.presentValue, none⟩]⟩]
    [⟨⟨.analogOutput, 1⟩, [⟨⟨.presentValue, none⟩, .null, some 16⟩]⟩]
    ⟨⟨rfl, by decide⟩, rfl, trivial⟩
    (by
      rw [List.forall_mem_singleton]
      exact ⟨⟨rfl, by decide⟩, List.forall_mem_cons.mpr ⟨rfl, List.forall_mem_singleton.mpr rfl⟩⟩)
    (by
      rw [List.forall_mem_singleton]
      exact ⟨⟨rfl, by decide⟩, List.forall_mem_singleton.mpr rfl,
        List.forall_mem_singleton.mpr trivial⟩)
  refine ⟨readBack.1.mpr ?_, readBack.2.1.mpr ?_, readBack.2.2.mpr ?_⟩
  · exact ⟨by simp [ShortIndex], by decide⟩
  · simp [ShortIndex]
  · simp [ShortIndex, contentLength]

/-- Index 256 is taken for the value of a write to the whole property, and
refused in the requests with lists. -/
theorem index_256_misread : decodeWriteProperty (encodeWriteProperty
        ⟨⟨.analogOutput, 1⟩, .priorityArray, some 256, .real 0x3F800000, none⟩) =
      some (.ok ⟨⟨.analogOutput, 1⟩, .priorityArray, none, .unsigned 256, none⟩) ∧
    ReadPropertyMultipleHandler.decodeRequest (encodeReadAccessSpecification
        ⟨⟨.analogOutput, 1⟩, [⟨.priorityArray, some 256⟩]⟩) =
      some (.error .invalidRequest) ∧
    WritePropertyMultipleHandler.decodeRequest (encodeWriteAccessSpecification
        ⟨⟨.analogOutput, 1⟩, [⟨⟨.priorityArray, some 256⟩, .real 0x3F800000, none⟩]⟩) =
      some (.error .invalidRequest) :=
  ⟨rfl, rfl, rfl⟩

end Mabinogion.Bacnet
