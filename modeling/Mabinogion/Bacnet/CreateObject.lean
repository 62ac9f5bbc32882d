import Mabinogion.Bacnet.ValueFormat

/-!
# CreateObject requests

The object specifier and the optional list of initial values. A value of an unknown property
is skipped up to its closing tag, with a count of the tags open inside it.
-/

namespace Mabinogion.Bacnet

open Checked ApduDecoder StreamFormat FaultsOn Accepts

structure CreateObjectRequest where
  objectType : ObjectType
  objectInstance : Option UInt32
  objectName : Option String
  initialValues : List (PropertyId × BACnetValue)

variable (tagNumber : UInt8) (propertyId : Option PropertyId) (depth : Nat)

namespace CreateObject

def expectTag (present : ApduDecoder → Bool) (missing failed : String) : Decode String Unit := do
  let here ← gets present
  failIf (!here) missing
  let _ ← orText failed readU8
  pure ()

/-- The type alone, or the type with an instance. -/
def decodeSpecifier : UInt8 → Decode String (ObjectType × Option UInt32)
  | 0 => do
    let tag ← orText "Failed to decode type tag" decodeTagInfo
    let typeVal ← orText "Failed to decode type value" (decodeUnsigned tag.len)
    let objectType ← liftOption "Unsupported object type"
      (ObjectType.fromU16 typeVal.toUInt16)
    pure (objectType, none)
  | 1 => do
    let _ ← orText "Failed to decode id tag" decodeTagInfo
    let objectId ← orText "Failed to decode object identifier" decodeObjectIdentifier
    pure (objectId.objectType, some objectId.instanceNumber)
  | _ => fail "Invalid object specifier tag"

/-- One byte or one tag with its content, at the given depth. -/
def skipNext (depth : Nat) (byte : UInt8) : Decode String (Nat ⊕ Unit) :=
  if byte &&& 0x0F = 0x0E then do
    -- `depth += 1` on a `u32`
    let deeper ← checkedAdd (2 ^ 32) depth 1
    let _ ← orText "skip" readU8
    pure (.inl deeper)
  else if byte &&& 0x0F = 0x0F then do
    let _ ← orText "skip" readU8
    pure (.inl (depth - 1))
  else do
    let tag ← orText "skip" decodeTagInfo
    if tag.len > 0 then do
      let _ ← attempt (readBytes tag.len)
      pure (.inl depth)
    else pure (.inl depth)

def skipRound (tagNumber : UInt8) (depth : Nat) : Decode String (Nat ⊕ Unit) := do
  if ← gets isEmpty then fail "Closing tag not found"
  else do
    if ← gets fun decoder => depth == 0 && decoder.isClosingTag tagNumber then pure (.inr ())
    else do
      let next ← gets peek
      let byte ← liftOption "Unexpected end while skipping" next
      skipNext depth byte

def skipToClosingTag (tagNumber : UInt8) : Decode String Unit :=
  loop remaining (skipRound tagNumber) 0

/-- Context tag 1 of any length. -/
def peeksArrayIndex (decoder : ApduDecoder) : Bool :=
  !decoder.isEmpty &&
    let byte := decoder.peek.getD 0
    (byte >>> 4) &&& 0x0F == 1 && (byte &&& 0x08) != 0

/-- The array index is read over, and a failure to read it is ignored. -/
def skipArrayIndex (text : String) : Decode String Unit := do
  if ← gets peeksArrayIndex then do
    let tag ← orText text decodeTagInfo
    let _ ← attempt (decodeUnsigned tag.len)
    pure ()
  else pure ()

def skipUnknownValue : Decode String Unit := do
  if ← gets (isOpeningTag 2) then do
    let _ ← orText "skip" readU8
    skipToClosingTag 2
    let _ ← orText "skip" readU8
    pure ()
  else pure ()

/-- The value of a known property is kept, and that of an unknown one skipped. -/
def decodeEntry : Option PropertyId → Decode String (Option (PropertyId × BACnetValue))
  | some propertyId => do
    skipArrayIndex "Failed to decode array index tag"
    expectTag (isOpeningTag 2) "Expected opening tag [2] for property value"
      "Failed to skip opening tag [2]"
    let value ← decodeApplicationValue
    expectTag (isClosingTag 2) "Expected closing tag [2] for property value"
      "Failed to skip closing tag [2]"
    pure (some (propertyId, value))
  | none => do
    skipArrayIndex "skip"
    skipUnknownValue
    pure none

def decodeListed : Decode String (Option (PropertyId × BACnetValue)) := do
  let tag ← orText "Failed to decode property tag" decodeTagInfo
  let propVal ← orText "Failed to decode property id" (decodeUnsigned tag.len)
  decodeEntry (PropertyId.fromU32 propVal)

def endsList (decoder : ApduDecoder) : Bool := decoder.isEmpty || decoder.isClosingTag 1

def decodeInitialValues : Decode String (List (PropertyId × BACnetValue)) := do
  if ← gets fun decoder => !decoder.isEmpty && decoder.isOpeningTag 1 then do
    let _ ← orText "Failed to skip opening tag [1]" readU8
    let entries ← collectUntil remaining endsList decodeListed
    expectTag (isClosingTag 1) "Expected closing tag [1]" "Failed to skip closing tag [1]"
    pure (entries.filterMap id)
  else pure []

def objectNameOf (values : List (PropertyId × BACnetValue)) : Option String :=
  values.foldl (fun name entry => match entry with
    | (.objectName, .characterString text) => some text
    | _ => name) none

def decodeObjectSpecifier : Decode String (ObjectType × Option UInt32) := do
  expectTag (isOpeningTag 0) "Expected opening tag [0] for object specifier"
    "Failed to skip opening tag"
  let next ← gets peek
  let byte ← liftOption "Unexpected end of data" next
  let specifier ← decodeSpecifier ((byte >>> 4) &&& 0x0F)
  expectTag (isClosingTag 0) "Expected closing tag [0]" "Failed to skip closing tag"
  pure specifier

def createObject : Decode String CreateObjectRequest := do
  let specifier ← decodeObjectSpecifier
  let initialValues ← decodeInitialValues
  pure ⟨specifier.1, specifier.2, objectNameOf initialValues, initialValues⟩

def decodeCreateObjectRequest (data : Bytes) : Option (Except String CreateObjectRequest) :=
  (createObject (.new data)).returned

section

variable {allowed : Fault → Prop}

theorem orderly_expectTag (present : ApduDecoder → Bool) (missing failed : String) :
    Orderly remaining allowed (expectTag present missing failed) := by
  apply (orderly_gets present).bind
  intro here
  apply (orderly_failIf _ _).bind
  intro _
  exact (orderly_orText _ orderly_readU8).bind fun _ => orderly_pure _

theorem orderly_decodeSpecifier (choice : UInt8) :
    Orderly remaining allowed (decodeSpecifier choice) := by
  fun_cases decodeSpecifier choice with
  | case1 =>
    apply (orderly_orText _ orderly_decodeTagInfo).bind
    intro tag
    apply (orderly_orText _ (orderly_decodeUnsigned tag.len)).bind
    intro typeVal
    exact (orderly_liftOption _ _).bind fun _ => orderly_pure _
  | case2 =>
    apply (orderly_orText _ orderly_decodeTagInfo).bind
    intro tag
    exact (orderly_orText _ orderly_decodeObjectIdentifier).bind fun _ => orderly_pure _
  | case3 => exact orderly_fail _

theorem orderly_decodeObjectSpecifier : Orderly remaining allowed decodeObjectSpecifier := by
  apply (orderly_expectTag _ _ _).bind
  intro _
  apply (orderly_gets _).bind
  intro next
  apply (orderly_liftOption _ _).bind
  intro byte
  apply (orderly_decodeSpecifier _).bind
  intro specifier
  exact (orderly_expectTag _ _ _).bind fun _ => orderly_pure _

theorem orderly_skipArrayIndex (text : String) :
    Orderly remaining allowed (skipArrayIndex text) := by
  apply (orderly_gets _).bind
  intro here
  apply Orderly.ite _ (orderly_pure _)
  apply (orderly_orText _ orderly_decodeTagInfo).bind
  intro tag
  exact (orderly_decodeUnsigned tag.len).attempt.bind fun _ => orderly_pure _

/-- What follows a tag that is neither opening nor closing. -/
theorem orderly_skip_content (tag : TagInfo) : Orderly remaining allowed
    (if tag.len > 0 then do
      let _ ← (attempt (readBytes tag.len) : Decode String (Except ApduError Bytes))
      pure (.inl depth)
    else (pure (.inl depth) : Decode String (Nat ⊕ Unit))) :=
  Orderly.ite ((orderly_readBytes _).attempt.bind fun _ => orderly_pure _) (orderly_pure _)

end

theorem accepts_expectTag {present : ApduDecoder → Bool} {octet : UInt8} (missing failed : String)
    (sees : ∀ consumed input, present (between consumed input) = starts octet input) :
    Accepts between (expectTag present missing failed) (theOctet octet) :=
  accepts_expected missing _ sees

def specifierOctets (choice : UInt8) : StreamFormat UInt8 (ObjectType × Option UInt32) :=
  fun octets specifier rest => match choice with
    | 0 => tagged AnyTag (fun tag => (unsignedOctets tag.len).followedBy fun typeVal
        octets specifier _ => octets = [] ∧ ∃ objectType,
          ObjectType.fromU16 typeVal.toUInt16 = some objectType ∧ specifier = (objectType, none))
        octets specifier rest
    | 1 => tagged AnyTag (fun _ octets specifier rest => ∃ objectId,
        objectIdOctets octets objectId rest ∧
          specifier = (objectId.objectType, some objectId.instanceNumber)) octets specifier rest
    | _ => False

theorem accepts_decodeSpecifier (choice : UInt8) :
    Accepts between (decodeSpecifier choice) (specifierOctets choice) := by
  fun_cases decodeSpecifier choice with
  | case1 =>
    apply accepts_tagged
    intro tag
    apply ((accepts_decodeUnsigned tag.len).mapErr _).bind
    intro typeVal
    exact ((accepts_liftOption _ _).map _).congr (by simp [and_assoc])
  | case2 =>
    apply accepts_tagged
    intro tag
    exact (accepts_decodeObjectIdentifier.mapErr _).map _
  | case3 _ typed identified =>
    apply (accepts_fail _).congr
    intro octets specifier rest
    simp_all [specifierOctets]

def specifierField : StreamFormat UInt8 (ObjectType × Option UInt32) :=
  (theOctet (openingByte 0)).followedBy fun _ octets specifier rest =>
    ∃ octet, (octets ++ rest).head? = some octet ∧
      (specifierOctets ((octet >>> 4) &&& 0x0F)).followedBy (fun specifier =>
        (theOctet (closingByte 0)).followedBy fun _ => nothing specifier) octets specifier rest

theorem accepts_decodeObjectSpecifier : Accepts between decodeObjectSpecifier specifierField := by
  apply (accepts_expectTag _ _ (isOpeningTag_between 0)).bind
  intro _
  apply accepts_peek
  intro octet
  apply (accepts_decodeSpecifier _).bind
  intro specifier
  exact (accepts_expectTag _ _ (isClosingTag_between 0)).bind fun _ => accepts_pure specifier

variable (depth : Nat)

section

variable (octet : UInt8)

def skippedNext : StreamFormat UInt8 Nat := fun octets next rest =>
  if octet &&& 0x0F = 0x0E then depth + 1 < 2 ^ 32 ∧ octets.length = 1 ∧ next = depth + 1
  else if octet &&& 0x0F = 0x0F then octets.length = 1 ∧ next = depth - 1
  else tagged AnyTag (fun tag => skippedOctets tag.len) octets () rest ∧ next = depth

theorem accepts_skipContent (depth len : Nat) : Accepts between
    (if len > 0 then do
      let _ ← (attempt (readBytes len) : Decode String (Except ApduError Bytes))
      pure (.inl depth)
    else (pure (.inl depth) : Decode String (Nat ⊕ Unit))) fun octets result rest =>
      skippedOctets len octets () rest ∧ result = .inl depth := by
  split_ifs with some
  · apply (accepts_attempt (accepts_readBytes len) readBytes_short (accepts_pure _)).congr
    intro octets result rest
    rw [followedBy_nothing]
    simp [skippedOctets]
  · exact (accepts_pure _).congr (by simp [nothing, skippedOctets, Nat.eq_zero_of_not_pos some])

theorem accepts_skipNext : Accepts between (skipNext depth octet) fun octets result rest =>
      ∃ next, skippedNext depth octet octets next rest ∧ result = .inl next := by
  have reads (next : Nat) : Accepts between
      (orText "skip" readU8 >>= fun _ => (pure (.inl next) : Decode String (Nat ⊕ Unit)))
      fun octets result _ => octets.length = 1 ∧ result = .inl next :=
    ((accepts_readU8.mapErr _).map _).congr (by simp [List.length_eq_one_iff])
  unfold skipNext
  split_ifs with opening closing
  · apply ((accepts_checkedAdd _ _ _).bind reads).congr
    intro octets result rest
    simp only [skippedNext, if_pos opening]
    constructor
    · rintro ⟨_, _, tail, rfl, ⟨rfl, fits, rfl⟩, one, rfl⟩
      exact ⟨depth + 1, ⟨fits, one, rfl⟩, rfl⟩
    · rintro ⟨_, ⟨fits, one, rfl⟩, rfl⟩
      exact ⟨[], depth + 1, octets, rfl, ⟨rfl, fits, rfl⟩, one, rfl⟩
  · exact (reads _).congr (by simp [skippedNext, closing, and_assoc])
  · apply (accepts_tagged fun tag => accepts_skipContent depth tag.len).congr
    intro octets result rest
    simp only [skippedNext, if_neg opening, if_neg closing]
    constructor
    · rintro ⟨head, tag, behind, same, tagged, allowed, skipped, rfl⟩
      exact ⟨depth, ⟨⟨head, tag, behind, same, tagged, allowed, skipped⟩, rfl⟩, rfl⟩
    · rintro ⟨_, ⟨⟨head, tag, behind, same, tagged, allowed, skipped⟩, rfl⟩, rfl⟩
      exact ⟨head, tag, behind, same, tagged, allowed, skipped, rfl⟩

def skippedRound (tagNumber : UInt8) (depth : Nat) : StreamFormat UInt8 (Nat ⊕ Unit) :=
  fun octets result rest =>
    if depth = 0 ∧ starts (closingByte tagNumber) (octets ++ rest) then
      octets = [] ∧ result = .inr ()
    else ∃ octet next, (octets ++ rest).head? = some octet ∧
      skippedNext depth octet octets next rest ∧ result = .inl next

theorem closes_between (consumed input : Bytes) :
    (depth == 0 && (between consumed input).isClosingTag tagNumber) =
      (depth == 0 && starts (closingByte tagNumber) input) := by
  rw [isClosingTag_between, starts]

theorem accepts_skipRound :
    Accepts between (skipRound tagNumber depth) (skippedRound tagNumber depth) := by
  apply (ifSeen isEmpty_between (accepts_fail _) (ifSeen
    (closes_between tagNumber depth) (accepts_pure _)
    (accepts_peek _ (accepts_skipNext depth)))).congr
  intro octets result rest
  simp only [skippedRound, nothing, Bool.and_eq_true, beq_iff_eq]
  cases input : octets ++ rest with
  | nil => simp [starts]
  | cons => simp

theorem advances_skipRound : Advances remaining (skipRound tagNumber depth) := by
  intro decoder next after returned
  apply smaller_of_accepts (accepts_skipRound tagNumber depth) _ returned
  intro rest here
  simp [skippedRound, skippedNext, not_tagged_nil] at here

/-- Everything up to the closing tag that belongs to no opening tag inside. -/
def skippedValue (tagNumber : UInt8) : StreamFormat UInt8 Unit := fun octets _ rest =>
  Rounds (skippedRound tagNumber) 0 octets 0 rest ∧ starts (closingByte tagNumber) rest = true

theorem accepts_skipToClosingTag :
    Accepts between (skipToClosingTag tagNumber) (skippedValue tagNumber) := by
  apply (loop (accepts_skipRound tagNumber) (advances_skipRound tagNumber) 0).congr
  intro octets _ rest
  constructor
  · rintro ⟨head, depth, tail, rfl, rounds, ended⟩
    unfold skippedRound at ended
    split_ifs at ended with closed
    · obtain ⟨rfl, rfl⟩ := And.intro ended.1 closed.1
      rw [List.append_nil]
      exact ⟨rounds, closed.2⟩
    · obtain ⟨_, _, _, _, impossible⟩ := ended
      cases impossible
  · rintro ⟨rounds, closed⟩
    refine ⟨octets, 0, [], (List.append_nil _).symm, rounds, ?_⟩
    rw [skippedRound, if_pos ⟨rfl, closed⟩]
    exact ⟨rfl, rfl⟩

def indexAhead (input : Bytes) : Bool :=
  !input.isEmpty &&
    let octet := input.head?.getD 0
    (octet >>> 4) &&& 0x0F == 1 && (octet &&& 0x08) != 0

def skippedIndex : StreamFormat UInt8 Unit := fun octets index rest =>
  if indexAhead (octets ++ rest) then
    tagged AnyTag (fun tag => skippedOctets tag.len) octets index rest
  else nothing () octets index rest

theorem decodeUnsigned_short {len : Nat} (consumed : Bytes) {input : Bytes}
    (short : input.length < len) :
    decodeUnsigned len (between consumed input) = .err .tooShort (between consumed input) :=
  bind_err (readBytes_short consumed short)

theorem accepts_skipArrayIndex (text : String) :
    Accepts between (skipArrayIndex text) skippedIndex := by
  have looks (consumed input : Bytes) :
      peeksArrayIndex (between consumed input) = indexAhead input := by
    rw [peeksArrayIndex, isEmpty_between, peek_between, indexAhead]
  apply ifSeen looks _ (accepts_pure ())
  apply accepts_tagged
  intro tag
  apply (accepts_attempt (accepts_decodeUnsigned tag.len) decodeUnsigned_short
    (accepts_pure ())).congr
  intro octets _ rest
  rw [followedBy_nothing]
  simp [skippedOctets]

def unknownValue : StreamFormat UInt8 Unit := fun octets value rest =>
  if starts (openingByte 2) (octets ++ rest) then
    anyOctet.followedBy (fun _ => (skippedValue 2).followedBy fun _ =>
      anyOctet.followedBy fun _ => nothing ()) octets value rest
  else nothing () octets value rest

theorem accepts_skipUnknownValue : Accepts between skipUnknownValue unknownValue := by
  have reads : Accepts between (orText "skip" readU8) anyOctet := accepts_readU8.mapErr _
  apply ifSeen (isOpeningTag_between 2) _ (accepts_pure ())
  apply reads.bind
  intro _
  apply (accepts_skipToClosingTag 2).bind
  intro _
  exact reads.bind fun _ => accepts_pure ()

def entryField : Option PropertyId → StreamFormat UInt8 (Option (PropertyId × BACnetValue))
  | some propertyId => skippedIndex.followedBy fun _ => (theOctet (openingByte 2)).followedBy
      fun _ => applicationField.followedBy fun value => (theOctet (closingByte 2)).followedBy
        fun _ => nothing (some (propertyId, value))
  | none => skippedIndex.followedBy fun _ => unknownValue.followedBy fun _ => nothing none

theorem accepts_decodeEntry : Accepts between (decodeEntry propertyId) (entryField propertyId) := by
  cases propertyId with
  | some =>
    apply (accepts_skipArrayIndex _).bind
    intro _
    apply (accepts_expectTag _ _ (isOpeningTag_between 2)).bind
    intro _
    apply accepts_decodeApplicationValue.bind
    intro value
    exact (accepts_expectTag _ _ (isClosingTag_between 2)).bind fun _ => accepts_pure _
  | none =>
    apply (accepts_skipArrayIndex _).bind
    intro _
    exact accepts_skipUnknownValue.bind fun _ => accepts_pure _

def listedField : StreamFormat UInt8 (Option (PropertyId × BACnetValue)) :=
  tagged AnyTag fun tag => (unsignedOctets tag.len).followedBy fun propVal =>
    entryField (PropertyId.fromU32 propVal)

theorem accepts_decodeListed : Accepts between decodeListed listedField := by
  apply accepts_tagged
  intro tag
  exact ((accepts_decodeUnsigned tag.len).mapErr _).bind fun _ => accepts_decodeEntry _

theorem faultsOn_skipNext : FaultsOn between (skipNext depth octet) fun _ => octet &&& 0x0F =
      0x0E ∧ 2 ^ 32 ≤ depth + 1 := by
  unfold skipNext
  split_ifs with opening closing
  · apply ((faultsOn_checkedAdd _ depth 1).ahead fun _ =>
      ((orderly_orText _ orderly_readU8).bind fun _ => orderly_pure _).safe).congr
    simp [opening]
  · have reads : Safe (do
        let _ ← orText "skip" readU8
        (pure (.inl (depth - 1)) : Decode String (Nat ⊕ Unit))) :=
      ((orderly_orText _ orderly_readU8).bind fun _ => orderly_pure _).safe
    exact reads.faultsOn.congr (by simp [opening])
  · exact ((orderly_orText _ orderly_decodeTagInfo).bind
      (orderly_skip_content depth)).safe.faultsOn.congr (by simp [opening])

end

/-- One more opening tag than the counter can hold. -/
def RoundFaulty (input : Bytes) : Prop :=
  2 ^ 32 ≤ depth + 1 ∧ ∃ octet, input.head? = some octet ∧ octet &&& 0x0F = 0x0E

theorem faultsOn_skipRound : FaultsOn between (skipRound tagNumber depth) (RoundFaulty depth) := by
  apply (ifSeen isEmpty_between (safe_fail _).faultsOn (ifSeen
    (closes_between tagNumber depth) (safe_pure _).faultsOn
    (faultsOn_peek _ (faultsOn_skipNext depth)))).congr
  intro input
  cases input with
  | nil => simp [RoundFaulty]
  | cons =>
    by_cases top : depth = 0
    · simp [RoundFaulty, top]
    · simp [RoundFaulty, top, and_comm]

/-- The skipped value has more tags open at once than the counter can hold. -/
def DepthOverflows (tagNumber : UInt8) (input : Bytes) : Prop :=
  ∃ octets depth rest, input = octets ++ rest ∧
    Rounds (skippedRound tagNumber) 0 octets depth rest ∧ RoundFaulty depth rest

theorem faultsOn_skipToClosingTag :
    FaultsOn between (skipToClosingTag tagNumber) (DepthOverflows tagNumber) :=
  loop (accepts_skipRound tagNumber) (advances_skipRound tagNumber) (faultsOn_skipRound tagNumber) 0

def EntryFaulty : Option PropertyId → Bytes → Prop
  | some _ => skippedIndex.Before fun _ => (theOctet (openingByte 2)).Before fun _ =>
    ApplicationValueFaulty
  | none => skippedIndex.Before fun _ => (theOctet (openingByte 2)).Before fun _ =>
    DepthOverflows 2

theorem faultsOn_decodeEntry : FaultsOn between (decodeEntry propertyId) (EntryFaulty propertyId) :=
    by
  cases propertyId with
  | some =>
    apply behind (orderly_skipArrayIndex _).safe (accepts_skipArrayIndex _)
    intro _
    apply behind (orderly_expectTag _ _ _).safe (accepts_expectTag _ _ (isOpeningTag_between 2))
    intro _
    apply faultsOn_decodeApplicationValue.ahead
    intro value
    exact ((orderly_expectTag _ _ _).bind fun _ => orderly_pure _).safe
  | none =>
    apply behind (orderly_skipArrayIndex _).safe (accepts_skipArrayIndex _)
    intro _
    apply (faultsOn_opened (isOpeningTag_between 2) ((faultsOn_skipToClosingTag 2).ahead
      fun _ => ((orderly_orText _ orderly_readU8).bind fun _ => orderly_pure _).safe)).ahead
    intro _
    exact safe_pure none

def ListedFaulty : Bytes → Prop :=
  tagOctets.Before fun tag => (unsignedOctets tag.len).Before fun propVal =>
    EntryFaulty (PropertyId.fromU32 propVal)

theorem faultsOn_decodeListed : FaultsOn between decodeListed ListedFaulty := by
  apply behind (orderly_orText _ orderly_decodeTagInfo).safe (accepts_decodeTagInfo.mapErr _)
  intro tag
  apply behind (orderly_orText _ (orderly_decodeUnsigned tag.len)).safe
    ((accepts_decodeUnsigned tag.len).mapErr _)
  intro propVal
  exact faultsOn_decodeEntry _

def listEnds (input : Bytes) : Bool := input.isEmpty || starts (closingByte 1) input

/-- The list of initial values comes to a faulty property. -/
def ValuesFaulty : Bytes → Prop :=
  (theOctet (openingByte 1)).Before fun _ => Before (Repeats listEnds listedField) fun _ rest =>
    listEnds rest = false ∧ ListedFaulty rest

theorem faultsOn_decodeInitialValues : FaultsOn between decodeInitialValues ValuesFaulty := by
  have opens (consumed input : Bytes) :
      (!(between consumed input).isEmpty && (between consumed input).isOpeningTag 1) =
        starts (openingByte 1) input := by
    rw [isEmpty_between, isOpeningTag_between]
    cases input with
    | nil | cons => rfl
  have ends (consumed input : Bytes) : endsList (between consumed input) = listEnds input := by
    rw [endsList, isEmpty_between, isClosingTag_between]
    rfl
  apply faultsOn_opened opens
  apply (collectUntil accepts_decodeListed ends
    (consumes_of_accepts accepts_decodeListed fun _ _ => not_tagged_nil)
    faultsOn_decodeListed).ahead
  intro entries
  exact ((orderly_expectTag _ _ _).bind fun _ => orderly_pure _).safe

def RequestFaulty : Bytes → Prop := specifierField.Before fun _ => ValuesFaulty

theorem faultsOn_createObject : FaultsOn between createObject RequestFaulty :=
  behind orderly_decodeObjectSpecifier.safe accepts_decodeObjectSpecifier fun _ =>
    faultsOn_decodeInitialValues.ahead fun _ => safe_pure _

end CreateObject

end Mabinogion.Bacnet
