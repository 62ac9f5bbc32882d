import Mabinogion.Bacnet.Decoding

/-!
# SubscribeCOVProperty requests

The subscriber and the monitored object come first; the other fields follow
behind context tags in any order, and the last of each kind counts.
-/

namespace Mabinogion.Bacnet

open Checked ApduDecoder Orderly

inductive SubscribeCovError where
  | invalidRequest

structure SubscribeCovPropertyRequest where
  subscriberProcessId : UInt32
  monitoredObject : ObjectId
  issueConfirmedNotifications : Option Bool
  lifetime : Option UInt32
  monitoredProperty : Option PropertyId
  covIncrement : Option UInt32

namespace SubscribeCov

def orInvalid {Value : Type} (computation : Decode ApduError Value) :
    Decode SubscribeCovError Value :=
  computation.mapErr fun _ => .invalidRequest

def decodeTaggedUnsigned : Decode SubscribeCovError UInt32 := do
  let tag ← orInvalid decodeTagInfo
  orInvalid (decodeUnsigned tag.len)

/-- A tag and its content, of which as much as there is. -/
def skipTagged : Decode SubscribeCovError Unit := do
  let tag ← orInvalid decodeTagInfo
  if tag.len > 0 then do
    let _ ← attempt (readBytes tag.len)
    pure ()
  else pure ()

/-- A flag without content is false. -/
def decodeFlag (len : Nat) : Decode SubscribeCovError Bool :=
  if len = 0 then pure false else do
    let value ← orInvalid (decodeUnsigned len)
    pure (value != 0)

def skipClosingTag : Decode SubscribeCovError Unit := do
  if ← gets (isClosingTag 4) then do
    let _ ← orInvalid readU8
    pure ()
  else pure ()

/-- The property between the tags 4, or under tag 4 itself. -/
def decodeMonitoredProperty : Decode SubscribeCovError (Option PropertyId) := do
  if ← gets (isOpeningTag 4) then do
    let _ ← orInvalid readU8
    let propVal ← decodeTaggedUnsigned
    -- the array index, and whatever else stands before the closing tag
    let _ ← collectUntil remaining (fun decoder => decoder.isEmpty || decoder.isClosingTag 4)
      skipTagged
    skipClosingTag
    pure (PropertyId.fromU32 propVal)
  else do
    let propVal ← decodeTaggedUnsigned
    pure (PropertyId.fromU32 propVal)

/-- An increment of another length than four is skipped. -/
def decodeIncrement (before : Option UInt32) (len : Nat) :
    Decode SubscribeCovError (Option UInt32) :=
  if len = 4 then do
    let bytes ← readIndexed (fun _ => .invalidRequest) 4
    pure (some (UInt32.ofNat (BigEndian.value bytes)))
  else do
    let _ ← attempt (readBytes len)
    pure before

structure Fields where
  issueConfirmed : Option Bool
  lifetime : Option UInt32
  monitoredProperty : Option PropertyId
  covIncrement : Option UInt32

variable (fields : Fields)

def decodeField : UInt8 → Decode SubscribeCovError Fields
  | 2 => do
    let tag ← orInvalid decodeTagInfo
    let flag ← decodeFlag tag.len
    pure { fields with issueConfirmed := some flag }
  | 3 => do
    let lifetime ← decodeTaggedUnsigned
    pure { fields with lifetime := some lifetime }
  | 4 => do
    let property ← decodeMonitoredProperty
    pure { fields with monitoredProperty := property }
  | 5 => do
    let tag ← orInvalid decodeTagInfo
    let increment ← decodeIncrement fields.covIncrement tag.len
    pure { fields with covIncrement := increment }
  | _ => do
    skipTagged
    pure fields

/-- The loop ends with the data and at a tag without context. -/
def decodePeeked : Option UInt8 → Decode SubscribeCovError (Fields ⊕ Fields)
  | none => pure (.inr fields)
  | some byte =>
    if byte &&& 0x08 = 0 then pure (.inr fields) else do
      let next ← decodeField fields ((byte >>> 4) &&& 0x0F)
      pure (.inl next)

def decodeRound : Decode SubscribeCovError (Fields ⊕ Fields) := do
  if ← gets isEmpty then pure (.inr fields)
  else do
    let next ← gets peek
    decodePeeked fields next

def subscribeCovProperty : Decode SubscribeCovError SubscribeCovPropertyRequest := do
  let process ← orInvalid decodeTagInfo
  failIf (!process.isContext || process.tagNumber != 0) .invalidRequest
  let subscriberProcessId ← orInvalid (decodeUnsigned process.len)
  let object ← orInvalid decodeTagInfo
  failIf (!object.isContext || object.tagNumber != 1 || object.len != 4) .invalidRequest
  let monitoredObject ← orInvalid decodeObjectIdentifier
  let fields ← loop remaining decodeRound ⟨none, none, none, none⟩
  pure ⟨subscriberProcessId, monitoredObject, fields.issueConfirmed, fields.lifetime,
    fields.monitoredProperty, fields.covIncrement⟩

def decodeSubscribeCovProperty (data : Bytes) :
    Option (Except SubscribeCovError SubscribeCovPropertyRequest) :=
  (subscribeCovProperty (.new data)).returned

section

variable {Value : Type} {allowed : Fault → Prop}

theorem orderly_orInvalid {computation : Decode ApduError Value}
    (orderly : Orderly remaining allowed computation) :
    Orderly remaining allowed (orInvalid computation) :=
  orderly.mapErr _

theorem brisk_orInvalid_tag : Brisk remaining allowed (orInvalid decodeTagInfo) :=
  brisk_decodeTagInfo.mapErr _

theorem brisk_decodeTaggedUnsigned : Brisk remaining allowed decodeTaggedUnsigned :=
  brisk_orInvalid_tag.bind fun _ => orderly_orInvalid (orderly_decodeUnsigned _)

theorem brisk_skipTagged : Brisk remaining allowed skipTagged := by
  apply brisk_orInvalid_tag.bind
  intro tag
  exact ite ((orderly_readBytes _).attempt.bind fun _ => orderly_pure _) (orderly_pure _)

theorem orderly_decodeFlag (len : Nat) : Orderly remaining allowed (decodeFlag len) := by
  apply ite (orderly_pure _)
  exact (orderly_orInvalid (orderly_decodeUnsigned len)).bind fun _ => orderly_pure _

theorem orderly_decodeIncrement (before : Option UInt32) (len : Nat) :
    Orderly remaining allowed (decodeIncrement before len) := by
  apply Orderly.ite
  · exact (orderly_readIndexed _ 4).bind fun _ => orderly_pure _
  · exact (orderly_readBytes len).attempt.bind fun _ => orderly_pure _

theorem orderly_skipClosingTag : Orderly remaining allowed skipClosingTag := by
  apply (orderly_gets _).bind
  intro here
  apply Orderly.ite _ (orderly_pure _)
  exact (orderly_orInvalid orderly_readU8).bind fun _ => orderly_pure _

theorem brisk_decodeMonitoredProperty : Brisk remaining allowed decodeMonitoredProperty := by
  apply (orderly_gets _).bind_paced
  intro opened
  apply Paced.ite
  · apply (brisk_readU8.mapErr _).bind
    intro _
    apply brisk_decodeTaggedUnsigned.orderly.bind
    intro propVal
    apply (collectUntil brisk_skipTagged).bind
    intro _
    exact orderly_skipClosingTag.bind fun _ => orderly_pure _
  · exact brisk_decodeTaggedUnsigned.bind fun _ => orderly_pure _

variable (fields : Fields) (tagNumber : UInt8)

theorem brisk_decodeField : Brisk remaining allowed (decodeField fields tagNumber) := by
  fun_cases decodeField fields tagNumber with
  | case1 =>
    apply brisk_orInvalid_tag.bind
    intro tag
    exact (orderly_decodeFlag tag.len).bind fun _ => orderly_pure _
  | case2 => exact brisk_decodeTaggedUnsigned.bind fun _ => orderly_pure _
  | case3 => exact brisk_decodeMonitoredProperty.bind fun _ => orderly_pure _
  | case4 =>
    apply brisk_orInvalid_tag.bind
    intro tag
    exact (orderly_decodeIncrement _ tag.len).bind fun _ => orderly_pure _
  | case5 => exact brisk_skipTagged.bind fun _ => orderly_pure _

theorem brief_decodeRound : Brief remaining allowed (decodeRound fields) := by
  apply (orderly_gets _).bind_paced
  intro empty
  apply Paced.ite (brief_stop _)
  apply (orderly_gets _).bind_paced
  intro next
  cases next with
  | none => exact brief_stop _
  | some =>
    apply Paced.ite (brief_stop _)
    exact (brisk_decodeField fields _).bind fun _ => orderly_pure _

theorem orderly_subscribeCovProperty : Orderly remaining allowed subscribeCovProperty := by
  apply (orderly_orInvalid orderly_decodeTagInfo).bind
  intro process
  apply (orderly_failIf _ _).bind
  intro _
  apply (orderly_orInvalid (orderly_decodeUnsigned process.len)).bind
  intro subscriberProcessId
  apply (orderly_orInvalid orderly_decodeTagInfo).bind
  intro object
  apply (orderly_failIf _ _).bind
  intro _
  apply (orderly_orInvalid orderly_decodeObjectIdentifier).bind
  intro monitoredObject
  exact (Paced.loop brief_decodeRound _).bind fun _ => orderly_pure _

end

end SubscribeCov

end Mabinogion.Bacnet
