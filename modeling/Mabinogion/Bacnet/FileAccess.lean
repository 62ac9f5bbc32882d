import Mabinogion.Bacnet.ValueFormat

/-!
# File access requests

AtomicReadFile and AtomicWriteFile name a file and then a position or a record
to start at, which is a signed number under any tag.
-/

namespace Mabinogion.Bacnet

open Checked ApduDecoder StreamFormat

inductive ReadFileAccess where
  | stream (fileStartPosition : Int32) (requestedOctetCount : UInt32)
  | record (fileStartRecord : Int32) (requestedRecordCount : UInt32)

structure AtomicReadFileRequest where
  objectType : UInt16
  instanceNumber : UInt32
  access : ReadFileAccess

inductive WriteFileAccess where
  | stream (fileStartPosition : Int32) (fileData : Bytes)
  | record (fileStartRecord : Int32) (fileRecordData : List Bytes)

structure AtomicWriteFileRequest where
  objectType : UInt16
  instanceNumber : UInt32
  access : WriteFileAccess

namespace FileAccess

def decodeFile : Decode String ObjectId := do
  let tag ← orText "Failed to decode object identifier tag" decodeTagInfo
  failIf tag.isContext "Expected application tag for object identifier"
  failIf (tag.tagNumber != 12) "Expected ObjectIdentifier tag"
  failIf (tag.len != 4) "Invalid ObjectIdentifier length"
  orText "Failed to decode object identifier" decodeObjectIdentifier

def decodeAccessTag : Decode String UInt8 := do
  let next ← gets peek
  let byte ← liftOption "No access choice data" next
  failIf (byte &&& 0x0F != 0x0E) "Expected opening tag for access choice"
  orText "Failed to skip opening tag" (skip 1)
  pure ((byte >>> 4) &&& 0x0F)

variable (tagText text : String)

def decodeStart : Decode String Int32 := do
  let tag ← orText tagText decodeTagInfo
  orText text (decodeSigned tag.len)

def decodeCount : Decode String UInt32 := do
  let tag ← orText tagText decodeTagInfo
  orText text (decodeUnsigned tag.len)

def decodeOctets : Decode String Bytes := do
  let tag ← orText tagText decodeTagInfo
  orText text (readBytes tag.len)

/-- The loop over `0..count`, which breaks at the end of the data. -/
def decodeRecords : Nat → Decode String (List Bytes)
  | 0 => pure []
  | count + 1 => do
    if ← gets isEmpty then pure []
    else do
      let record ← decodeOctets "Failed to decode record data tag" "Failed to read record data"
      let records ← decodeRecords count
      pure (record :: records)

def decodeReadAccess : UInt8 → Decode String ReadFileAccess
  | 0 => do
    let start ← decodeStart "Failed to decode start position tag"
      "Failed to decode start position"
    let count ← decodeCount "Failed to decode octet count tag" "Failed to decode octet count"
    pure (.stream start count)
  | 1 => do
    let start ← decodeStart "Failed to decode start record tag" "Failed to decode start record"
    let count ← decodeCount "Failed to decode record count tag" "Failed to decode record count"
    pure (.record start count)
  | _ => fail "Unknown access choice"

def decodeWriteAccess : UInt8 → Decode String WriteFileAccess
  | 0 => do
    let start ← decodeStart "Failed to decode start position tag"
      "Failed to decode start position"
    let fileData ← decodeOctets "Failed to decode file data tag" "Failed to read file data"
    pure (.stream start fileData)
  | 1 => do
    let start ← decodeStart "Failed to decode start record tag" "Failed to decode start record"
    let count ← decodeCount "Failed to decode record count tag" "Failed to decode record count"
    let records ← decodeRecords count.toNat
    pure (.record start records)
  | _ => fail "Unknown access choice"

def skipClosingTag : Decode String Unit := do
  if ← gets isEmpty then pure ()
  else do
    let _ ← attempt (skip 1)
    pure ()

def decodeRequest {Access Request : Type} (access : UInt8 → Decode String Access)
    (make : UInt16 → UInt32 → Access → Request) : Decode String Request := do
  let objectId ← decodeFile
  let accessTag ← decodeAccessTag
  let choice ← access accessTag
  skipClosingTag
  pure (make objectId.objectType.code objectId.instanceNumber choice)

section

variable {allowed : Fault → Prop}

theorem orderly_decodeFile : Orderly remaining allowed decodeFile := by
  apply (orderly_orText _ orderly_decodeTagInfo).bind
  intro tag
  apply (orderly_failIf _ _).bind
  intro _
  apply (orderly_failIf _ _).bind
  intro _
  apply (orderly_failIf _ _).bind
  intro _
  exact orderly_orText _ orderly_decodeObjectIdentifier

theorem orderly_decodeAccessTag : Orderly remaining allowed decodeAccessTag := by
  apply (orderly_gets _).bind
  intro next
  apply (orderly_liftOption _ _).bind
  intro byte
  apply (orderly_failIf _ _).bind
  intro _
  exact (orderly_orText _ (orderly_skip 1)).bind fun _ => orderly_pure _

theorem orderly_decodeCount (tagText text : String) :
    Orderly remaining allowed (decodeCount tagText text) :=
  (orderly_orText _ orderly_decodeTagInfo).bind fun _ =>
    orderly_orText _ (orderly_decodeUnsigned _)

theorem orderly_decodeOctets (tagText text : String) :
    Orderly remaining allowed (decodeOctets tagText text) :=
  (orderly_orText _ orderly_decodeTagInfo).bind fun _ => orderly_orText _ (orderly_readBytes _)

theorem orderly_decodeRecords (count : Nat) : Orderly remaining allowed (decodeRecords count) := by
  induction count with
  | zero => exact orderly_pure _
  | succ count ih =>
    apply (orderly_gets _).bind
    intro empty
    apply Orderly.ite (orderly_pure _)
    apply (orderly_decodeOctets _ _).bind
    intro record
    exact ih.bind fun _ => orderly_pure _

theorem orderly_skipClosingTag : Orderly remaining allowed skipClosingTag := by
  apply (orderly_gets _).bind
  intro empty
  apply Orderly.ite (orderly_pure _)
  exact (orderly_skip 1).attempt.bind fun _ => orderly_pure _

end

def fileField : StreamFormat UInt8 ObjectId :=
  tagged (fun tag => tag.isContext = false ∧ tag.tagNumber = 12 ∧ tag.len = 4) fun _ =>
    objectIdOctets

theorem accepts_decodeFile : Accepts between decodeFile fileField := by
  have identifier (text : String) : Accepts between (orText text decodeObjectIdentifier)
      objectIdOctets :=
    accepts_decodeObjectIdentifier.mapErr _
  apply (accepts_tagged fun tag => (((identifier _).guarded _ _).guarded _ _).guarded _ _).congr
  intro octets objectId rest
  simp [tagged, fileField, and_assoc]

/-- An opening tag of any number below 16. -/
def accessOctets : StreamFormat UInt8 UInt8 := fun octets accessTag _ =>
  ∃ octet, octets = [octet] ∧ octet &&& 0x0F = 0x0E ∧ accessTag = (octet >>> 4) &&& 0x0F

theorem accepts_decodeAccessTag : Accepts between decodeAccessTag accessOctets := by
  apply (accepts_peek _ fun octet => (((accepts_skip 1).mapErr _).map
    fun _ => (octet >>> 4) &&& 0x0F).guarded _ _).congr
  intro octets accessTag rest
  constructor
  · rintro ⟨octet, seen, opening, _, one, rfl⟩
    obtain ⟨first, rfl⟩ := List.length_eq_one_iff.mp one
    obtain rfl : first = octet := Option.some.inj seen
    exact ⟨first, rfl, by simpa using opening, rfl⟩
  · rintro ⟨octet, rfl, opening, rfl⟩
    exact ⟨octet, rfl, by simpa using opening, (), rfl, rfl⟩

/-- A start without any octet. -/
def StartFaulty : Bytes → Prop := tagOctets.Before fun tag _ => tag.len = 0

theorem faultsOn_decodeStart (tagText text : String) :
    FaultsOn between (decodeStart tagText text) StartFaulty :=
  FaultsOn.behind (orderly_orText _ orderly_decodeTagInfo).safe (accepts_decodeTagInfo.mapErr _)
    fun tag => (faultsOn_decodeSigned tag.len).mapErr _

variable (accessTag : UInt8)

/-- An access of a known kind whose start has no octet. -/
def AccessFaulty (input : Bytes) : Prop :=
  (accessTag = 0 ∨ accessTag = 1) ∧ StartFaulty input

theorem faultsOn_decodeReadAccess :
    FaultsOn between (decodeReadAccess accessTag) (AccessFaulty accessTag) := by
  fun_cases decodeReadAccess accessTag with
  | case1 | case2 =>
    apply ((faultsOn_decodeStart _ _).ahead fun _ =>
      ((orderly_decodeCount _ _).bind fun _ => orderly_pure _).safe).congr
    simp [AccessFaulty]
  | case3 _ stream record =>
    exact (safe_fail _).faultsOn_never fun _ known => known.1.elim stream record

theorem faultsOn_decodeWriteAccess :
    FaultsOn between (decodeWriteAccess accessTag) (AccessFaulty accessTag) := by
  fun_cases decodeWriteAccess accessTag with
  | case1 =>
    apply ((faultsOn_decodeStart _ _).ahead fun _ =>
      ((orderly_decodeOctets _ _).bind fun _ => orderly_pure _).safe).congr
    simp [AccessFaulty]
  | case2 =>
    apply ((faultsOn_decodeStart _ _).ahead fun _ => ((orderly_decodeCount _ _).bind fun _ =>
      (orderly_decodeRecords _).bind fun _ => orderly_pure _).safe).congr
    simp [AccessFaulty]
  | case3 _ stream record =>
    exact (safe_fail _).faultsOn_never fun _ known => known.1.elim stream record

def RequestFaulty : Bytes → Prop :=
  fileField.Before fun _ => accessOctets.Before AccessFaulty

theorem faultsOn_decodeRequest {Access Request : Type} {access : UInt8 → Decode String Access}
    (faults : ∀ accessTag, FaultsOn between (access accessTag) (AccessFaulty accessTag))
    (make : UInt16 → UInt32 → Access → Request) :
    FaultsOn between (decodeRequest access make) RequestFaulty := by
  apply FaultsOn.behind orderly_decodeFile.safe accepts_decodeFile
  intro objectId
  apply FaultsOn.behind orderly_decodeAccessTag.safe accepts_decodeAccessTag
  intro accessTag
  apply (faults accessTag).ahead
  intro choice
  exact (orderly_skipClosingTag.bind fun _ => orderly_pure _).safe

end FileAccess

open FileAccess

variable (data : Bytes)

def AtomicReadFileRequest.decode : Option (Except String AtomicReadFileRequest) :=
  (decodeRequest decodeReadAccess AtomicReadFileRequest.mk (.new data)).returned

def AtomicWriteFileRequest.decode : Option (Except String AtomicWriteFileRequest) :=
  (decodeRequest decodeWriteAccess AtomicWriteFileRequest.mk (.new data)).returned

theorem AtomicReadFileRequest.decode_faults_iff :
    AtomicReadFileRequest.decode data = none ↔ RequestFaulty data :=
  (faultsOn_decodeRequest faultsOn_decodeReadAccess _).returned_none [] data

theorem AtomicWriteFileRequest.decode_faults_iff :
    AtomicWriteFileRequest.decode data = none ↔ RequestFaulty data :=
  (faultsOn_decodeRequest faultsOn_decodeWriteAccess _).returned_none [] data

/-! ## Records under a declared count -/

namespace FileAccess

open ApduEncoder

variable {file : ObjectId} {records : List Bytes} (start : Int32)

def encodeRecordAccess (start : Int32) (count : UInt32) (records : List Bytes) : Bytes :=
  encodeSigned start ++ (encodeUnsigned count ++
    (records.flatMap encodeOctetString ++ encodeClosingTag 1))

def encodeWriteRecords (file : ObjectId) (start : Int32) (count : UInt32)
    (records : List Bytes) : Bytes :=
  encodeObjectIdentifier file ++ (encodeOpeningTag 1 ++ encodeRecordAccess start count records)

/-- Too small a count cuts the records off, too large a one takes the closing tag for a record. -/
def readRecords : Nat → List Bytes → List Bytes
  | 0, _ => []
  | _ + 1, [] => [[]]
  | count + 1, record :: records => record :: readRecords count records

theorem readRecords_eq_iff (count : Nat) :
    readRecords count records = records ↔ count = records.length := by
  induction records generalizing count with
  | nil => cases count <;> simp [readRecords]
  | cons record records ih => cases count <;> simp [readRecords, ih]

section

variable (tagText text : String)

theorem decodes_under_tag {Value : Type} {content : Nat → Decode ApduError Value}
    {len : Nat} {bytes : Bytes} {value : Value} (tag : TagNumber) (short : len < 2 ^ 32)
    (read : Decodes Anything (content len) bytes value) :
    Decodes Anything (orText tagText decodeTagInfo >>= fun tag => orText text (content tag.len))
      (encodeApplicationTag tag len ++ bytes) value := by
  have tagged := decodes_applicationTag tag len
  rw [Nat.mod_eq_of_lt short] at tagged
  exact (tagged.mapErr fun _ => tagText).andThen (read.mapErr fun _ => text)

theorem decodes_octets {record : Bytes} (short : record.length < 2 ^ 32) :
    Decodes Anything (decodeOctets tagText text) (encodeOctetString record) record :=
  decodes_under_tag tagText text .octetString short (decodes_readBytes record)

theorem decodes_start : Decodes Anything (decodeStart tagText text) (encodeSigned start) start := by
  apply decodes_under_tag tagText text .signedInt _ (decodes_decodeSigned start)
  unfold signedLength
  split_ifs <;> decide

theorem decodes_count (count : UInt32) :
    Decodes Anything (decodeCount tagText text) (encodeUnsigned count) count := by
  apply decodes_under_tag tagText text .unsignedInt _ (decodes_minimalBytes count)
  unfold minimalBytes
  split_ifs <;> simp

theorem decodes_closing_octets :
    Decodes Anything (decodeOctets tagText text) (encodeClosingTag 1) [] := by
  have tag : Decodes Anything decodeTagInfo (encodeClosingTag 1) ⟨1, true, 0⟩ := by
    intro consumed rest _
    exact (accepts_decodeTagInfo consumed _ _ _).mpr ⟨[0x1F], rest, rfl,
      .pairing ⟨by decide, .inr (by decide)⟩ (.short (by decide)), rfl⟩
  exact (tag.mapErr fun _ => tagText).lastly ((decodes_readBytes []).mapErr fun _ => text)

end

theorem decodeRecords_succ {front rest record : Bytes} {read : List Bytes}
    {count : Nat} {consumed : Bytes} {after : ApduDecoder} (some : front ≠ [])
    (first : ∀ tagText text, Decodes Anything (decodeOctets tagText text) front record)
    (later : decodeRecords count (between (consumed ++ front) rest) = .ok read after) :
    decodeRecords (count + 1) (between consumed (front ++ rest)) = .ok (record :: read) after := by
  have more : (between consumed (front ++ rest)).isEmpty = false := by simp [some]
  rw [decodeRecords, bind_ok (gets_apply _ _), more, if_neg Bool.false_ne_true,
    bind_ok (first _ _ consumed rest trivial), bind_ok later]
  rfl

theorem skipClosingTag_ok (decoder : ApduDecoder) :
    ∃ after, skipClosingTag decoder = .ok () after := by
  rw [skipClosingTag, bind_ok (gets_apply _ _)]
  split_ifs
  · exact ⟨_, rfl⟩
  · cases ran : skip 1 decoder with
    | ok => exact ⟨_, bind_ok (attempt_ok _ _ ran)⟩
    | err => exact ⟨_, bind_ok (attempt_err _ _ ran)⟩
    | fault fault => exact absurd ⟨fault, ran⟩ ((orderly_skip 1 : Tame remaining _).safe decoder)

section

variable (short : ∀ record ∈ records, record.length < 2 ^ 32)

include short

theorem decodeRecords_ok (count : Nat) (consumed : Bytes) : ∃ after, decodeRecords count
        (between consumed (records.flatMap encodeOctetString ++ encodeClosingTag 1)) =
      .ok (readRecords count records) after := by
  induction count generalizing records consumed with
  | zero => exact ⟨_, rfl⟩
  | succ count ih =>
    cases records with
    | nil =>
      have ended : decodeRecords count (between (consumed ++ encodeClosingTag 1) []) =
          .ok [] (between (consumed ++ encodeClosingTag 1) []) := by
        cases count with
        | zero => rfl
        | succ => rw [decodeRecords, bind_ok (gets_apply _ _), isEmpty_between]; rfl
      have closed := decodeRecords_succ (by decide) decodes_closing_octets ended
      exact ⟨_, closed⟩
    | cons record records =>
      rw [List.forall_mem_cons] at short
      obtain ⟨after, later⟩ := ih short.2 (consumed ++ encodeOctetString record)
      rw [List.flatMap_cons, List.append_assoc]
      have some : encodeOctetString record ≠ [] := by
        rw [encodeOctetString, encodeApplicationTag]
        split_ifs <;> simp
      exact ⟨after, decodeRecords_succ some (decodes_octets · · short.1) later⟩

variable (count : UInt32)

theorem decodeWriteAccess_ok (consumed : Bytes) :
    ∃ after, decodeWriteAccess 1 (between consumed (encodeRecordAccess start count records)) =
      .ok (.record start (readRecords count.toNat records)) after := by
  obtain ⟨after, read⟩ :=
    decodeRecords_ok short count.toNat (consumed ++ encodeSigned start ++ encodeUnsigned count)
  refine ⟨after, ?_⟩
  rw [decodeWriteAccess, encodeRecordAccess, bind_ok (decodes_start start _ _ _ _ trivial),
    bind_ok (decodes_count _ _ count _ _ trivial), bind_ok read]
  rfl

/-- Whatever the count, the request is accepted. -/
theorem decode_encodeWriteRecords (recognised : ObjectIdRecognised file) :
    AtomicWriteFileRequest.decode (encodeWriteRecords file start count records) =
      some (.ok ⟨file.objectType.code, file.instanceNumber,
        .record start (readRecords count.toNat records)⟩) := by
  have named : Decodes Anything decodeFile (encodeObjectIdentifier file) file :=
    ((decodes_applicationTag .objectIdentifier 4).mapErr _).andThen
      ((decodes_decodeObjectIdentifier file recognised).mapErr _)
  have opened : Decodes Anything decodeAccessTag (encodeOpeningTag 1) 1 := by
    intro consumed rest _
    exact (accepts_decodeAccessTag consumed _ _ _).mpr ⟨[0x1E], rest, rfl,
      ⟨0x1E, rfl, by decide, by decide⟩, rfl⟩
  obtain ⟨middle, access⟩ := decodeWriteAccess_ok start short count
    (encodeObjectIdentifier file ++ encodeOpeningTag 1)
  obtain ⟨after, closed⟩ := skipClosingTag_ok middle
  change (decodeRequest decodeWriteAccess AtomicWriteFileRequest.mk
    (between [] (encodeWriteRecords file start count records))).returned = _
  rw [encodeWriteRecords, decodeRequest, bind_ok (named _ _ trivial),
    bind_ok (opened _ _ trivial), List.nil_append, bind_ok access, bind_ok closed]
  rfl

end

/-- An accepted request holds the records sent under their number, and a wrong count is rejected. -/
def StoresRecordsSent (file : ObjectId) (start : Int32) (count : UInt32)
    (records : List Bytes) : Prop :=
  (∀ request, AtomicWriteFileRequest.decode (encodeWriteRecords file start count records) =
      some (.ok request) → request.access = .record start records ∧ count.toNat = records.length) ∧
    (count.toNat ≠ records.length → ∃ error,
      AtomicWriteFileRequest.decode (encodeWriteRecords file start count records) =
        some (.error error))

/-- The declared count is compared with nothing. -/
theorem records_stored_iff (recognised : ObjectIdRecognised file)
    (short : ∀ record ∈ records, record.length < 2 ^ 32) (count : UInt32) :
    StoresRecordsSent file start count records ↔ count.toNat = records.length := by
  have accepted := decode_encodeWriteRecords start short count recognised
  constructor
  · rintro ⟨exact, _⟩
    exact (exact _ accepted).2
  · intro same
    rw [(readRecords_eq_iff count.toNat).mpr same] at accepted
    refine ⟨?_, fun differs => absurd same differs⟩
    intro request decoded
    cases accepted.symm.trans decoded
    exact ⟨rfl, same⟩

theorem two_records_stored :
    ObjectIdRecognised ⟨.file, 1⟩ ∧ StoresRecordsSent ⟨.file, 1⟩ 0 2 [[1, 2], [3]] :=
  ⟨⟨rfl, by decide⟩, (records_stored_iff 0 ⟨rfl, by decide⟩ (by decide) 2).mpr rfl⟩

/-- The count is not compared with the records that were read. -/
theorem miscounted_records_stored :
    AtomicWriteFileRequest.decode (encodeWriteRecords ⟨.file, 1⟩ 0 3 [[1, 2], [3]]) =
        some (.ok ⟨10, 1, .record 0 [[1, 2], [3], []]⟩) ∧
      AtomicWriteFileRequest.decode (encodeWriteRecords ⟨.file, 1⟩ 0 1 [[1, 2], [3]]) =
        some (.ok ⟨10, 1, .record 0 [[1, 2]]⟩) :=
  ⟨decode_encodeWriteRecords 0 (by decide) 3 ⟨rfl, by decide⟩,
    decode_encodeWriteRecords 0 (by decide) 1 ⟨rfl, by decide⟩⟩

end FileAccess

end Mabinogion.Bacnet
