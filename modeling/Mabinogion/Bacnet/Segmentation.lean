import Mabinogion.Library.BigEndian
import Mabinogion.Library.KeyedTable
import Mabinogion.Library.Transducer

/-!
# APDU segmentation

The segment transmitter and the segment assembler. Sequence numbers are bytes that wrap,
segments are kept by that byte, and entries by source hash and invoke id. `Instant::now()` is
the `now` of each call, in nanoseconds. What the source marks as dead code is left out.
-/

namespace Mabinogion.Bacnet.Segmentation

open KeyedTable (Table)

def defaultSegmentTimeout : Nat := 10 * 10 ^ 9

def defaultWindowSize : UInt8 := 1

structure SegmentHeader where
  segmented : Bool
  moreFollows : Bool
  segmentAck : Bool
  sequenceNumber : UInt8
  windowSize : UInt8

def SegmentHeader.new (sequenceNumber : UInt8) (moreFollows : Bool) : SegmentHeader where
  segmented := true
  moreFollows
  segmentAck := false
  sequenceNumber
  windowSize := defaultWindowSize

def SegmentHeader.isFirst (header : SegmentHeader) : Bool :=
  header.segmented && header.sequenceNumber == 0

def SegmentHeader.isLast (header : SegmentHeader) : Bool :=
  header.segmented && !header.moreFollows

structure Segment where
  header : SegmentHeader
  data : Bytes
  invokeId : UInt8
  serviceChoice : Option UInt8

def Segment.new (sequenceNumber : UInt8) (moreFollows : Bool) (invokeId : UInt8)
    (data : Bytes) : Segment where
  header := SegmentHeader.new sequenceNumber moreFollows
  data
  invokeId
  serviceChoice := none

def Segment.withServiceChoice (segment : Segment) (serviceChoice : UInt8) : Segment :=
  { segment with serviceChoice := some serviceChoice }

inductive AssemblyState where
  | idle
  | receiving
  | complete
  | error
deriving DecidableEq

inductive AssemblyResult where
  | needAck (sequenceNumber : UInt8)
  | complete
  | duplicate
deriving DecidableEq

inductive SegmentationError where
  | sequenceError (expected received : UInt8)
  | missingSegment (index : UInt8)
  | incompleteAssembly
  | timeout
  | tooManySegments
  | segmentTooLarge
deriving DecidableEq

structure AssemblyEntry where
  segments : Table UInt8 Bytes
  nextSequence : UInt8
  serviceChoice : Option UInt8
  state : AssemblyState
  lastActivity : Nat

def AssemblyEntry.new (now : Nat) : AssemblyEntry where
  segments := ∅
  nextSequence := 0
  serviceChoice := none
  state := .idle
  lastActivity := now

variable (entry : AssemblyEntry)

/-- The fields written once the sequence number has been accepted. -/
def AssemblyEntry.store (now : Nat) (segment : Segment) : AssemblyEntry where
  segments := entry.segments.insert segment.header.sequenceNumber segment.data
  nextSequence := entry.nextSequence + 1
  serviceChoice :=
    if segment.header.isFirst then segment.serviceChoice else entry.serviceChoice
  state := if segment.header.isLast then .complete else .receiving
  lastActivity := now

def AssemblyEntry.addSegment (now : Nat) (segment : Segment) :
    Except SegmentationError AssemblyResult × AssemblyEntry :=
  if segment.header.sequenceNumber ≠ entry.nextSequence then
    if segment.header.sequenceNumber < entry.nextSequence then
      (.ok .duplicate, { entry with lastActivity := now })
    else
      (.error (.sequenceError entry.nextSequence segment.header.sequenceNumber),
        { entry with lastActivity := now })
  else if segment.header.isLast then
    (.ok .complete, entry.store now segment)
  else
    (.ok (.needAck ((entry.store now segment).nextSequence - 1)), entry.store now segment)

/-- The keys visited by `for i in 0..stop`. -/
def sequenceNumbers (stop : UInt8) : Bytes :=
  (List.range stop.toNat).map UInt8.ofNat

def collectSegments (segments : Table UInt8 Bytes) :
    Bytes → Except SegmentationError Bytes
  | [] => .ok []
  | index :: rest =>
    match segments.lookup index with
    | some segmentData => (collectSegments segments rest).map (segmentData ++ ·)
    | none => .error (.missingSegment index)

def AssemblyEntry.assemble : Except SegmentationError Bytes :=
  if entry.state ≠ .complete then .error .incompleteAssembly
  else collectSegments entry.segments (sequenceNumbers entry.nextSequence)

abbrev AssemblyKey := UInt64 × UInt8

structure SegmentAssembler where
  entries : Table AssemblyKey AssemblyEntry
  timeout : Nat

def SegmentAssembler.new (timeout : Nat) : SegmentAssembler where
  entries := ∅
  timeout

variable (assembler : SegmentAssembler)

/-- The stored entry, or a new one when the key is vacant or the stored one is stale. -/
def SegmentAssembler.currentEntry (now : Nat) (key : AssemblyKey) : AssemblyEntry :=
  let entry := (assembler.entries.lookup key).getD (AssemblyEntry.new now)
  if now - entry.lastActivity > assembler.timeout then AssemblyEntry.new now else entry

def SegmentAssembler.processSegment (now : Nat) (sourceHash : UInt64) (segment : Segment) :
    Except SegmentationError AssemblyResult × SegmentAssembler :=
  let key := (sourceHash, segment.invokeId)
  let added := (assembler.currentEntry now key).addSegment now segment
  (added.1, { assembler with entries := assembler.entries.insert key added.2 })

def SegmentAssembler.getComplete (sourceHash : UInt64)
    (invokeId : UInt8) : Option (Bytes × Option UInt8) × SegmentAssembler :=
  let key := (sourceHash, invokeId)
  match assembler.entries.lookup key with
  | none => (none, assembler)
  | some entry =>
    if entry.state = .complete then
      match entry.assemble with
      | .ok data =>
        (some (data, entry.serviceChoice),
          { assembler with entries := assembler.entries.erase key })
      | .error _ => (none, assembler)
    else (none, assembler)

def SegmentAssembler.cleanup (now : Nat) : Nat × SegmentAssembler :=
  let kept := KeyedTable.retain
    (fun _ entry => decide (now - entry.lastActivity ≤ assembler.timeout)) assembler.entries
  (KeyedTable.size assembler.entries - KeyedTable.size kept, { assembler with entries := kept })

structure SegmentTransmitter where
  maxSegmentSize : Nat

variable (transmitter : SegmentTransmitter)

def SegmentTransmitter.needsSegmentation (dataLen : Nat) : Bool :=
  decide (dataLen > transmitter.maxSegmentSize)

/-- The fuel bounds the iterations of `while offset < data.len()`; `none` means that it still runs.
-/
def SegmentTransmitter.segmentLoop (transmitter : SegmentTransmitter) (data : Bytes)
    (invokeId : UInt8) : Nat → Nat → UInt8 → Option (List Segment)
  | fuel, offset, sequenceNumber =>
    if offset < data.length then
      match fuel with
      | 0 => none
      | fuel + 1 =>
        let stop := min (offset + transmitter.maxSegmentSize) data.length
        let segment := Segment.new sequenceNumber (decide (stop < data.length)) invokeId
          (data.extract offset stop)
        (transmitter.segmentLoop data invokeId fuel stop (sequenceNumber + 1)).map
          (segment :: ·)
    else some []

def SegmentTransmitter.segment (data : Bytes) (invokeId : UInt8) : Option (List Segment) :=
  if !transmitter.needsSegmentation data.length then
    some [Segment.new 0 false invokeId data]
  else transmitter.segmentLoop data invokeId data.length 0 0

def SegmentTransmitter.calculateSegmentCount (dataLen : Nat) : Nat :=
  if dataLen = 0 then 1
  else (dataLen + transmitter.maxSegmentSize - 1) / transmitter.maxSegmentSize

inductive Call where
  | processSegment (sourceHash : UInt64) (segment : Segment)
  | getComplete (sourceHash : UInt64) (invokeId : UInt8)
  | cleanup

inductive Reply where
  | processed (result : Except SegmentationError AssemblyResult)
  | completed (message : Option (Bytes × Option UInt8))
  | cleaned (count : Nat)
deriving DecidableEq

def SegmentAssembler.step (timed : Nat × Call) : Reply × SegmentAssembler :=
  match timed.2 with
  | .processSegment sourceHash segment =>
    let processed := assembler.processSegment timed.1 sourceHash segment
    (.processed processed.1, processed.2)
  | .getComplete sourceHash invokeId =>
    let completed := assembler.getComplete sourceHash invokeId
    (.completed completed.1, completed.2)
  | .cleanup =>
    let cleaned := assembler.cleanup timed.1
    (.cleaned cleaned.1, cleaned.2)

end Mabinogion.Bacnet.Segmentation
