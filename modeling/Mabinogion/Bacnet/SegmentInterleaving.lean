import Mabinogion.Bacnet.SegmentRecovery

/-!
# Interleaved reassemblies

Many senders share one assembler. A run is followed on the entry of one key alone: a call
for another key does not touch it, and a cleanup drops it only when it has been idle.
-/

namespace Mabinogion.Bacnet.Segmentation

open SegmentAssembler Segment AssemblyEntry

/-- One message as its sender cuts it, with its place in the table. -/
structure Stream where
  sourceHash : UInt64
  invokeId : UInt8
  segments : List Segment
  nonempty : segments ≠ []
  bounded : segments.length ≤ 255
  inOrder : InOrderFrom invokeId 0 segments

variable (stream : Stream)

def Stream.key : AssemblyKey := (stream.sourceHash, stream.invokeId)

def Stream.serviceChoice : Option UInt8 :=
  (stream.segments.head stream.nonempty).serviceChoice

def Call.addresses (key : AssemblyKey) : Call → Bool
  | .processSegment sourceHash segment => (sourceHash, segment.invokeId) == key
  | .getComplete sourceHash invokeId => (sourceHash, invokeId) == key
  | .cleanup => false

def callsTo (key : AssemblyKey) (trace : List (Nat × Call)) : List (Nat × Call) :=
  trace.filter fun timed => timed.2.addresses key

/-- The replies of a run to the calls that address the key. -/
def repliesTo (key : AssemblyKey) : SegmentAssembler → List (Nat × Call) → List Reply
  | _, [] => []
  | assembler, timed :: trace =>
    if timed.2.addresses key then
      (assembler.step timed).1 :: repliesTo key (assembler.step timed).2 trace
    else repliesTo key (assembler.step timed).2 trace

/-- Delivered in order; until the last segment has arrived, accepted ones may arrive again. -/
inductive Delivery : List Segment → List Segment → List Segment → Prop
  | finished (accepted : List Segment) : Delivery accepted [] []
  | next (accepted pending delivered : List Segment) (segment : Segment)
      (later : Delivery (accepted ++ [segment]) pending delivered) :
      Delivery accepted (segment :: pending) (segment :: delivered)
  | again (accepted pending delivered : List Segment) (segment : Segment)
      (known : segment ∈ accepted) (unfinished : pending ≠ [])
      (later : Delivery accepted pending delivered) :
      Delivery accepted pending (segment :: delivered)

/-- The calls of the stream and then for the message, with no gap longer than the timeout. -/
def Delivers (timeout : Nat) (stream : Stream) (calls : List (Nat × Call)) : Prop :=
  ∃ delivered first later closing, Delivery [] stream.segments delivered ∧
      (first :: later).length = delivered.length ∧
      Spaced timeout first (later ++ [closing]) ∧
      calls = deliver stream.sourceHash (first :: later) delivered ++
        [(closing, .getComplete stream.sourceHash stream.invokeId)]

/-- Acknowledgements, then `Complete`, then the message with its service choice. -/
def Received (replies : List Reply) : Prop :=
  ∃ progress, replies = progress ++ [.processed (.ok .complete),
      .completed (some (message stream.segments, stream.serviceChoice))] ∧
    ∀ reply ∈ progress, reply = .processed (.ok .duplicate) ∨
      ∃ sequenceNumber, reply = .processed (.ok (.needAck sequenceNumber))

section

variable {key : AssemblyKey} {timed : Nat × Call} {trace : List (Nat × Call)}

theorem calls_to_own (own : timed.2.addresses key = true) :
    callsTo key (timed :: trace) = timed :: callsTo key trace := by
  simp [callsTo, own]

theorem calls_to_other (other : timed.2.addresses key = false) :
    callsTo key (timed :: trace) = callsTo key trace := by
  simp [callsTo, other]

variable {assembler : SegmentAssembler}

theorem replies_to_own (own : timed.2.addresses key = true) :
    repliesTo key assembler (timed :: trace) =
      (assembler.step timed).1 :: repliesTo key (assembler.step timed).2 trace := by
  rw [repliesTo, if_pos own]

theorem replies_to_other (other : timed.2.addresses key = false) :
    repliesTo key assembler (timed :: trace) = repliesTo key (assembler.step timed).2 trace := by
  rw [repliesTo, if_neg (by simp [other])]

theorem replies_to_none (none : callsTo key trace = []) : repliesTo key assembler trace = [] := by
  induction trace generalizing assembler with
  | nil => rfl
  | cons timed trace ih =>
    cases addressed : timed.2.addresses key with
    | true => simp [calls_to_own addressed] at none
    | false =>
      rw [calls_to_other addressed] at none
      rw [replies_to_other addressed]
      exact ih none

end

variable (key : AssemblyKey) (assembler : SegmentAssembler)

/-- A call for another key keeps the entry, and so does a cleanup that finds it live. -/
theorem other_call_keeps_entry (key : AssemblyKey)
    (timed : Nat × Call) (other : timed.2.addresses key = false)
    (live : ∀ entry, assembler.entries.lookup key = some entry →
      timed.1 - entry.lastActivity ≤ assembler.timeout) :
    (assembler.step timed).2.entries.lookup key = assembler.entries.lookup key := by
  obtain ⟨now, call⟩ := timed
  cases call with
  | processSegment =>
    apply process_segment_other_entry
    intro same
    simp [Call.addresses, same] at other
  | getComplete =>
    apply get_complete_other_entry
    intro same
    simp [Call.addresses, same] at other
  | cleanup =>
    change (KeyedTable.retain _ assembler.entries).lookup key = _
    rw [KeyedTable.lookup_retain]
    cases found : assembler.entries.lookup key with
    | none => rfl
    | some entry => exact Option.filter_some_pos (decide_eq_true (live entry found))

variable {key : AssemblyKey}

theorem next_own_call {trace rest : List (Nat × Call)}
    {assembler : SegmentAssembler} {call : Nat × Call}
    (own : callsTo key trace = call :: rest)
    (ordered : Transducer.Chronological trace)
    (live : ∀ entry, assembler.entries.lookup key = some entry →
      call.1 - entry.lastActivity ≤ assembler.timeout) :
    ∃ (reached : SegmentAssembler) (later : List (Nat × Call)), repliesTo key assembler trace =
          (reached.step call).1 :: repliesTo key (reached.step call).2 later ∧
        reached.entries.lookup key = assembler.entries.lookup key ∧
        reached.timeout = assembler.timeout ∧ callsTo key later = rest ∧
        Transducer.Chronological later := by
  induction trace generalizing assembler with
  | nil => simp [callsTo] at own
  | cons timed trace ih =>
    rw [Transducer.Chronological, List.pairwise_cons] at ordered
    cases addressed : timed.2.addresses key with
    | true =>
      rw [calls_to_own addressed, List.cons.injEq] at own
      obtain ⟨rfl, remaining⟩ := own
      exact ⟨assembler, trace, replies_to_own addressed, rfl, rfl, remaining, ordered.2⟩
    | false =>
      rw [calls_to_other addressed] at own
      have member : call ∈ trace := by
        apply List.mem_of_mem_filter
        rw [callsTo] at own
        rw [own]
        exact List.mem_cons_self
      have before : timed.1 ≤ call.1 := ordered.1 call member
      have kept := other_call_keeps_entry assembler key timed addressed (by
        intro entry found
        have inTime := live entry found
        omega)
      have sameTimeout := step_keeps_timeout assembler timed.1 timed.2
      obtain ⟨reached, later, replies, found, timeout, remaining, laterOrdered⟩ :=
        @ih (assembler.step timed).2 own ordered.2 (by
          rw [kept, sameTimeout]
          exact live)
      refine ⟨reached, later, ?_, found.trans kept, timeout.trans sameTimeout, remaining,
        laterOrdered⟩
      rw [replies_to_other addressed, replies]

structure Receiving (stream : Stream) (accepted pending : List Segment)
    (entry : AssemblyEntry) : Prop where
  split : stream.segments = accepted ++ pending
  started : accepted ≠ []
  holds : Holds entry (accepted.map data)
  service : entry.serviceChoice = stream.serviceChoice
  finished : pending = [] → entry.state = .complete

variable (stream : Stream)

theorem stream_segment_at {accepted pending : List Segment} {segment : Segment}
    (split : stream.segments = accepted ++ segment :: pending) :
    segment.invokeId = stream.invokeId ∧ segment.header.segmented =
      true ∧ segment.header.sequenceNumber.toNat = accepted.length ∧ segment.header.isLast =
      pending.isEmpty ∧ accepted.length < 255 := by
  have bounded := stream.bounded
  rw [split, List.length_append, List.length_cons] at bounded
  have place := in_order_drop accepted.length stream.inOrder
  rw [split, List.drop_left, Nat.zero_add] at place
  obtain ⟨addressed, segmented, numbered, flagged, _⟩ := place
  refine ⟨addressed, segmented, ?_, ?_, by omega⟩
  · rw [numbered, UInt8.toNat_ofNat', Nat.mod_eq_of_lt (by omega)]
  · simp [SegmentHeader.isLast, segmented, flagged]

theorem receiving_first {pending : List Segment} {segment : Segment} (now : Nat)
    (split : stream.segments = segment :: pending) :
    Receiving stream [segment] pending ((AssemblyEntry.new now).store now segment) := by
  obtain ⟨_, segmented, numbered, last, _⟩ := @stream_segment_at stream [] _ _ split
  have zero : segment.header.sequenceNumber = 0 := UInt8.toNat_inj.mp numbered
  refine ⟨split, by simp, (new_entry_holds_nothing now).store now segment zero, ?_, ?_⟩
  · have first : segment.header.isFirst = true := by simp [SegmentHeader.isFirst, segmented, zero]
    simp [AssemblyEntry.store, first, Stream.serviceChoice, split]
  · rintro rfl
    simp [AssemblyEntry.store, last]

variable {accepted pending : List Segment} {entry : AssemblyEntry}

section

variable {stream : Stream}

theorem Receiving.next {segment : Segment}
    (receiving : Receiving stream accepted (segment :: pending) entry) (now : Nat) :
    segment.header.sequenceNumber = entry.nextSequence ∧
      Receiving stream (accepted ++ [segment]) pending (entry.store now segment) := by
  obtain ⟨_, _, numbered, last, bounded⟩ :=
    stream_segment_at stream receiving.split
  have expected : segment.header.sequenceNumber = entry.nextSequence := by
    apply UInt8.toNat_inj.mp
    rw [numbered, receiving.holds.count, List.length_map]
  have notFirst : segment.header.isFirst = false := by
    have positive := List.length_pos_iff.mpr receiving.started
    have nonzero : segment.header.sequenceNumber ≠ 0 := by
      intro zero
      rw [zero] at numbered
      exact absurd numbered (Nat.ne_of_lt positive)
    simp [SegmentHeader.isFirst, nonzero]
  refine ⟨expected, by simp [receiving.split], by simp, ?_, ?_, ?_⟩
  · have stored := receiving.holds.store now segment expected
    rw [extend, if_neg (by rw [List.length_map]; omega)] at stored
    simpa using stored
  · simp [store, notFirst, receiving.service]
  · rintro rfl
    simp [store, last]

theorem Receiving.again {segment : Segment}
    (receiving : Receiving stream accepted pending entry) (known : segment ∈ accepted) :
    segment.invokeId = stream.invokeId ∧ segment.header.sequenceNumber < entry.nextSequence := by
  rw [UInt8.lt_iff_toNat_lt, receiving.holds.count, List.length_map]
  apply in_order_take_known stream.inOrder
  rwa [receiving.split, List.take_left]

theorem Receiving.touch (receiving : Receiving stream accepted pending entry) (now : Nat) :
    Receiving stream accepted pending { entry with lastActivity := now } :=
  ⟨receiving.split, receiving.started, receiving.holds.touch now, receiving.service,
    receiving.finished⟩

theorem Received.cons {replies : List Reply} (received : Received stream replies)
    (reply : Reply) (progressed : reply = .processed (.ok .duplicate) ∨
      ∃ sequenceNumber, reply = .processed (.ok (.needAck sequenceNumber))) :
    Received stream (reply :: replies) := by
  obtain ⟨progress, rfl, earlier⟩ := received
  refine ⟨reply :: progress, rfl, ?_⟩
  intro other member
  rcases List.mem_cons.mp member with rfl | later
  · exact progressed
  · exact earlier other later

end

theorem current_entry_congr {left right : SegmentAssembler} (now : Nat)
    (sameEntry : left.entries.lookup key = right.entries.lookup key)
    (sameTimeout : left.timeout = right.timeout) :
    left.currentEntry now key = right.currentEntry now key := by
  simp only [currentEntry, sameEntry, sameTimeout]

theorem next_own_segment {trace rest : List (Nat × Call)} {assembler : SegmentAssembler}
    {now : Nat} {segment : Segment}
    (addressed : segment.invokeId = stream.invokeId)
    (own : callsTo stream.key trace = (now, .processSegment stream.sourceHash segment) :: rest)
    (ordered : Transducer.Chronological trace)
    (live : ∀ entry, assembler.entries.lookup stream.key = some entry →
      now - entry.lastActivity ≤ assembler.timeout) :
    ∃ (after : SegmentAssembler) (later : List (Nat × Call)), repliesTo stream.key assembler trace =
          .processed ((assembler.currentEntry now stream.key).addSegment now segment).1 ::
            repliesTo stream.key after later ∧
        after.entries.lookup stream.key =
          some ((assembler.currentEntry now stream.key).addSegment now segment).2 ∧
        after.timeout = assembler.timeout ∧ callsTo stream.key later = rest ∧
        Transducer.Chronological later := by
  obtain ⟨reached, later, replies, found, sameTimeout, remaining, laterOrdered⟩ :=
    next_own_call own ordered live
  have current := current_entry_congr now found sameTimeout
  have stored := process_segment_own_entry reached now stream.sourceHash segment
  rw [addressed] at stored
  refine ⟨(reached.processSegment now stream.sourceHash segment).2, later, replies.trans ?_, ?_,
    sameTimeout, remaining, laterOrdered⟩
  · simp only [step, processSegment, addressed, ← current]
    rfl
  · rw [← current]
    exact stored

theorem live_of_present {now : Nat} (present : assembler.entries.lookup key = some entry)
    (inTime : now - entry.lastActivity ≤ assembler.timeout) (found : AssemblyEntry)
    (same : assembler.entries.lookup key = some found) :
    now - found.lastActivity ≤ assembler.timeout := by
  rw [present, Option.some.injEq] at same
  rwa [← same]

/-- The induction is on the stream's own calls; the calls between two of them are skipped by
`next_own_call`. -/
theorem receive_rest {accepted pending delivered : List Segment}
    (delivery : Delivery accepted pending delivered) (trace : List (Nat × Call))
    (assembler : SegmentAssembler) (entry : AssemblyEntry) (times : List Nat) (closing : Nat)
    (present : assembler.entries.lookup stream.key = some entry)
    (receiving : Receiving stream accepted pending entry)
    (timed : times.length = delivered.length)
    (spaced : Spaced assembler.timeout entry.lastActivity (times ++ [closing]))
    (ordered : Transducer.Chronological trace)
    (own : callsTo stream.key trace = deliver stream.sourceHash times delivered ++
      [(closing, .getComplete stream.sourceHash stream.invokeId)]) :
    (pending = [] → repliesTo stream.key assembler trace =
        [.completed (some (message stream.segments, stream.serviceChoice))]) ∧
      (pending ≠ [] → Received stream (repliesTo stream.key assembler trace)) := by
  induction delivery generalizing trace assembler entry times with
  | finished accepted =>
    have noTimes : times = [] := List.length_eq_zero_iff.mp timed
    subst noTimes
    refine ⟨fun _ => ?_, fun more => absurd rfl more⟩
    obtain ⟨reached, later, replies, found, _, remaining, _⟩ :=
      next_own_call own ordered (live_of_present _ present spaced.1)
    have whole : accepted = stream.segments := by simp [receiving.split]
    have returned := get_complete_holds reached stream.sourceHash stream.invokeId entry
      (found.trans present) receiving.holds (receiving.finished rfl)
    rw [replies, replies_to_none remaining, List.singleton_inj]
    change Reply.completed (reached.getComplete stream.sourceHash stream.invokeId).1 = _
    rw [returned, receiving.service, whole, message]
  | next accepted pending delivered segment later ih =>
    cases times with
    | nil => simp at timed
    | cons now times =>
      obtain ⟨addressed, _, _, last, _⟩ :=
        stream_segment_at stream receiving.split
      obtain ⟨expected, stored⟩ := receiving.next now
      obtain ⟨after, rest, replies, found, sameTimeout, remaining, restOrdered⟩ :=
        next_own_segment stream addressed own ordered (live_of_present _ present spaced.1)
      rw [current_entry_live assembler now stream.key entry present spaced.1,
        add_expected_segment entry now segment expected] at replies found
      have tail := ih rest after (entry.store now segment) times found stored
        (by simpa using timed) (by rw [sameTimeout]; exact spaced.2) restOrdered remaining
      refine ⟨fun impossible => by simp at impossible, fun _ => ?_⟩
      rw [replies]
      by_cases final : pending = []
      · rw [tail.1 final, last, final]
        exact ⟨[], rfl, by simp⟩
      · refine (tail.2 final).cons _ (Or.inr ⟨segment.header.sequenceNumber, ?_⟩)
        simp [last, final]
  | again accepted pending delivered segment known unfinished later ih =>
    cases times with
    | nil => simp at timed
    | cons now times =>
      obtain ⟨addressed, earlier⟩ := receiving.again known
      obtain ⟨after, rest, replies, found, sameTimeout, remaining, restOrdered⟩ :=
        next_own_segment stream addressed own ordered (live_of_present _ present spaced.1)
      rw [current_entry_live assembler now stream.key entry present spaced.1,
        add_earlier_segment entry now segment earlier] at replies found
      have tail := ih rest after { entry with lastActivity := now } times found
        (receiving.touch now) (by simpa using timed)
        (by rw [sameTimeout]; exact spaced.2) restOrdered remaining
      refine ⟨fun none => absurd none unfinished, fun more => ?_⟩
      rw [replies]
      exact (tail.2 more).cons _ (Or.inl rfl)

/-- Each stream whose own calls follow one another within the timeout is acknowledged, completed and
returned with the service choice of its first segment. -/
theorem interleaved_streams_received (assembler : SegmentAssembler) (streams : List Stream)
    (trace : List (Nat × Call))
    (ordered : Transducer.Chronological trace)
    (vacant : ∀ stream ∈ streams, assembler.entries.lookup stream.key = none)
    (interleaved : ∀ stream ∈ streams,
      Delivers assembler.timeout stream (callsTo stream.key trace)) :
    ∀ stream ∈ streams, Received stream (repliesTo stream.key assembler trace) := by
  intro stream member
  obtain ⟨delivered, first, later, closing, delivery, timed, spaced, own⟩ :=
    interleaved stream member
  have absent := vacant stream member
  cases segments : stream.segments with
  | nil => exact absurd segments stream.nonempty
  | cons segment pending =>
    rw [segments] at delivery
    cases delivery with
    | again _ _ _ _ known => simp at known
    | next _ _ delivered _ rest =>
      obtain ⟨addressed, _, numbered, last, _⟩ :=
        @stream_segment_at stream [] _ _ segments
      have zero : segment.header.sequenceNumber = (AssemblyEntry.new first).nextSequence :=
        UInt8.toNat_inj.mp numbered
      obtain ⟨after, remaining, replies, found, sameTimeout, ownRest, restOrdered⟩ :=
        @next_own_segment stream _ _ assembler _ _ addressed own ordered (by
          intro entry present
          simp [absent] at present)
      rw [current_entry_vacant assembler first stream.key absent,
        add_expected_segment _ first segment zero] at replies found
      have tail := receive_rest stream rest remaining after _ later closing found
        (receiving_first stream first segments) (by simpa using timed)
        (by rw [sameTimeout]; exact spaced) restOrdered ownRest
      rw [replies]
      by_cases final : pending = []
      · rw [tail.1 final, last, final]
        exact ⟨[], rfl, by simp⟩
      · refine (tail.2 final).cons _ (Or.inr ⟨segment.header.sequenceNumber, ?_⟩)
        simp [last, final]

theorem two_senders_received :
    let left : Stream := ⟨1, 3, [(new 0 true 3 [10]).withServiceChoice 15,
      new 1 false 3 [11]], by decide, by decide,
      ⟨rfl, rfl, rfl, rfl, rfl, rfl, rfl, rfl, trivial⟩⟩
    let right : Stream := ⟨2, 3, [(new 0 false 3 [20]).withServiceChoice 12], by decide,
      by decide, ⟨rfl, rfl, rfl, rfl, trivial⟩⟩
    let trace : List (Nat × Call) := [
      (0, .processSegment 1 ((new 0 true 3 [10]).withServiceChoice 15)),
      (1, .processSegment 2 ((new 0 false 3 [20]).withServiceChoice 12)),
      (2, .processSegment 1 ((new 0 true 3 [10]).withServiceChoice 15)),
      (3, .cleanup),
      (4, .getComplete 2 3),
      (5, .processSegment 1 (new 1 false 3 [11])),
      (6, .getComplete 1 3)]
    ∀ stream ∈ [left, right], Received stream (repliesTo stream.key (new 5) trace) := by
  intro left right trace
  apply interleaved_streams_received (new 5) [left, right] trace (by decide)
  · intro stream _
    rfl
  · intro stream member
    rcases List.mem_cons.mp member with rfl | member
    · refine ⟨_, 0, [2, 5], 6, .next _ _ _ _ (.again _ _ _ _ (List.mem_singleton.mpr rfl)
        (by simp) (.next _ _ _ _ (.finished _))), rfl, ?_, rfl⟩
      exact ⟨by decide, by decide, by decide, trivial⟩
    · rw [List.mem_singleton.mp member]
      exact ⟨_, 1, [], 4, .next _ _ _ _ (.finished _), rfl, ⟨by decide, trivial⟩, rfl⟩

theorem paused_stream_refused : Transducer.outputs step (new 5)
      [(0, .processSegment 7 (new 0 true 3 [1])), (6, .processSegment 7 (new 1 false 3 [2])),
       (7, .getComplete 7 3)] =
      [.processed (.ok (.needAck 0)), .processed (.error (.sequenceError 0 1)),
       .completed none] := by
  decide

end Mabinogion.Bacnet.Segmentation
