import Mabinogion.Bacnet.SegmentAssembly

/-!
# Segmentation round trip

What the entry ends with is computed for any number of segments: every wrap of the sequence
byte forgets the 256 chunks before it. Up to 255 segments nothing is forgotten.
-/

namespace Mabinogion.Bacnet.Segmentation

open List Transducer UInt8 SegmentAssembler

/-- Consecutive sequence bytes, and more to follow exactly when another segment follows. -/
def InOrderFrom (invokeId : UInt8) : Nat → List Segment → Prop
  | _, [] => True
  | position, segment :: rest =>
    segment.invokeId = invokeId ∧ segment.header.segmented = true ∧
      segment.header.sequenceNumber = ofNat position ∧
      segment.header.moreFollows = !rest.isEmpty ∧ InOrderFrom invokeId (position + 1) rest

def message (segments : List Segment) : Bytes := (segments.map Segment.data).flatten

def deliver (sourceHash : UInt64) (times : List Nat) (segments : List Segment) :
    List (Nat × Call) :=
  zipWith (fun now segment => (now, .processSegment sourceHash segment)) times segments

/-- No two consecutive times are further apart than the timeout. -/
def Spaced (timeout : Nat) : Nat → List Nat → Prop
  | _, [] => True
  | last, now :: later => now - last ≤ timeout ∧ Spaced timeout now later

/-- `NeedAck` for every segment but the last, `Complete` for the last. -/
def Acknowledged : List Reply → Prop
  | [] => False
  | [reply] => reply = .processed (.ok .complete)
  | reply :: next :: rest =>
    (∃ sequenceNumber, reply = .processed (.ok (.needAck sequenceNumber))) ∧
      Acknowledged (next :: rest)

theorem extend_length (window : List Bytes) (chunk : Bytes)
    (bound : window.length < 256) : (extend window chunk).length = (window.length + 1) % 256 := by
  by_cases full : window.length = 255
  · rw [extend, if_pos full, full]
    rfl
  · rw [extend, if_neg full, Nat.mod_eq_of_lt (by omega), length_append]
    rfl

/-- Accepting one segment after another leaves the chunks after the last
multiple of 256. -/
theorem foldl_extend (window chunks : List Bytes) (bound : window.length < 256) :
    chunks.foldl extend window =
      (window ++ chunks).drop (256 * ((window ++ chunks).length / 256)) := by
  induction chunks generalizing window with
  | nil =>
    rw [append_nil, Nat.div_eq_of_lt bound]
    rfl
  | cons chunk chunks ih =>
    have next : (extend window chunk).length < 256 := by
      rw [extend_length window chunk bound]
      exact Nat.mod_lt _ (by decide)
    rw [foldl_cons, ih _ next]
    by_cases full : window.length = 255
    · have wrapped : (window ++ chunk :: chunks).length = chunks.length + 256 := by
        simp only [length_append, length_cons]
        omega
      have split : window ++ chunk :: chunks = (window ++ [chunk]) ++ chunks := by simp
      have first : (window ++ [chunk]).length = 256 := by simp [full]
      rw [extend, if_pos full, nil_append, wrapped, Nat.add_div_right _ (by decide),
        Nat.mul_succ, add_comm, split, ← drop_drop, drop_left' first]
    · rw [extend, if_neg full, append_assoc]
      rfl

section

variable (sourceHash : UInt64) (invokeId : UInt8)

/-- The induction is on the segments still to come; the length of the window follows their position
modulo 256. -/
theorem deliver_in_order (segments : List Segment) (assembler : SegmentAssembler)
    (position first : Nat) (later : List Nat) (window : List Bytes)
    (inOrder : InOrderFrom invokeId position segments)
    (timed : (first :: later).length = segments.length)
    (spaced : Spaced assembler.timeout first later)
    (holds : Holds (assembler.currentEntry first (sourceHash, invokeId)) window)
    (aligned : window.length = position % 256) :
    Acknowledged (outputs step assembler
        (deliver sourceHash (first :: later) segments)) ∧
      ∃ entry, (final step assembler
          (deliver sourceHash (first :: later) segments)).entries.lookup (sourceHash, invokeId) =
            some entry ∧
        Holds entry ((segments.map Segment.data).foldl extend window) ∧
        entry.state = .complete := by
  induction segments generalizing assembler position first later window with
  | nil => simp at timed
  | cons segment rest ih =>
    obtain ⟨addressed, segmented, numbered, flagged, inOrderRest⟩ := inOrder
    subst addressed
    have expected : segment.header.sequenceNumber =
        (assembler.currentEntry first (sourceHash, segment.invokeId)).nextSequence := by
      apply UInt8.toNat_inj.mp
      rw [numbered, toNat_ofNat', holds.count, aligned]
    have added := add_expected_segment _ first segment expected
    have own := process_segment_own_entry assembler first sourceHash segment
    rw [added] at own
    have stored := holds.store first segment expected
    cases rest with
    | nil =>
      have last : segment.header.isLast = true := by
        simp [SegmentHeader.isLast, segmented, flagged]
      have noMore : later = [] := by simpa using timed
      subst noMore
      refine ⟨?_, _, own, stored, by simp [AssemblyEntry.store, last]⟩
      simp [deliver, Acknowledged, step, processSegment, added, last]
    | cons =>
      have notLast : segment.header.isLast = false := by
        simp [SegmentHeader.isLast, segmented, flagged]
      cases later with
      | nil => simp at timed
      | cons second later =>
        have live := current_entry_live
          (assembler.processSegment first sourceHash segment).2 second _ _ own spaced.1
        have nextHolds : Holds ((assembler.processSegment first sourceHash segment).2.currentEntry
            second (sourceHash, segment.invokeId)) (extend window segment.data) := by
          rw [live]
          exact stored
        have nextAligned : (extend window segment.data).length = (position + 1) % 256 := by
          rw [extend_length window _ holds.length_lt, aligned]
          omega
        have tail := ih (assembler.processSegment first sourceHash segment).2
          (position + 1) second later (extend window segment.data) inOrderRest
          (by simpa using timed) spaced.2 nextHolds nextAligned
        refine ⟨⟨⟨segment.header.sequenceNumber, ?_⟩, tail.1⟩, tail.2⟩
        simp [step, processSegment, added, notLast]

end

section

variable (transmitter : SegmentTransmitter) (data : Bytes) (invokeId : UInt8)

/-- In order, tiling the data, as many as the division says, none empty and none too long. -/
structure Tiles (offset position : Nat) (segments : List Segment) : Prop where
  inOrder : InOrderFrom invokeId position segments
  content : message segments = data.drop offset
  count : segments.length =
    (data.length - offset + transmitter.maxSegmentSize - 1) / transmitter.maxSegmentSize
  sizes : ∀ segment ∈ segments,
    1 ≤ segment.data.length ∧ segment.data.length ≤ transmitter.maxSegmentSize

section

variable (positive : 1 ≤ transmitter.maxSegmentSize)

include positive

theorem tiles_finished (offset position : Nat) (finished : ¬offset < data.length) :
    Tiles transmitter data invokeId offset position [] where
  inOrder := trivial
  content := (drop_of_length_le (Nat.le_of_not_lt finished)).symm
  count := by
    have noneLeft : data.length - offset = 0 := by omega
    rw [noneLeft, Nat.zero_add]
    exact (Nat.div_eq_of_lt (by omega)).symm
  sizes := by simp

theorem tiles_step (offset position stop : Nat) (running : offset < data.length)
    (stopped : stop = min (offset + transmitter.maxSegmentSize) data.length)
    (rest : List Segment) (tiles : Tiles transmitter data invokeId stop (position + 1) rest) :
    Tiles transmitter data invokeId offset position
      (Segment.new (ofNat position) (decide (stop < data.length)) invokeId
        (data.extract offset stop) :: rest) := by
  have progress : offset < stop := by omega
  have chunkLength : (data.extract offset stop).length = stop - offset := by
    rw [extract_eq_take_drop, length_take, length_drop]
    omega
  have emptied : rest.length = 0 ↔ ¬stop < data.length := by
    rw [tiles.count, Nat.div_eq_zero_iff]
    omega
  have more : decide (stop < data.length) = !rest.isEmpty := by
    by_cases follows : stop < data.length
    · have nonempty : rest ≠ [] := by
        intro empty
        rw [empty] at emptied
        exact emptied.mp rfl follows
      simp [follows, nonempty]
    · have empty : rest = [] := length_eq_zero_iff.mp (emptied.mpr follows)
      simp [follows, empty]
  refine ⟨⟨rfl, rfl, rfl, more, tiles.inOrder⟩, ?_, ?_, ?_⟩
  · change data.extract offset stop ++ message rest = data.drop offset
    rw [tiles.content, extract_eq_take_drop]
    have rejoined := take_append_drop (stop - offset) (data.drop offset)
    rwa [drop_drop, Nat.add_sub_cancel' (Nat.le_of_lt progress)] at rejoined
  · rw [length_cons, tiles.count]
    by_cases whole : offset + transmitter.maxSegmentSize ≤ data.length
    · have fullStop : stop = offset + transmitter.maxSegmentSize := by omega
      rw [fullStop, ← Nat.add_div_right _ positive]
      congr 1
      omega
    · have lastStop : stop = data.length := by omega
      rw [lastStop, Nat.sub_self, Nat.zero_add, Nat.div_eq_of_lt (by omega)]
      symm
      rw [Nat.div_eq_iff (by omega)]
      omega
  · intro segment member
    rcases mem_cons.mp member with rfl | later
    · change 1 ≤ (data.extract offset stop).length ∧ (data.extract offset stop).length ≤ _
      rw [chunkLength]
      omega
    · exact tiles.sizes segment later

/-- Each iteration takes bytes, so as much fuel as there are bytes left is enough. -/
theorem segment_loop_tiles (fuel offset position : Nat) (enough : data.length - offset ≤ fuel) :
    ∃ segments, transmitter.segmentLoop data invokeId fuel offset (ofNat position) =
      some segments ∧ Tiles transmitter data invokeId offset position segments := by
  induction fuel generalizing offset position with
  | zero =>
    have finished : ¬offset < data.length := by omega
    refine ⟨[], ?_, tiles_finished transmitter data invokeId positive offset position finished⟩
    unfold SegmentTransmitter.segmentLoop
    rw [if_neg finished]
  | succ fuel ih =>
    by_cases running : offset < data.length
    · obtain ⟨rest, looped, tiles⟩ :=
        ih (min (offset + transmitter.maxSegmentSize) data.length) (position + 1) (by omega)
      have nextByte : ofNat position + 1 = ofNat (position + 1) := by
        rw [ofNat_add]
        rfl
      refine ⟨_, ?_, tiles_step transmitter data invokeId positive offset position _ running
        rfl rest tiles⟩
      unfold SegmentTransmitter.segmentLoop
      rw [if_pos running]
      simp only
      rw [nextByte, looped]
      rfl
    · refine ⟨[], ?_, tiles_finished transmitter data invokeId positive offset position running⟩
      unfold SegmentTransmitter.segmentLoop
      rw [if_neg running]

end

/-- With a zero segment size no amount of fuel brings the loop to a result. -/
theorem segment_loop_diverges (zero : transmitter.maxSegmentSize = 0) (fuel : Nat) {offset : Nat}
    (sequenceNumber : UInt8) (running : offset < data.length) :
    transmitter.segmentLoop data invokeId fuel offset sequenceNumber = none := by
  induction fuel generalizing sequenceNumber with
  | zero =>
    unfold SegmentTransmitter.segmentLoop
    rw [if_pos running]
  | succ fuel ih =>
    have stuck : min (offset + transmitter.maxSegmentSize) data.length = offset := by omega
    unfold SegmentTransmitter.segmentLoop
    rw [if_pos running]
    simp only
    rw [stuck, ih]
    rfl

/-- The loop ends exactly if a segment takes bytes or there are none. -/
theorem segment_loop_ends_iff : (∃ fuel, (transmitter.segmentLoop data invokeId fuel 0 0).isSome) ↔
      1 ≤ transmitter.maxSegmentSize ∨ data = [] := by
  constructor
  · rintro ⟨fuel, ended⟩
    by_contra stuck
    obtain ⟨empty, filled⟩ := not_or.mp stuck
    rw [segment_loop_diverges transmitter data invokeId (by omega) fuel 0
      (length_pos_iff.mpr filled)] at ended
    cases ended
  · rintro (positive | rfl)
    · obtain ⟨segments, looped, _⟩ :=
        segment_loop_tiles transmitter data invokeId positive data.length 0 0 (by omega)
      exact ⟨_, congrArg Option.isSome looped⟩
    · exact ⟨0, rfl⟩

theorem segment_spec (positive : 1 ≤ transmitter.maxSegmentSize) :
    ∃ segments, transmitter.segment data invokeId = some segments ∧ segments ≠ [] ∧
      InOrderFrom invokeId 0 segments ∧ message segments = data ∧
      segments.length = transmitter.calculateSegmentCount data.length ∧
      (∀ segment ∈ segments, segment.data.length ≤ transmitter.maxSegmentSize) ∧
      (1 < segments.length → ∀ segment ∈ segments, 1 ≤ segment.data.length) := by
  unfold SegmentTransmitter.segment SegmentTransmitter.needsSegmentation
  by_cases large : data.length > transmitter.maxSegmentSize
  · obtain ⟨segments, looped, tiles⟩ :=
      segment_loop_tiles transmitter data invokeId positive data.length 0 0 (by omega)
    have counted : segments.length = transmitter.calculateSegmentCount data.length := by
      rw [tiles.count, SegmentTransmitter.calculateSegmentCount, if_neg (by omega), Nat.sub_zero]
    have content := tiles.content
    rw [drop_zero] at content
    refine ⟨segments, ?_, ?_, tiles.inOrder, content, counted,
      fun segment member => (tiles.sizes segment member).2,
      fun _ segment member => (tiles.sizes segment member).1⟩
    · simpa [large] using looped
    · intro empty
      rw [empty] at content
      rw [← content] at large
      simp [message] at large
  · refine ⟨[Segment.new 0 false invokeId data], by simp [large], by simp, ?_, ?_, ?_, ?_, by simp⟩
    · exact ⟨rfl, rfl, rfl, rfl, trivial⟩
    · simp [message, Segment.new]
    · rw [SegmentTransmitter.calculateSegmentCount]
      split_ifs with empty
      · rfl
      · rw [length_singleton, eq_comm, Nat.div_eq_iff (by omega)]
        omega
    · simpa [Segment.new] using large

end

/-- The segments come back as `data`, as long as no two of them are a timeout apart. -/
def RoundTrips (transmitter : SegmentTransmitter) (assembler : SegmentAssembler)
    (sourceHash : UInt64) (invokeId : UInt8) (data : Bytes) : Prop :=
  ∃ segments, transmitter.segment data invokeId = some segments ∧
    ∀ first later, (first :: later).length = segments.length →
      Spaced assembler.timeout first later → Acknowledged (outputs step assembler
          (deliver sourceHash (first :: later) segments)) ∧
        ((final step assembler
          (deliver sourceHash (first :: later) segments)).getComplete
            sourceHash invokeId).1.map Prod.fst = some data

section

variable (transmitter : SegmentTransmitter) (assembler : SegmentAssembler)
  (sourceHash : UInt64) (invokeId : UInt8) (data : Bytes)

/-- Fed into a vacant key, any in-order message is acknowledged to its end,
and what comes back starts after the last wrap. -/
theorem deliver_to_vacant (vacant : assembler.entries.lookup (sourceHash, invokeId) = none)
    (segments : List Segment) (first : Nat) (later : List Nat)
    (inOrder : InOrderFrom invokeId 0 segments) (timed : (first :: later).length = segments.length)
    (spaced : Spaced assembler.timeout first later) :
    Acknowledged (outputs step assembler
        (deliver sourceHash (first :: later) segments)) ∧
      ((final step assembler
        (deliver sourceHash (first :: later) segments)).getComplete
          sourceHash invokeId).1.map Prod.fst =
        some (message (segments.drop (256 * (segments.length / 256)))) := by
  have holds : Holds (assembler.currentEntry first (sourceHash, invokeId)) [] := by
    rw [current_entry_vacant assembler first _ vacant]
    exact new_entry_holds_nothing first
  obtain ⟨acknowledged, entry, present, holdsAll, complete⟩ :=
    deliver_in_order sourceHash invokeId segments assembler 0 first later [] inOrder timed
      spaced holds rfl
  refine ⟨acknowledged, ?_⟩
  rw [get_complete_holds _ sourceHash invokeId entry present holdsAll complete,
    foldl_extend [] _ (by decide)]
  simp [message, map_drop]

theorem segment_count_le_iff (positive : 1 ≤ transmitter.maxSegmentSize) :
    transmitter.calculateSegmentCount data.length ≤ 255 ↔
      data.length ≤ 255 * transmitter.maxSegmentSize := by
  unfold SegmentTransmitter.calculateSegmentCount
  split_ifs with empty
  · omega
  · rw [← Nat.lt_succ_iff, Nat.div_lt_iff_lt_mul positive]
    omega

theorem message_length_drop_lt (segments : List Segment) (count : Nat) (dropped : 0 < count)
    (nonempty : segments ≠ []) (sizes : ∀ segment ∈ segments, 1 ≤ segment.data.length) :
    (message (segments.drop count)).length < (message segments).length := by
  cases segments with
  | nil => exact absurd rfl nonempty
  | cons segment rest =>
    have positive := sizes segment (by simp)
    have split : message (segment :: rest) =
        message ((segment :: rest).take count) ++ message ((segment :: rest).drop count) := by
      rw [message, message, message, ← flatten_append, ← map_append, take_append_drop]
    obtain ⟨earlier, rfl⟩ : ∃ earlier, count = earlier + 1 := ⟨count - 1, by omega⟩
    rw [split, length_append, take_succ_cons]
    simp only [message, map_cons, flatten_cons, length_append]
    omega

theorem round_trip_fails (positive : 1 ≤ transmitter.maxSegmentSize)
    (vacant : assembler.entries.lookup (sourceHash, invokeId) = none)
    (long : 255 * transmitter.maxSegmentSize < data.length) :
    ¬RoundTrips transmitter assembler sourceHash invokeId data := by
  rintro ⟨segments, segmented, returns⟩
  obtain ⟨produced, same, nonempty, inOrder, content, count, _, sizes⟩ :=
    segment_spec transmitter data invokeId positive
  obtain rfl : segments = produced := Option.some.inj (segmented.symm.trans same)
  have many : 256 ≤ segments.length := by
    have bound := segment_count_le_iff transmitter data positive
    omega
  have timed : (0 :: replicate (segments.length - 1) 0).length = segments.length := by
    rw [length_cons, length_replicate]
    omega
  have spaced : ∀ count, Spaced assembler.timeout 0 (replicate count 0) := by
    intro count
    induction count with
    | zero => trivial
    | succ count ih => exact ⟨by omega, ih⟩
  have kept := (returns _ _ timed (spaced _)).2
  rw [(deliver_to_vacant assembler sourceHash invokeId vacant segments _ _ inOrder timed
    (spaced _)).2, Option.some.injEq] at kept
  have shorter := message_length_drop_lt segments (256 * (segments.length / 256)) (by omega)
    nonempty (sizes (by omega))
  rw [kept, content] at shorter
  exact absurd shorter (lt_irrefl _)

/-- A message comes back if it has at most 255 segments. -/
theorem round_trips_iff (positive : 1 ≤ transmitter.maxSegmentSize)
    (vacant : assembler.entries.lookup (sourceHash, invokeId) = none) :
    RoundTrips transmitter assembler sourceHash invokeId data ↔
      data.length ≤ 255 * transmitter.maxSegmentSize := by
  constructor
  · intro returns
    by_contra long
    exact round_trip_fails transmitter assembler sourceHash invokeId data positive vacant
      (by omega) returns
  · intro short
    obtain ⟨segments, segmented, _, inOrder, content, count, _, _⟩ :=
      segment_spec transmitter data invokeId positive
    refine ⟨segments, segmented, fun first later timed spaced => ?_⟩
    have few : segments.length / 256 = 0 := by
      have bound := segment_count_le_iff transmitter data positive
      exact Nat.div_eq_of_lt (by omega)
    have delivered := deliver_to_vacant assembler sourceHash invokeId vacant segments first later
      inOrder timed spaced
    rw [few, Nat.mul_zero, drop_zero, content] at delivered
    exact delivered

end

/-- Five segments of the source's own round-trip test. -/
theorem round_trips_five_segments :
    RoundTrips ⟨100⟩ (new defaultSegmentTimeout) 99999 42 (List.replicate 500 7) :=
  (round_trips_iff ⟨100⟩ (new defaultSegmentTimeout) 99999 42
    (replicate 500 7) (by decide) rfl).mpr (by rw [length_replicate]; decide)

/-- The number of the next segment has come round to zero. -/
theorem round_trip_loses_256_segments :
    ¬RoundTrips ⟨1⟩ (new defaultSegmentTimeout) 99999 42 (List.replicate 256 7) :=
  round_trip_fails ⟨1⟩ (new defaultSegmentTimeout) 99999 42
    (replicate 256 7) (by decide) rfl (by rw [length_replicate]; decide)

end Mabinogion.Bacnet.Segmentation
