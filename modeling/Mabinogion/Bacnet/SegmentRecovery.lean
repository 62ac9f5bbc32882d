import Mabinogion.Bacnet.SegmentRoundTrip

/-!
# A new message after a failed one

After an out-of-order segment the server aborts, but the entry stays. The next message under
the key meets it, and its first segments are taken for duplicates. This module says when it
still comes through.
-/

namespace Mabinogion.Bacnet.Segmentation

open Transducer SegmentAssembler
open List (length_drop length_take)

/-- The new message ends in `Complete` and is returned as it was sent. -/
def Recovers (assembler : SegmentAssembler) (now : Nat) (sourceHash : UInt64)
    (invokeId : UInt8) (segments : List Segment) : Prop :=
  ∀ times, times.length = segments.length → Spaced assembler.timeout now times →
    (outputs step assembler
      (deliver sourceHash times segments)).getLast? = some (.processed (.ok .complete)) ∧
    ((final step assembler
      (deliver sourceHash times segments)).getComplete sourceHash invokeId).1.map Prod.fst =
        some (message segments)

/-- The entry holds fewer segments than the new message has, with the bytes of its first
segments. -/
def Reusable (entry : AssemblyEntry) (segments : List Segment) : Prop :=
  entry.nextSequence.toNat < segments.length ∧
    collectSegments entry.segments (sequenceNumbers entry.nextSequence) =
      .ok (message (segments.take entry.nextSequence.toNat))

theorem spaced_append (timeout last : Nat) (first second : List Nat)
    (spaced : Spaced timeout last (first ++ second)) :
    Spaced timeout last first ∧ Spaced timeout (first.getLastD last) second := by
  induction first generalizing last with
  | nil => exact ⟨trivial, spaced⟩
  | cons now first ih =>
    obtain ⟨prompt, rest⟩ := spaced
    obtain ⟨firstSpaced, secondSpaced⟩ := ih now rest
    refine ⟨⟨prompt, firstSpaced⟩, ?_⟩
    rwa [List.getLastD_cons]

theorem acknowledged_last {replies : List Reply} (acknowledged : Acknowledged replies) :
    replies.getLast? = some (.processed (.ok .complete)) := by
  induction replies with
  | nil => exact acknowledged.elim
  | cons reply rest ih =>
    cases rest with
    | nil =>
      rw [show reply = .processed (.ok .complete) from acknowledged]
      rfl
    | cons =>
      rw [List.getLast?_cons_cons]
      exact ih acknowledged.2

theorem in_order_drop {invokeId : UInt8} {segments : List Segment} {position : Nat} (count : Nat)
    (inOrder : InOrderFrom invokeId position segments) :
    InOrderFrom invokeId (position + count) (segments.drop count) := by
  induction count generalizing position segments with
  | zero => simpa using inOrder
  | succ count ih =>
    cases segments with
    | nil => simp [InOrderFrom]
    | cons segment rest =>
      have tail := ih inOrder.2.2.2.2
      rw [List.drop_succ_cons]
      rwa [show position + (count + 1) = position + 1 + count by omega]

theorem in_order_take_known {invokeId : UInt8} {segments : List Segment} {count : Nat}
    {segment : Segment} (inOrder : InOrderFrom invokeId 0 segments)
    (member : segment ∈ segments.take count) :
    segment.invokeId = invokeId ∧ segment.header.sequenceNumber.toNat < count := by
  obtain ⟨index, bound, located⟩ := List.mem_take_iff_getElem.mp member
  have fromIndex := in_order_drop index inOrder
  rw [List.drop_eq_getElem_cons (by omega), Nat.zero_add, located] at fromIndex
  obtain ⟨addressed, _, numbered, _⟩ := fromIndex
  refine ⟨addressed, ?_⟩
  rw [numbered, UInt8.toNat_ofNat']
  exact lt_of_le_of_lt (Nat.mod_le _ _) (by omega)

section

variable {sourceHash : UInt64} {invokeId : UInt8} {segments : List Segment}
  {assembler : SegmentAssembler} {entry : AssemblyEntry} {window : List Bytes}
  {times : List Nat} (timed : times.length = segments.length)
  (present : assembler.entries.lookup (sourceHash, invokeId) = some entry)
  (holds : Holds entry window) (spaced : Spaced assembler.timeout entry.lastActivity times)

include timed present holds spaced

theorem deliver_duplicates (known : ∀ segment ∈ segments, segment.invokeId = invokeId ∧
      segment.header.sequenceNumber < entry.nextSequence) :
    (∀ reply ∈ outputs step assembler
        (deliver sourceHash times segments), reply = .processed (.ok .duplicate)) ∧
      (final step assembler (deliver sourceHash times segments)).timeout = assembler.timeout ∧
      ∃ after, (final step assembler
          (deliver sourceHash times segments)).entries.lookup (sourceHash, invokeId) = some after ∧
        Holds after window ∧ after.lastActivity = times.getLastD entry.lastActivity := by
  induction segments generalizing assembler entry times with
  | nil =>
    have noTimes : times = [] := by simpa using timed
    subst noTimes
    exact ⟨by simp [deliver], rfl, entry, present, holds, rfl⟩
  | cons segment rest ih =>
    cases times with
    | nil => simp at timed
    | cons now times =>
      obtain ⟨rfl, earlier⟩ := known segment (by simp)
      have live := current_entry_live assembler now _ _ present spaced.1
      have added := add_earlier_segment entry now segment earlier
      have own := process_segment_own_entry assembler now sourceHash segment
      rw [live, added] at own
      have tail := @ih (assembler.processSegment now sourceHash segment).2
        { entry with lastActivity := now } times (by simpa using timed) own
        (holds.touch now) spaced.2
        (fun later member => known later (by simp [member]))
      obtain ⟨replies, sameTimeout, after, found, afterHolds, activity⟩ := tail
      refine ⟨?_, sameTimeout, after, found, afterHolds, by rwa [List.getLastD_cons]⟩
      intro reply member
      rcases List.mem_cons.mp member with rfl | later
      · simp [step, processSegment, live, added]
      · exact replies reply later

theorem deliver_over_start (bounded : segments.length ≤ 255)
    (inOrder : InOrderFrom invokeId 0 segments) (longer : window.length < segments.length) :
    (outputs step assembler
        (deliver sourceHash times segments)).getLast? = some (.processed (.ok .complete)) ∧
      ((final step assembler
        (deliver sourceHash times segments)).getComplete sourceHash invokeId).1.map Prod.fst =
          some (window.flatten ++ message (segments.drop window.length)) := by
  let held := window.length
  have cut : deliver sourceHash times segments =
      deliver sourceHash (times.take held) (segments.take held) ++
        deliver sourceHash (times.drop held) (segments.drop held) := by
    rw [deliver, deliver, deliver, ← List.zipWith_append, List.take_append_drop,
      List.take_append_drop]
    rw [length_take, length_take, timed]
  have spacing := spaced_append assembler.timeout entry.lastActivity (times.take held)
    (times.drop held) (by rwa [List.take_append_drop])
  have known : ∀ segment ∈ segments.take held, segment.invokeId = invokeId ∧
      segment.header.sequenceNumber < entry.nextSequence := by
    intro segment member
    rw [UInt8.lt_iff_toNat_lt, holds.count]
    exact in_order_take_known inOrder member
  obtain ⟨_, sameTimeout, after, found, afterHolds, activity⟩ :=
    deliver_duplicates (by rw [length_take, length_take, timed]) present holds spacing.1 known
  have remaining : (times.drop held).length = (segments.drop held).length := by
    rw [length_drop, length_drop, timed]
  have restOrder := in_order_drop held inOrder
  rw [Nat.zero_add] at restOrder
  cases restTimes : times.drop held with
  | nil =>
    have short : (segments.drop held).length = 0 := by
      rw [← remaining, restTimes]
      rfl
    rw [length_drop] at short
    omega
  | cons first later =>
    rw [restTimes] at remaining spacing cut
    have spacingRest := spacing.2
    rw [← activity, ← sameTimeout] at spacingRest
    have live := current_entry_live _ first _ _ found spacingRest.1
    obtain ⟨acknowledged, stored, storedPresent, storedHolds, complete⟩ :=
      deliver_in_order sourceHash invokeId (segments.drop held) _ held first later window
        restOrder remaining spacingRest.2 (by rw [live]; exact afterHolds)
        (Nat.mod_eq_of_lt holds.length_lt).symm
    have unwrapped : (window ++ (segments.drop held).map Segment.data).length < 256 := by
      rw [List.length_append, List.length_map, length_drop]
      omega
    rw [cut, outputs_append, final_append]
    refine ⟨?_, ?_⟩
    · rw [List.getLast?_append, acknowledged_last acknowledged]
      rfl
    · rw [get_complete_holds _ sourceHash invokeId stored storedPresent storedHolds complete,
        foldl_extend _ _ holds.length_lt, Nat.div_eq_of_lt unwrapped]
      simp [message, held]

end

theorem spaced_replicate (timeout now count : Nat) :
    Spaced timeout now (List.replicate count now) := by
  induction count with
  | zero => exact trivial
  | succ count ih => exact ⟨by omega, ih⟩

/-- The key is usable exactly when the segments accepted before the failure are also the first ones
of the new message, which has more of them. -/
theorem recovers_iff_reusable (timeout : Nat) (calls : List (Nat × Call)) (now : Nat)
    (sourceHash : UInt64) (failing : Segment) (error : SegmentationError)
    (failed : ((Transducer.final step (new timeout)
      calls).processSegment now sourceHash failing).1 = .error error)
    (segments : List Segment) (bounded : segments.length ≤ 255)
    (inOrder : InOrderFrom failing.invokeId 0 segments) :
    Recovers ((Transducer.final step (new timeout)
        calls).processSegment now sourceHash failing).2 now sourceHash failing.invokeId segments ↔
      Reusable ((Transducer.final step (new timeout)
        calls).currentEntry now (sourceHash, failing.invokeId)) segments := by
  obtain ⟨window, holds⟩ := current_entry_holds _ now (sourceHash, failing.invokeId)
    (reachable_entries_hold timeout calls)
  have present := process_segment_own_entry (final SegmentAssembler.step
    (SegmentAssembler.new timeout) calls) now sourceHash failing
  rw [add_segment_error _ now failing failed] at present
  generalize final step (new timeout) calls = reached at failed holds present ⊢
  have split : message segments =
      message (segments.take window.length) ++ message (segments.drop window.length) := by
    rw [message, message, message, ← List.flatten_append, ← List.map_append, List.take_append_drop]
  rw [Reusable, holds.count, holds.collect, Except.ok.injEq]
  constructor
  · intro recovers
    -- all segments at the time of the failure are a delivery without timeout
    obtain ⟨completed, returned⟩ := recovers (List.replicate segments.length now) (by simp)
      (spaced_replicate _ now _)
    by_cases longer : window.length < segments.length
    · refine ⟨longer, ?_⟩
      have result := (deliver_over_start (by simp) present (holds.touch now)
        (spaced_replicate _ now segments.length) bounded inOrder longer).2
      rw [result, split, Option.some.injEq] at returned
      exact List.append_cancel_right returned
    · have known : ∀ segment ∈ segments, segment.invokeId = failing.invokeId ∧
          segment.header.sequenceNumber <
            (reached.currentEntry now (sourceHash, failing.invokeId)).nextSequence := by
        intro segment member
        rw [UInt8.lt_iff_toNat_lt, holds.count]
        apply in_order_take_known inOrder
        rwa [List.take_of_length_le (by omega)]
      have replies := (deliver_duplicates (by simp) present (holds.touch now)
        (spaced_replicate _ now segments.length) known).1
      have last := replies _ (List.mem_of_getLast? completed)
      simp at last
  · rintro ⟨longer, shared⟩ times timed spaced
    have result := deliver_over_start timed present (holds.touch now) spaced bounded inOrder longer
    rw [shared, ← split] at result
    exact result

/-- A lone segment with number 1 is refused on a fresh key and nothing is stored. -/
theorem recovers_after_stray_segment :
    Recovers ((new 5).processSegment 0 7 (Segment.new 1 false 3 [9])).2 0 7 3
      [Segment.new 0 false 3 [1, 2]] :=
  (recovers_iff_reusable 5 [] 0 7 (Segment.new 1 false 3 [9]) (.sequenceError 0 1) rfl
    [Segment.new 0 false 3 [1, 2]] (by decide)
    ⟨rfl, rfl, rfl, rfl, trivial⟩).mpr ⟨by decide, rfl⟩

/-- The entry of the aborted message is still in the table. -/
theorem aborted_message_blocks_next : Transducer.outputs step (new 5)
      [(0, .processSegment 7 (Segment.new 0 true 3 [1])),
       (1, .processSegment 7 (Segment.new 2 true 3 [2])),
       (2, .processSegment 7 (Segment.new 0 false 3 [8, 9])),
       (3, .getComplete 7 3)] =
      [.processed (.ok (.needAck 0)), .processed (.error (.sequenceError 1 2)),
       .processed (.ok .duplicate), .completed none] := by
  decide

end Mabinogion.Bacnet.Segmentation
