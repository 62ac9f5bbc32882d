import Mabinogion.Bacnet.Segmentation
import Mathlib.Data.List.Forall2

/-!
# What an assembly entry holds

The abstract reassembly buffer is the list of the accepted chunks. Accepting a segment
appends one, except at the 256th, where the byte wraps and the count restarts while the map
still has the old chunks.
-/

namespace Mabinogion.Bacnet.Segmentation

open SegmentAssembler KeyedTable

structure Holds (entry : AssemblyEntry) (chunks : List Bytes) : Prop where
  count : entry.nextSequence.toNat = chunks.length
  stored : ∀ index (bound : index < chunks.length),
    entry.segments.lookup (UInt8.ofNat index) = some (chunks.get ⟨index, bound⟩)

def extend (chunks : List Bytes) (chunk : Bytes) : List Bytes :=
  if chunks.length = 255 then [] else chunks ++ [chunk]

theorem byte_of_index {byte : UInt8} {index : Nat} (same : byte.toNat = index) :
    byte = UInt8.ofNat index := by
  rw [← same, UInt8.ofNat_toNat]

theorem index_bytes_differ {left right : Nat} (leftBound : left < 256) (rightBound : right < 256)
    (different : left ≠ right) : UInt8.ofNat left ≠ UInt8.ofNat right := by
  intro same
  have values := congrArg UInt8.toNat same
  rw [UInt8.toNat_ofNat', UInt8.toNat_ofNat', Nat.mod_eq_of_lt leftBound,
    Nat.mod_eq_of_lt rightBound] at values
  exact different values

variable (assembler : SegmentAssembler) (now : Nat) {entry : AssemblyEntry}

theorem new_entry_holds_nothing : Holds (AssemblyEntry.new now) [] where
  count := rfl
  stored := by
    intro index bound
    simp at bound

variable {chunks : List Bytes}

theorem Holds.length_lt (holds : Holds entry chunks) : chunks.length < 256 := by
  rw [← holds.count]
  exact entry.nextSequence.toNat_lt

theorem Holds.touch (holds : Holds entry chunks) (now : Nat) :
    Holds { entry with lastActivity := now } chunks :=
  ⟨holds.count, holds.stored⟩

/-- At 255 chunks the byte wraps to zero and nothing is claimed about the map any more. -/
theorem Holds.store (holds : Holds entry chunks) (now : Nat) (segment : Segment)
    (expected : segment.header.sequenceNumber = entry.nextSequence) :
    Holds (entry.store now segment) (extend chunks segment.data) := by
  have bound := holds.length_lt
  have advanced : (entry.nextSequence + 1).toNat = (chunks.length + 1) % 256 := by
    rw [UInt8.toNat_add, holds.count]
    rfl
  by_cases full : chunks.length = 255
  · rw [extend, if_pos full]
    refine ⟨?_, ?_⟩
    · change (entry.nextSequence + 1).toNat = 0
      rw [advanced, full]
    · intro index impossible
      simp at impossible
  · rw [extend, if_neg full]
    refine ⟨?_, ?_⟩
    · change (entry.nextSequence + 1).toNat = (chunks ++ [segment.data]).length
      rw [advanced, Nat.mod_eq_of_lt (by omega), List.length_append]
      rfl
    · intro index indexBound
      change (entry.segments.insert segment.header.sequenceNumber segment.data).lookup
        (UInt8.ofNat index) = _
      rw [expected, byte_of_index holds.count]
      rw [List.length_append, List.length_singleton] at indexBound
      by_cases last : index = chunks.length
      · subst last
        rw [AList.lookup_insert]
        simp
      · have earlier : index < chunks.length := by omega
        rw [AList.lookup_insert_ne (index_bytes_differ (by omega) bound last),
          holds.stored index earlier]
        simp [List.getElem_append_left earlier]

theorem collect_of_lookups {segments : Table UInt8 Bytes} {indices : Bytes}
    {chunks : List Bytes}
    (found : List.Forall₂ (fun index chunk => segments.lookup index = some chunk) indices chunks) :
    collectSegments segments indices = .ok chunks.flatten := by
  induction found with
  | nil => rfl
  | cons present _ ih =>
    simp only [collectSegments, present, ih]
    rfl

theorem Holds.collect (holds : Holds entry chunks) :
    collectSegments entry.segments (sequenceNumbers entry.nextSequence) = .ok chunks.flatten := by
  apply collect_of_lookups
  rw [List.forall₂_iff_get]
  refine ⟨by simp [sequenceNumbers, holds.count], ?_⟩
  intro index indexBound chunkBound
  have key : (sequenceNumbers entry.nextSequence).get ⟨index, indexBound⟩ = UInt8.ofNat index := by
    simp [sequenceNumbers]
  rw [key]
  exact holds.stored index chunkBound

theorem Holds.assemble (holds : Holds entry chunks) (complete : entry.state = .complete) :
    entry.assemble = .ok chunks.flatten := by
  rw [AssemblyEntry.assemble, if_neg (by simp [complete]), holds.collect]

section

variable (entry : AssemblyEntry) (now : Nat) (segment : Segment)

theorem add_expected_segment (expected : segment.header.sequenceNumber = entry.nextSequence) :
    entry.addSegment now segment = (.ok (if segment.header.isLast then .complete
        else .needAck segment.header.sequenceNumber), entry.store now segment) := by
  have acknowledged : (entry.store now segment).nextSequence - 1 =
      segment.header.sequenceNumber := by
    rw [expected]
    exact UInt8.add_sub_cancel entry.nextSequence 1
  unfold AssemblyEntry.addSegment
  rw [if_neg (by simp [expected]), acknowledged]
  split_ifs <;> rfl

theorem add_earlier_segment (earlier : segment.header.sequenceNumber < entry.nextSequence) :
    entry.addSegment now segment = (.ok .duplicate, { entry with lastActivity := now }) := by
  unfold AssemblyEntry.addSegment
  rw [if_pos (UInt8.ne_of_lt earlier), if_pos earlier]

theorem add_segment_holds (holds : Holds entry chunks) :
    ∃ after, Holds (entry.addSegment now segment).2 after := by
  by_cases expected : segment.header.sequenceNumber = entry.nextSequence
  · rw [add_expected_segment entry now segment expected]
    exact ⟨_, holds.store now segment expected⟩
  · refine ⟨chunks, ?_⟩
    unfold AssemblyEntry.addSegment
    rw [if_pos expected]
    split_ifs
    · exact holds.touch now
    · exact holds.touch now

theorem add_segment_error {error : SegmentationError}
    (failed : (entry.addSegment now segment).1 = .error error) :
    (entry.addSegment now segment).2 = { entry with lastActivity := now } := by
  unfold AssemblyEntry.addSegment at failed ⊢
  split_ifs at failed ⊢
  rfl

end

section

variable (assembler : SegmentAssembler) (now : Nat)

variable (sourceHash : UInt64) (segment : Segment) (invokeId : UInt8) (key : AssemblyKey)
variable (entry : AssemblyEntry)

theorem current_entry_vacant (vacant : assembler.entries.lookup key = none) :
    assembler.currentEntry now key = AssemblyEntry.new now := by
  simp [currentEntry, vacant, AssemblyEntry.new]

theorem current_entry_live (present : assembler.entries.lookup key = some entry)
    (live : now - entry.lastActivity ≤ assembler.timeout) :
    assembler.currentEntry now key = entry := by
  simp only [currentEntry, present, Option.getD_some]
  rw [if_neg (by omega)]

theorem process_segment_own_entry :
    (assembler.processSegment now sourceHash segment).2.entries.lookup
        (sourceHash, segment.invokeId) =
      some ((assembler.currentEntry now (sourceHash, segment.invokeId)).addSegment now segment).2 :=
  AList.lookup_insert _

theorem process_segment_other_entry (different : key ≠ (sourceHash, segment.invokeId)) :
    (assembler.processSegment now sourceHash segment).2.entries.lookup key =
      assembler.entries.lookup key :=
  AList.lookup_insert_ne different

theorem get_complete_state : (assembler.getComplete sourceHash invokeId).2 =
      assembler ∨ (assembler.getComplete sourceHash invokeId).2 =
      { assembler with entries := assembler.entries.erase (sourceHash, invokeId) } := by
  simp only [getComplete]
  split
  · exact Or.inl rfl
  · split_ifs
    · split
      · exact Or.inr rfl
      · exact Or.inl rfl
    · exact Or.inl rfl

theorem get_complete_other_entry (different : key ≠ (sourceHash, invokeId)) :
    (assembler.getComplete sourceHash invokeId).2.entries.lookup key =
      assembler.entries.lookup key := by
  rcases get_complete_state assembler sourceHash invokeId with same | erased
  · rw [same]
  · rw [erased]
    exact AList.lookup_erase_ne different

theorem get_complete_holds {chunks : List Bytes}
    (present : assembler.entries.lookup (sourceHash, invokeId) = some entry)
    (holds : Holds entry chunks) (complete : entry.state = .complete) :
    (assembler.getComplete sourceHash invokeId).1 = some (chunks.flatten, entry.serviceChoice) := by
  simp only [getComplete, present]
  rw [if_pos complete, holds.assemble complete]

theorem step_keeps_timeout (call : Call) :
    (assembler.step (now, call)).2.timeout = assembler.timeout := by
  cases call with
  | processSegment | cleanup => rfl
  | getComplete sourceHash invokeId =>
    change (assembler.getComplete sourceHash invokeId).2.timeout = _
    rcases get_complete_state assembler sourceHash invokeId with same | erased
    · rw [same]
    · rw [erased]

end

def EntriesHold (assembler : SegmentAssembler) : Prop :=
  ∀ key entry, assembler.entries.lookup key = some entry → ∃ chunks, Holds entry chunks

theorem current_entry_holds (key : AssemblyKey) (entriesHold : EntriesHold assembler) :
    ∃ chunks, Holds (assembler.currentEntry now key) chunks := by
  unfold currentEntry
  simp only
  split_ifs
  · exact ⟨[], new_entry_holds_nothing now⟩
  · cases found : assembler.entries.lookup key with
    | none => exact ⟨[], new_entry_holds_nothing now⟩
    | some entry => exact entriesHold key entry found

theorem step_entries_hold (timed : Nat × Call) (entriesHold : EntriesHold assembler) :
    EntriesHold (assembler.step timed).2 := by
  obtain ⟨now, call⟩ := timed
  intro key entry found
  cases call with
  | processSegment sourceHash segment =>
    change (assembler.processSegment now sourceHash segment).2.entries.lookup key =
      some entry at found
    by_cases own : key = (sourceHash, segment.invokeId)
    · subst own
      obtain ⟨chunks, holds⟩ := current_entry_holds assembler now _ entriesHold
      rw [process_segment_own_entry, Option.some.injEq] at found
      rw [← found]
      exact add_segment_holds _ now segment holds
    · rw [process_segment_other_entry assembler now sourceHash segment key own] at found
      exact entriesHold key entry found
  | getComplete sourceHash invokeId =>
    change (assembler.getComplete sourceHash invokeId).2.entries.lookup key = some entry at found
    by_cases own : key = (sourceHash, invokeId)
    · subst own
      rcases get_complete_state assembler sourceHash invokeId with same | erased
      · rw [same] at found
        exact entriesHold _ entry found
      · simp [erased] at found
    · rw [get_complete_other_entry assembler sourceHash invokeId key own] at found
      exact entriesHold key entry found
  | cleanup =>
    change (retain _ assembler.entries).lookup key = some entry at found
    rw [lookup_retain, Option.filter_eq_some_iff] at found
    exact entriesHold key entry found.1

theorem reachable_entries_hold (timeout : Nat) (calls : List (Nat × Call)) :
    EntriesHold (Transducer.final step (new timeout) calls) := by
  refine Transducer.final_invariant step step_entries_hold _ calls ?_
  intro key entry found
  simp [new] at found

end Mabinogion.Bacnet.Segmentation
