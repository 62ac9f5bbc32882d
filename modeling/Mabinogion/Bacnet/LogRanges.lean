import Mabinogion.Bacnet.ReadRange
import Mabinogion.Bacnet.TrendLogInvariant
import Mabinogion.Library.ListSelection

/-!
# Ranges of a log

ReadRange selects from the elements of the LogBuffer property, which have lost their sequence
numbers, and the log from its records. They part on backward positions and on most sequence
numbers of a log whose first record is not number 0.
-/

namespace Mabinogion.Bacnet

open ListSelection Numbering List Int32 UInt64

def slice {Record : Type} (records : List Record) (start stop : Nat) : List Record :=
  (records.drop start).take (stop - start)

/-- Only `sortable`, the timestamp of an element, is read of the selected elements. -/
def applyRange {Record : Type} (sortable : Record → UInt64) (records : List Record) :
    RangeType → List Record × UInt32 × Bool
  | .none => (records, UInt32.ofNat records.length, false)
  | .byPosition referenceIndex count =>
    let total := records.length
    if total == 0 || count == 0 then ([], 0, false)
    else if 0 < count then
      let start := min (asUsize (max referenceIndex 1) - 1) total
      let take := min (asUsize count) (total - start)
      let items := slice records start (start + take)
      (items, UInt32.ofNat items.length, start + take < total)
    else
      let stop := min (asUsize (max referenceIndex 1)) total
      let take := min (asUsize (-count)) stop
      let start := stop - take
      let items := slice records start stop
      (items, UInt32.ofNat items.length, 0 < start)
  | .bySequenceNumber referenceSeq count =>
    let total := records.length
    if total == 0 || count == 0 then ([], 0, false)
    else
      -- the reference is taken for an index
      let start := min referenceSeq.toNat total
      if 0 < count then
        let take := min (asUsize count) (total - start)
        let items := slice records start (start + take)
        (items, UInt32.ofNat items.length, start + take < total)
      else
        let stop := min start total
        let take := min (asUsize (-count)) stop
        let items := slice records (stop - take) stop
        (items, UInt32.ofNat items.length, 0 < stop - take)
  | .byTime referenceDate referenceTime count =>
    let total := records.length
    if total == 0 || count == 0 then ([], 0, false)
    else
      let reference := timestampSortable referenceDate referenceTime
      if 0 < count then
        let matching := records.filter (reference ≤ sortable ·)
        let take := min (asUsize count) matching.length
        let items := matching.take take
        (items, UInt32.ofNat items.length, take < matching.length)
      else
        let matching := records.filter (sortable · ≤ reference)
        let take := min (asUsize (-count)) matching.length
        let start := matching.length - take
        let items := matching.drop start
        (items, UInt32.ofNat items.length, 0 < start)

/-- Elements of other shapes count as the oldest. -/
def recordTimestampSortable : BACnetValue → UInt64
  | .list (.date date :: .time time :: _) => timestampSortable date time
  | _ => 0

def TrendLog.handledRange (log : TrendLog) (range : RangeType) :
    Option (List BACnetValue × UInt32 × Bool) :=
  match log.readProperty .logBuffer with
  | .ok (.array records) => some (applyRange recordTimestampSortable records range)
  | _ => none

def TrendLog.selected (log : TrendLog) (range : RangeType) : List LogRecord × UInt32 × Bool :=
  applyRange (fun record => recordTimestampSortable record.toValue) log.buffer range

section

variable {Record Value : Type} (sortable : Value → UInt64) (view : Record → Value)

theorem slice_map (records : List Record) (start stop : Nat) :
    slice (records.map view) start stop = (slice records start stop).map view := by
  rw [slice, slice, map_take, map_drop]

theorem applyRange_map (records : List Record) (range : RangeType) :
    applyRange sortable (records.map view) range =
      ((applyRange (fun record => sortable (view record)) records range).1.map view,
        (applyRange (fun record => sortable (view record)) records range).2) := by
  cases range with
  | none => simp [applyRange]
  | byPosition | bySequenceNumber =>
    simp only [applyRange, length_map, slice_map]
    split_ifs <;> rfl
  | byTime =>
    simp only [applyRange, length_map, filter_map, Function.comp_def]
    split_ifs <;> simp

theorem TrendLog.handledRange_eq (log : TrendLog) (range : RangeType) : log.handledRange range =
      some ((log.selected range).1.map LogRecord.toValue, (log.selected range).2) :=
  congrArg some (applyRange_map recordTimestampSortable LogRecord.toValue log.buffer range)

end

theorem toInt_max_one (value : Int32) : (max value 1).toInt = max value.toInt 1 := by
  have one : (1 : Int32).toInt = 1 := rfl
  by_cases small : value ≤ 1
  · have below := le_iff_toInt_le.mp small
    rw [show max value 1 = 1 from if_pos small]
    omega
  · have above : ¬value.toInt ≤ 1 := fun below => small (le_iff_toInt_le.mpr below)
    rw [show max value 1 = value from if_neg small]
    omega

theorem asUsize_max_one (value : Int32) : asUsize (max value 1) = (max value.toInt 1).toNat := by
  have above := value.toInt_lt
  rw [asUsize, toInt_max_one]
  omega

theorem asUsize_max_one_sub (value : Int32) :
    asUsize (max value 1 - 1) = asUsize (max value 1) - 1 := by
  have above := value.toInt_lt
  have one : (1 : Int32).toInt = 1 := rfl
  rw [asUsize_max_one, asUsize, toInt_sub, toInt_max_one, one, Int.bmod_def]
  omega

variable {count : Int32}

theorem asUsize_pos (positive : 0 < count) : 0 < asUsize count := by
  have above := count.toInt_lt
  have below : 0 < count.toInt := lt_iff_toInt_lt.mp positive
  rw [asUsize]
  omega

theorem asUsize_neg (negative : count < 0) :
    0 < asUsize (-count) ∧ (asUsize (-count) = 1 ↔ count = -1) := by
  have below : count.toInt < 0 := lt_iff_toInt_lt.mp negative
  have least := count.le_toInt
  have minus : count = -1 ↔ count.toInt = -1 := toInt_inj.symm
  rw [minus, asUsize, toInt_neg, Int.bmod_def]
  omega

theorem count_neg (nonzero : ¬count = 0) (notForward : ¬0 < count) : count < 0 :=
  Int32.lt_of_le_of_ne (Int32.not_lt.mp notForward) nonzero

namespace TrendLog

/-- The same records in the same order, and the same more-follows flag. -/
def SameRange (wire own : List LogRecord × UInt32 × Bool) : Prop :=
  wire.1 = own.1 ∧ wire.2.2 = own.2.2

theorem taken_agree (matching : List LogRecord) (count : Nat) :
    matching.take (min count matching.length) = matching.take count ∧
      decide (min count matching.length < matching.length) =
        decide ((matching.take count).length < matching.length) := by
  rw [length_take]
  exact ⟨take_eq_take_min.symm, rfl⟩

theorem time_agrees (log : TrendLog) (date : BACnetDate) (time : BACnetTime) (count : Int32) :
    SameRange (log.selected (.byTime date time count)) (log.readRangeByTime ⟨date, time⟩ count) := by
  have sortable (record : LogRecord) :
      recordTimestampSortable record.toValue = record.timestamp.toSortable := rfl
  have empty : (log.buffer.length == 0) = log.buffer.isEmpty := by
    cases log.buffer <;> rfl
  simp only [selected, applyRange, readRangeByTime, readMatching, sortable, empty,
    LogTimestamp.toSortable]
  split_ifs
  · exact ⟨rfl, rfl⟩
  · exact taken_agree _ (asUsize count)
  · exact ⟨rfl, rfl⟩

/-- Forward, or a log of one record, or one record that has others on both sides. -/
def PositionSound (length : Nat) (reference count : Int32) : Prop :=
  0 ≤ count ∨ length ≤ 1 ∨ count = -1 ∧ 1 < reference.toInt ∧ reference.toInt < length

theorem position_agrees_iff {log : TrendLog} (distinct : log.buffer.Nodup)
    (reference count : Int32) :
    SameRange (log.selected (.byPosition reference count))
        (log.readRangeByPosition reference count) ↔
      PositionSound log.buffer.length reference count := by
  simp only [selected, applyRange, readRangeByPosition]
  split_ifs with stopped forward
  · have sound : PositionSound log.buffer.length reference count := by
      rw [Bool.or_eq_true, beq_iff_eq, beq_iff_eq] at stopped
      rcases stopped with empty | none
      · exact .inr (.inl (by omega))
      · rw [none]
        exact .inl (Int32.le_refl 0)
    exact iff_of_true ⟨rfl, rfl⟩ sound
  · apply iff_of_true _ (.inl (Int32.le_of_lt forward))
    rw [asUsize_max_one_sub]
    constructor
    · simp only [slice, Nat.add_sub_cancel_left]
    · rfl
  · have backward : count < 0 := by
      apply count_neg _ forward
      intro zero
      simp [zero] at stopped
    obtain ⟨positive, single⟩ := asUsize_neg backward
    have notForward : ¬0 ≤ count := fun forward => Int32.not_le.mpr backward forward
    rw [SameRange]
    simp only [slice, decide_eq_decide]
    generalize place : asUsize (max reference 1) = index
    rw [asUsize_max_one] at place
    have window : min index log.buffer.length - (min index log.buffer.length -
        min (asUsize (-count)) (min index log.buffer.length)) =
          min (asUsize (-count)) (min index log.buffer.length) := by
      omega
    have part := distinct.sublist ((take_sublist
      (min (asUsize (-count)) (min index log.buffer.length)) _).trans (drop_sublist
        (min index log.buffer.length - min (asUsize (-count)) (min index log.buffer.length)) _))
    rw [window, eq_reverse_iff part, length_take, length_drop, PositionSound, ← single,
      or_iff_right notForward]
    omega

section

variable {log : TrendLog}

theorem Gapless.numbers (gapless : log.Gapless) : ∃ first, first < 2 ^ 64 ∧
    ∀ index (inside : index < log.buffer.length),
      log.buffer[index].sequenceNumber.toNat = (first + index) % 2 ^ 64 := by
  obtain ⟨first, numbered, _⟩ := gapless
  refine ⟨first.toNat, first.toNat_lt, ?_⟩
  intro index inside
  rw [numbered.getElem inside, iterate_add_one, UInt64.toNat_add, toNat_ofNat']
  omega

theorem Gapless.nodup (gapless : log.Gapless) (short : log.buffer.length < 2 ^ 64) :
    log.buffer.Nodup := by
  obtain ⟨first, _, numbers⟩ := gapless.numbers
  rw [Nodup, pairwise_iff_getElem]
  intro earlier later inside within before same
  have left := numbers earlier inside
  have right := numbers later within
  rw [same, right] at left
  omega

/-- The reference is 0, the numbers are indices, or no record is asked for. -/
def ForwardSound (log : TrendLog) (reference : UInt64) : Prop :=
  reference = 0 ∨ (∃ record, log.buffer.head? = some record ∧ record.sequenceNumber = 0) ∨
    ∀ record ∈ log.buffer, record.sequenceNumber < reference

theorem unwrapped_below {first reference count : Nat} (small : first < 2 ^ 64)
    (bound : reference < 2 ^ 64) (below : ∀ index < count, (first + index) % 2 ^ 64 < reference) :
    ∀ index < count, first + index < reference := by
  intro index inside
  induction index with
  | zero =>
    have here := below 0 inside
    omega
  | succ index ih =>
    have here := below (index + 1) inside
    omega

variable {reference : UInt64} {Record : Type} (records : List Record)

theorem ForwardSound.numbers (sound : log.ForwardSound reference) (gapless : log.Gapless)
    (short : log.buffer.length < 2 ^ 64) {index : Nat} (inside : index < log.buffer.length) :
    reference ≤ log.buffer[index].sequenceNumber ↔ reference.toNat ≤ index := by
  obtain ⟨first, small, numbers⟩ := gapless.numbers
  rw [le_iff_toNat_le, numbers index inside]
  rcases sound with zero | ⟨record, head, zero⟩ | below
  · simp [zero]
  · have start := numbers 0 (by omega)
    rw [List.head?_eq_getElem?, List.getElem?_eq_getElem (by omega)] at head
    rw [Option.some.inj head, zero] at start
    have origin : (0 : UInt64).toNat = 0 := rfl
    omega
  · have all : ∀ other < log.buffer.length, (first + other) % 2 ^ 64 < reference.toNat := by
      intro other within
      rw [← numbers other within]
      exact lt_iff_toNat_lt.mp (below _ (getElem_mem within))
    have here := unwrapped_below small reference.toNat_lt all index inside
    omega

theorem forward_window (reference count : Nat) :
    slice records (min reference records.length) (min reference records.length +
        min count (records.length - min reference records.length)) =
      (records.drop reference).take count ∧
    (min reference records.length + min count (records.length - min reference records.length) <
        records.length ↔
      ((records.drop reference).take count).length < (records.drop reference).length) := by
  rw [slice, Nat.add_sub_cancel_left, length_take, length_drop]
  constructor
  · rcases Nat.le_total reference records.length with inside | outside
    · rw [Nat.min_eq_left inside, ← length_drop, ← take_eq_take_min]
    · rw [Nat.min_eq_right outside, drop_length, drop_eq_nil_of_le outside, take_nil, take_nil]
  · omega

theorem backward_window (reference count : Nat) :
    slice records (min (min reference records.length) records.length -
        min count (min (min reference records.length) records.length))
        (min (min reference records.length) records.length) =
      lastOf count (records.take reference) ∧
    (0 < min (min reference records.length) records.length -
        min count (min (min reference records.length) records.length) ↔
      count < (records.take reference).length) := by
  rw [slice, lastOf, length_take, drop_take]
  constructor
  · rcases Nat.le_total reference records.length with inside | outside
    · congr 2 <;> omega
    · rw [take_of_length_le, take_of_length_le]
      · congr 1; omega
      · rw [length_drop]; omega
      · rw [length_drop]; omega
  · omega

theorem forward_agrees_iff (gapless : log.Gapless) (short : log.buffer.length < 2 ^ 64)
    (reference : UInt64) {count : Nat} (positive : 0 < count) :
    ((log.buffer.drop reference.toNat).take count =
        (log.buffer.filter (reference ≤ ·.sequenceNumber)).take count ∧
      (((log.buffer.drop reference.toNat).take count).length <
          (log.buffer.drop reference.toNat).length ↔
        ((log.buffer.filter (reference ≤ ·.sequenceNumber)).take count).length <
          (log.buffer.filter (reference ≤ ·.sequenceNumber)).length)) ↔
      log.ForwardSound reference := by
  constructor
  · rintro ⟨same, _⟩
    by_cases past : ∀ record ∈ log.buffer, record.sequenceNumber < reference
    · exact .inr (.inr past)
    · push Not at past
      obtain ⟨record, member, later⟩ := past
      have heads := congrArg head? same
      rw [List.head?_take, List.head?_take, if_neg (by omega), if_neg (by omega),
        List.head?_drop] at heads
      have within : reference.toNat < log.buffer.length := by
        by_contra outside
        rw [List.getElem?_eq_none (by omega), eq_comm, List.head?_eq_none_iff,
          filter_eq_nil_iff] at heads
        exact heads record member (by simpa using later)
      rw [List.getElem?_eq_getElem within, eq_comm] at heads
      obtain ⟨first, small, numbers⟩ := gapless.numbers
      have below : ∀ index < reference.toNat, (first + index) % 2 ^ 64 < reference.toNat := by
        intro index early
        have dropped := not_keep_of_head?_filter (gapless.nodup short) within heads early
        rw [decide_eq_true_eq, UInt64.not_le, lt_iff_toNat_lt, numbers] at dropped
        exact dropped
      have unwrapped := unwrapped_below small reference.toNat_lt below
      by_cases zero : reference.toNat = 0
      · exact .inl (UInt64.toNat_inj.mp zero)
      · have last := unwrapped (reference.toNat - 1) (by omega)
        have start := numbers 0 (by omega)
        refine .inr (.inl ⟨_, (List.head?_eq_getElem? ..).trans (List.getElem?_eq_getElem (by omega)), ?_⟩)
        apply UInt64.toNat_inj.mp
        rw [start]
        have origin : (0 : UInt64).toNat = 0 := rfl
        omega
  · intro sound
    have same : log.buffer.filter (reference ≤ ·.sequenceNumber) =
        log.buffer.drop reference.toNat := by
      apply filter_eq_drop
      intro index inside
      rw [decide_eq_true_eq]
      exact sound.numbers gapless short inside
    rw [same]
    exact ⟨rfl, Iff.rfl⟩

/-- The numbers up to the reference are at the indices before it, or the counter has wrapped. -/
def BackwardSound (log : TrendLog) (reference : UInt64) (count : Nat) : Prop :=
  (∀ index (inside : index < log.buffer.length),
      log.buffer[index].sequenceNumber ≤ reference ↔ index < reference.toNat) ∨
    log.buffer.length ≤ reference.toNat ∧ count < log.buffer.length ∧
      (∀ record ∈ lastOf count log.buffer, record.sequenceNumber ≤ reference) ∧
      ∃ record ∈ log.buffer.take (log.buffer.length - count), record.sequenceNumber ≤ reference

theorem last_agree_of_backwardSound {count : Nat} (sound : log.BackwardSound reference count) :
    lastOf count (log.buffer.take reference.toNat) =
        lastOf count (log.buffer.filter (·.sequenceNumber ≤ reference)) ∧
      (count < (log.buffer.take reference.toNat).length ↔
        count < (log.buffer.filter (·.sequenceNumber ≤ reference)).length) := by
  rcases sound with indices | ⟨outside, more, last, record, early, small⟩
  · have same : log.buffer.filter (·.sequenceNumber ≤ reference) =
        log.buffer.take reference.toNat := by
      apply filter_eq_take
      intro index inside
      rw [decide_eq_true_eq]
      exact indices index inside
    rw [same]
    exact ⟨rfl, Iff.rfl⟩
  · have fits : (lastOf count log.buffer).length = count := by
      rw [lastOf, length_drop]
      omega
    have split : log.buffer = log.buffer.take (log.buffer.length - count) ++
        lastOf count log.buffer := (take_append_drop ..).symm
    have kept : log.buffer.filter (·.sequenceNumber ≤ reference) =
        (log.buffer.take (log.buffer.length - count)).filter (·.sequenceNumber ≤ reference) ++
          lastOf count log.buffer := by
      have whole : (lastOf count log.buffer).filter (·.sequenceNumber ≤ reference) =
          lastOf count log.buffer := filter_eq_self.mpr (by simpa using last)
      conv => lhs; rw [split, filter_append, whole]
    have front : record ∈ (log.buffer.take (log.buffer.length - count)).filter
        (·.sequenceNumber ≤ reference) := mem_filter.mpr ⟨early, by simpa using small⟩
    have present := length_pos_of_mem front
    rw [kept, lastOf_append _ fits, take_of_length_le outside, length_append, fits]
    exact ⟨rfl, iff_of_true more (by omega)⟩

theorem backwardSound_of_last_agree (gapless : log.Gapless) (short : log.buffer.length < 2 ^ 64)
    {reference : UInt64} {count : Nat} (positive : 0 < count)
    (same : lastOf count (log.buffer.take reference.toNat) =
      lastOf count (log.buffer.filter (·.sequenceNumber ≤ reference)))
    (more : count < (log.buffer.take reference.toNat).length ↔
      count < (log.buffer.filter (·.sequenceNumber ≤ reference)).length) :
    log.BackwardSound reference count := by
  have distinct := gapless.nodup short
  by_cases all : (log.buffer.take reference.toNat).length ≤ count
  · -- both selections are whole
    rw [lastOf_eq_self all, lastOf_eq_self (by omega)] at same
    left
    intro index inside
    rw [← getElem_mem_take_iff distinct inside, same, mem_filter, decide_eq_true_eq]
    exact (and_iff_right (getElem_mem inside)).symm
  · have further := more.mp (by omega)
    rw [length_take] at all
    rcases Nat.lt_or_ge reference.toNat log.buffer.length with within | outside
    · -- the record before the index is the last one kept, so the first number is 1
      have ends := congrArg getLast? same
      rw [getLast?_lastOf positive, getLast?_lastOf positive, getLast?_take,
        if_neg (by omega), List.getElem?_eq_getElem (by omega), Option.some_or, eq_comm] at ends
      have front : log.buffer[reference.toNat - 1] ∈ log.buffer.take reference.toNat :=
        (getElem_mem_take_iff distinct _).mpr (by omega)
      have dropped := not_keep_of_getLast?_filter distinct front ends within (Nat.le_refl _)
      have kept := (mem_filter.mp (mem_of_getLast? ends)).2
      obtain ⟨first, small, numbers⟩ := gapless.numbers
      rw [decide_eq_true_eq, le_iff_toNat_le, numbers] at dropped kept
      left
      intro index inside
      rw [le_iff_toNat_le, numbers index inside]
      omega
    · right
      rw [take_of_length_le outside] at same
      have last : ∀ record ∈ lastOf count log.buffer, record.sequenceNumber ≤ reference := by
        intro record member
        rw [same] at member
        have kept := (mem_filter.mp (mem_of_mem_drop member)).2
        simpa using kept
      refine ⟨outside, by omega, last, ?_⟩
      by_contra none
      push Not at none
      have dropped : (log.buffer.take (log.buffer.length - count)).filter
          (·.sequenceNumber ≤ reference) = [] := by
        rw [filter_eq_nil_iff]
        intro record early
        simpa using none record early
      rw [← take_append_drop (log.buffer.length - count) log.buffer, filter_append, dropped,
        nil_append] at further
      have bound := length_filter_le (fun record => decide (record.sequenceNumber ≤ reference))
        (log.buffer.drop (log.buffer.length - count))
      rw [length_drop] at bound
      omega

/-- When the index at which the handler looks is where the reference's records are. -/
def SequenceSound (log : TrendLog) (reference : UInt64) (count : Int32) : Prop :=
  count = 0 ∨ 0 < count ∧ log.ForwardSound reference ∨
    count < 0 ∧ log.BackwardSound reference (asUsize (-count))

theorem sequenceSound_of_empty (empty : log.buffer = []) (reference : UInt64) (count : Int32) :
    log.SequenceSound reference count := by
  by_cases zero : count = 0
  · exact .inl zero
  · by_cases forward : 0 < count
    · exact .inr (.inl ⟨forward, .inr (.inr (by simp [empty]))⟩)
    · exact .inr (.inr ⟨count_neg zero forward, .inl (by simp [empty])⟩)

theorem sequence_agrees_iff (gapless : log.Gapless) (short : log.buffer.length < 2 ^ 64)
    (reference : UInt64) (count : Int32) :
    SameRange (log.selected (.bySequenceNumber reference count))
        (log.readRangeBySequence reference count) ↔
      log.SequenceSound reference count := by
  have empty : (log.buffer.length == 0) = log.buffer.isEmpty := by
    cases log.buffer <;> rfl
  simp only [selected, applyRange, readRangeBySequence, readMatching, empty]
  split_ifs with stopped forward
  · apply iff_of_true ⟨rfl, rfl⟩
    rw [Bool.or_eq_true, List.isEmpty_iff, beq_iff_eq] at stopped
    rcases stopped with none | zero
    · exact sequenceSound_of_empty none reference count
    · exact .inl zero
  · obtain ⟨items, more⟩ := forward_window log.buffer reference.toNat (asUsize count)
    have nonzero : ¬count = 0 := by
      intro zero
      simp [zero] at stopped
    have notBackward : ¬count < 0 := fun backward => Int32.lt_asymm forward backward
    simp only [SameRange, decide_eq_decide]
    rw [items, more, forward_agrees_iff gapless short reference (asUsize_pos forward),
      SequenceSound,
      or_iff_right nonzero, and_iff_right forward]
    exact (or_iff_left (fun sound => notBackward sound.1)).symm
  · have nonzero : ¬count = 0 := by
      intro zero
      simp [zero] at stopped
    have backward := count_neg nonzero forward
    obtain ⟨items, more⟩ := backward_window log.buffer reference.toNat (asUsize (-count))
    have taken (matching : List LogRecord) :
        matching.drop (matching.length - min (asUsize (-count)) matching.length) =
            lastOf (asUsize (-count)) matching ∧
          (0 < matching.length - min (asUsize (-count)) matching.length ↔
            asUsize (-count) < matching.length) := by
      rw [lastOf]
      constructor
      · congr 1
        omega
      · omega
    simp only [SameRange, decide_eq_decide]
    rw [items, more, (taken _).1, (taken _).2, SequenceSound, or_iff_right nonzero,
      or_iff_right (fun sound => forward sound.1), and_iff_right backward]
    constructor
    · rintro ⟨same, further⟩
      exact backwardSound_of_last_agree gapless short (asUsize_neg backward).1 same further
    · exact last_agree_of_backwardSound

end

section

variable (instanceNumber : UInt32) (name : String) (bufferSize : UInt64) (calls : List Call)

theorem after_length_lt : (after instanceNumber name bufferSize calls).buffer.length < 2 ^ 64 := by
  have length := after_length instanceNumber name bufferSize calls
  have size := bufferSize.toNat_lt
  omega

/-- The handler selects what the log selects, for every time, and for a position or a sequence
number exactly under the conditions above. -/
theorem wire_range_agrees_iff :
    (∀ range, (after instanceNumber name bufferSize calls).handledRange range =
      some (((after instanceNumber name bufferSize calls).selected range).1.map LogRecord.toValue,
        ((after instanceNumber name bufferSize calls).selected range).2)) ∧
    let log := after instanceNumber name bufferSize calls
    (∀ reference count, SameRange (log.selected (.byPosition reference count))
          (log.readRangeByPosition reference count) ↔
        PositionSound log.buffer.length reference count) ∧
    (∀ reference count, SameRange (log.selected (.bySequenceNumber reference count))
          (log.readRangeBySequence reference count) ↔
        log.SequenceSound reference count) ∧
    ∀ date time count,
      SameRange (log.selected (.byTime date time count)) (log.readRangeByTime ⟨date, time⟩ count) := by
  refine ⟨handledRange_eq _, ?_⟩
  intro log
  have gapless : log.Gapless := after_gapless instanceNumber name bufferSize calls
  have short : log.buffer.length < 2 ^ 64 :=
    after_length_lt instanceNumber name bufferSize calls
  refine ⟨?_, ?_, time_agrees log⟩
  · exact position_agrees_iff (gapless.nodup short)
  · exact sequence_agrees_iff gapless short

/-- A buffer of two that has evicted record 0: asked for one record from number 1 on, the handler
returns number 2. -/
theorem wire_range_differs : let midnight : LogTimestamp := ⟨⟨126, 2, 14, 255⟩, ⟨0, 0, 0, 0⟩⟩
    let log := after 1 "log" 2 [.setEnabled true,
      .addRecordWithTimestamp (.unsignedValue 7) midnight,
      .addRecordWithTimestamp (.unsignedValue 8) midnight,
      .addRecordWithTimestamp (.unsignedValue 9) midnight]
    log.selected (.bySequenceNumber 1 1) = ([⟨midnight, .unsignedValue 9, 0, 2⟩], 1, false) ∧
      log.readRangeBySequence 1 1 = ([⟨midnight, .unsignedValue 8, 0, 1⟩], 1, true) ∧
      log.selected (.byPosition 2 (-1)) = ([⟨midnight, .unsignedValue 9, 0, 2⟩], 1, true) ∧
      log.readRangeByPosition 2 (-1) = ([⟨midnight, .unsignedValue 9, 0, 2⟩], 1, false) :=
  ⟨rfl, rfl, rfl, rfl⟩

end

end TrendLog

end Mabinogion.Bacnet
