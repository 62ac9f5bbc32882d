import Mabinogion.Bacnet.TrendLog
import Mabinogion.Library.Numbering
import Mathlib.Data.UInt

/-!
# The buffer of a trend log

A call takes a record, purges, or leaves the buffer alone. So the buffer holds the newest
records accepted since the last purge, numbered without a gap.
-/

namespace Mabinogion.Bacnet.TrendLog

open Numbering Transducer UInt64

variable (log : TrendLog) (call : Call)

section

section

variable (log : TrendLog)

def accepts : Bool := log.enabled && (!log.isFull || !log.stopWhenFull)

def acceptedBy : Call → Option LogRecord
  | .addRecordWithTimestamp datum timestamp =>
    if log.accepts then some (log.nextRecord datum timestamp 0) else none
  | .addRecordWithStatus datum timestamp statusFlags =>
    if log.accepts then some (log.nextRecord datum timestamp statusFlags) else none
  | _ => none

/-- Zero written to the record count purges the buffer too. -/
def Call.purges : Call → Bool
  | .purge => true
  | .writeProperty .recordCount value => value.asUnsigned == some 0
  | _ => false

def kept : List LogRecord :=
  if log.isFull then log.buffer.tail else log.buffer

end

inductive Effect (log : TrendLog) (call : Call) (after : TrendLog) : Prop where
  | takes (record : LogRecord) (accepted : log.acceptedBy call = some record)
      (accepting : log.accepts = true) (numbered : record.sequenceNumber = log.totalRecordCount)
      (stays : call.purges = false) (buffer : after.buffer = log.kept ++ [record])
      (total : after.totalRecordCount = log.totalRecordCount + 1)
  | purges (ignored : log.acceptedBy call = none) (purging : call.purges = true)
      (buffer : after.buffer = []) (total : after.totalRecordCount = log.totalRecordCount)
  | keeps (ignored : log.acceptedBy call = none) (stays : call.purges = false)
      (buffer : after.buffer = log.buffer)
      (total : after.totalRecordCount = log.totalRecordCount)

variable (datum : LogDatum) (timestamp : LogTimestamp) (statusFlags : UInt8)

theorem addRecordWithStatus_accepts (accepting : log.accepts = true) :
    log.addRecordWithStatus datum timestamp statusFlags =
      log.store log.kept (log.nextRecord datum timestamp statusFlags) := by
  unfold accepts at accepting
  unfold addRecordWithStatus kept
  cases enabled : log.enabled <;> cases full : log.isFull <;> cases stop : log.stopWhenFull <;>
    simp_all

theorem addRecordWithStatus_ignores (ignoring : log.accepts = false) :
    log.addRecordWithStatus datum timestamp statusFlags = log := by
  unfold accepts at ignoring
  unfold addRecordWithStatus
  cases enabled : log.enabled <;> cases full : log.isFull <;> cases stop : log.stopWhenFull <;>
    simp_all

theorem add_effect (stays : call.purges = false) (adds : log.acceptedBy call =
      if log.accepts then some (log.nextRecord datum timestamp statusFlags) else none) :
    Effect log call (log.addRecordWithStatus datum timestamp statusFlags) := by
  cases accepting : log.accepts with
  | true =>
    rw [addRecordWithStatus_accepts log datum timestamp statusFlags accepting]
    exact .takes _ (by rw [adds, accepting]; rfl) accepting rfl stays rfl rfl
  | false =>
    rw [addRecordWithStatus_ignores log datum timestamp statusFlags accepting]
    exact .keeps (by rw [adds, accepting]; rfl) stays rfl rfl

theorem writeProperty_effect (propertyId : PropertyId) (value : BACnetValue) :
    Effect log (.writeProperty propertyId value) (log.writeProperty propertyId value).2 := by
  fun_cases writeProperty log propertyId value with
  | case12 zero => exact .purges rfl (by simp [Call.purges, zero]) rfl rfl
  | case13 count isCount positive =>
    exact .keeps rfl (by simp [Call.purges, isCount, positive]) rfl rfl
  | case14 isCount => exact .keeps rfl (by simp [Call.purges, isCount]) rfl rfl
  | case16 => exact .keeps rfl (by simp_all [Call.purges]) rfl rfl
  | _ => exact .keeps rfl rfl rfl rfl

theorem step_effect : Effect log call (log.step call).2 := by
  cases call with
  | setEnabled | resetNotificationCounter => exact .keeps rfl rfl rfl rfl
  | addRecordWithTimestamp datum timestamp =>
    exact add_effect log _ datum timestamp 0 rfl rfl
  | addRecordWithStatus datum timestamp statusFlags =>
    exact add_effect log _ datum timestamp statusFlags rfl rfl
  | purge => exact .purges rfl rfl rfl rfl
  | writeProperty propertyId value => exact writeProperty_effect log propertyId value

end

theorem step_bufferSize : (log.step call).2.bufferSize = log.bufferSize := by
  have adds (datum : LogDatum) (timestamp : LogTimestamp) (statusFlags : UInt8) :
      (log.addRecordWithStatus datum timestamp statusFlags).bufferSize = log.bufferSize := by
    unfold addRecordWithStatus
    split_ifs <;> rfl
  cases call with
  | addRecordWithTimestamp datum timestamp => exact adds datum timestamp 0
  | addRecordWithStatus datum timestamp statusFlags => exact adds datum timestamp statusFlags
  | writeProperty propertyId value =>
    show (log.writeProperty propertyId value).2.bufferSize = log.bufferSize
    fun_cases writeProperty log propertyId value <;> rfl
  | _ => rfl

theorem kept_length (bounded : log.buffer.length ≤ max log.bufferSize.toNat 1) :
    log.kept.length + 1 ≤ max log.bufferSize.toNat 1 := by
  unfold kept isFull
  split_ifs with full
  · rw [List.length_tail]
    omega
  · simp only [decide_eq_true_eq, not_le] at full
    omega

theorem kept_suffix : log.kept <:+ log.buffer := by
  unfold kept
  split_ifs
  · exact List.tail_suffix log.buffer
  · exact List.suffix_rfl

theorem kept_of_stopWhenFull (stops : log.stopWhenFull = true) (accepting : log.accepts = true) :
    log.kept = log.buffer := by
  have room : log.isFull = false := by
    unfold accepts at accepting
    rw [stops, Bool.not_true, Bool.or_false, Bool.and_eq_true, Bool.not_eq_true'] at accepting
    exact accepting.2
  rw [kept, room]
  rfl

/-- A log of size 0 still takes one record. -/
theorem step_length (bounded : log.buffer.length ≤ max log.bufferSize.toNat 1) :
    (log.step call).2.buffer.length ≤ max (log.step call).2.bufferSize.toNat 1 := by
  rw [step_bufferSize]
  cases step_effect log call with
  | takes record accepted accepting numbered stays buffer =>
    rw [buffer, List.length_append]
    exact kept_length log bounded
  | purges ignored purging buffer =>
    rw [buffer]
    exact Nat.zero_le _
  | keeps ignored stays buffer =>
    rw [buffer]
    exact bounded

/-- The records are numbered without a gap, up to the counter. -/
abbrev Gapless (log : TrendLog) : Prop :=
  Counted LogRecord.sequenceNumber (· + 1) log.buffer log.totalRecordCount

theorem step_gapless (gapless : log.Gapless) : (log.step call).2.Gapless := by
  cases step_effect log call with
  | takes record accepted accepting numbered stays buffer total =>
    have keptGapless : Counted LogRecord.sequenceNumber (· + 1) log.kept log.totalRecordCount := by
      unfold kept
      split_ifs
      · exact gapless.tail
      · exact gapless
    rw [Gapless, buffer, total]
    exact keptGapless.concat numbered
  | purges ignored purging buffer =>
    rw [Gapless, buffer]
    exact counted_nil _
  | keeps ignored stays buffer total =>
    rw [Gapless, buffer, total]
    exact gapless

theorem step_keeps_buffer (stops : log.stopWhenFull = true) (stays : call.purges = false) :
    log.buffer <+: (log.step call).2.buffer := by
  cases step_effect log call with
  | takes record accepted accepting numbered stays buffer =>
    rw [buffer, kept_of_stopWhenFull log stops accepting]
    exact List.prefix_append _ _
  | purges ignored purging =>
    rw [stays] at purging
    cases purging
  | keeps ignored stays buffer =>
    rw [buffer]

/-- The records accepted since the last purge, and the number of all ever accepted. -/
structure History where
  log : TrendLog
  sincePurge : List LogRecord
  acceptedCount : Nat

def History.begin (log : TrendLog) : History := ⟨log, [], 0⟩

def History.step (history : History) (call : Call) : WriteResult History :=
  let accepted := (history.log.acceptedBy call).toList
  let answer := history.log.step call
  (answer.1,
    { log := answer.2
      sincePurge := if call.purges then [] else history.sincePurge ++ accepted
      acceptedCount := history.acceptedCount + accepted.length })

structure History.Consistent (history : History) : Prop where
  suffix : history.log.buffer <:+ history.sincePurge
  atMost : history.sincePurge.length ≤ history.acceptedCount
  counter : history.log.totalRecordCount = UInt64.ofNat history.acceptedCount

theorem History.step_consistent (history : History) (call : Call)
    (consistent : history.Consistent) : (history.step call).2.Consistent := by
  cases step_effect history.log call with
  | takes record accepted accepting numbered stays buffer total =>
    constructor
    · simp only [step, stays, accepted, buffer]
      exact List.suffix_append_self_iff.mpr ((kept_suffix history.log).trans consistent.suffix)
    · have atMost := consistent.atMost
      simp only [step, stays, accepted]
      simpa using atMost
    · simp only [step, accepted, total, consistent.counter]
      simp
  | purges ignored purging buffer total =>
    constructor
    · simp only [step, purging, buffer]
      exact List.suffix_rfl
    · simp [step, purging]
    · simp [step, ignored, total, consistent.counter]
  | keeps ignored stays buffer total =>
    constructor
    · simp only [step, stays, ignored, buffer]
      simpa using consistent.suffix
    · have atMost := consistent.atMost
      simpa [step, stays, ignored] using atMost
    · simp [step, ignored, total, consistent.counter]

section

variable (instanceNumber : UInt32) (name : String) (bufferSize : UInt64) (calls : List Call)

def after : TrendLog := final step (new instanceNumber name bufferSize) calls

theorem after_bufferSize :
    (after instanceNumber name bufferSize calls).bufferSize = bufferSize := by
  have preserved (log : TrendLog) (call : Call) (same : log.bufferSize = bufferSize) :
      (log.step call).2.bufferSize = bufferSize :=
    (step_bufferSize log call).trans same
  exact final_invariant step preserved _ calls rfl

theorem after_length :
    (after instanceNumber name bufferSize calls).buffer.length ≤ max bufferSize.toNat 1 := by
  have bounded := final_invariant step step_length (new instanceNumber name bufferSize) calls
    (Nat.zero_le _)
  have same := after_bufferSize instanceNumber name bufferSize calls
  rw [after] at same
  rw [same] at bounded
  exact bounded

theorem after_gapless : (after instanceNumber name bufferSize calls).Gapless :=
  final_invariant step step_gapless (new instanceNumber name bufferSize) calls (counted_nil _)

def history : History := final History.step (.begin (new instanceNumber name bufferSize)) calls

theorem history_log : (history instanceNumber name bufferSize calls).log =
      after instanceNumber name bufferSize calls :=
  final_project step (fun _ _ => rfl) _ calls

theorem history_consistent : (history instanceNumber name bufferSize calls).Consistent :=
  final_invariant History.step History.step_consistent _ calls ⟨List.suffix_rfl, le_rfl, rfl⟩

theorem iterate_add_one (first : UInt64) (count : Nat) :
    (· + 1)^[count] first = first + ofNat count := by
  induction count with
  | zero => simp
  | succ count ih =>
    rw [Function.iterate_succ_apply', ih, ofNat_add, UInt64.add_assoc]
    rfl

theorem sequenceNumbers_eq {count : Nat} (gapless : log.Gapless)
    (counter : log.totalRecordCount = ofNat count) (unwrapped : count < 2 ^ 64)
    (atMost : log.buffer.length ≤ count) :
    log.buffer.map (fun record => record.sequenceNumber.toNat) =
      List.range' (count - log.buffer.length) log.buffer.length := by
  obtain ⟨first, numbered, same⟩ := gapless
  rw [behind, iterate_add_one, counter] at same
  have start : first.toNat = count - log.buffer.length := by
    have sum := congrArg toNat same
    rw [UInt64.toNat_add, toNat_ofNat', toNat_ofNat'] at sum
    have below := first.toNat_lt
    omega
  apply List.ext_getElem
  · simp
  · intro index inside within
    have here : index < log.buffer.length := by simpa using inside
    rw [List.getElem_map, numbered.getElem here, iterate_add_one, List.getElem_range',
      UInt64.toNat_add,
      toNat_ofNat', start]
    omega

/-- The buffer holds the newest records accepted since the last purge, numbered up to the counter; a
log that stops when it is full evicts none. -/
theorem buffer_holds_newest_records (room : 0 < bufferSize) :
    (after instanceNumber name bufferSize calls).buffer.length ≤ bufferSize.toNat ∧
    let log := after instanceNumber name bufferSize calls
    let past := history instanceNumber name bufferSize calls
    (past.acceptedCount < 2 ^ 64 → log.buffer.map (fun record => record.sequenceNumber.toNat) =
          List.range' (log.totalRecordCount.toNat - log.buffer.length) log.buffer.length ∧
        ∀ record, log.buffer.getLast? = some record →
          record.sequenceNumber.toNat + 1 = log.totalRecordCount.toNat) ∧
    log.buffer <:+ past.sincePurge ∧
    ∀ call : Call, log.stopWhenFull = true → call.purges = false →
      log.buffer <+: (log.step call).2.buffer := by
  have bounded : (after instanceNumber name bufferSize calls).buffer.length ≤ bufferSize.toNat := by
    have positive : 0 < bufferSize.toNat := lt_iff_toNat_lt.mp room
    have length := after_length instanceNumber name bufferSize calls
    rw [max_eq_left positive] at length
    exact length
  refine ⟨bounded, ?_⟩
  intro log past
  have consistent := history_consistent instanceNumber name bufferSize calls
  have same : past.log = log := history_log instanceNumber name bufferSize calls
  have suffix : log.buffer <:+ past.sincePurge := by
    rw [← same]
    exact consistent.suffix
  have counter : log.totalRecordCount = ofNat past.acceptedCount := by
    rw [← same]
    exact consistent.counter
  have atMost : log.buffer.length ≤ past.acceptedCount :=
    suffix.length_le.trans consistent.atMost
  refine ⟨?_, suffix, fun call => step_keeps_buffer log call⟩
  intro unwrapped
  have total : log.totalRecordCount.toNat = past.acceptedCount := by
    rw [counter, toNat_ofNat', Nat.mod_eq_of_lt unwrapped]
  have numbers := sequenceNumbers_eq log
    (after_gapless instanceNumber name bufferSize calls) counter unwrapped atMost
  rw [total]
  refine ⟨numbers, ?_⟩
  intro record newest
  have last := congrArg List.getLast? numbers
  rw [List.getLast?_map, newest, List.getLast?_range'] at last
  have nonempty : log.buffer.length ≠ 0 := by
    intro empty
    rw [List.length_eq_zero_iff.mp empty] at newest
    cases newest
  rw [if_neg nonempty] at last
  have number : record.sequenceNumber.toNat =
      past.acceptedCount - log.buffer.length + log.buffer.length - 1 := Option.some.inj last
  omega

theorem newest_two_of_three_records :
    let midnight : LogTimestamp := ⟨⟨126, 2, 14, 255⟩, ⟨0, 0, 0, 0⟩⟩
    let calls : List Call := [.setEnabled true, .addRecordWithTimestamp (.unsignedValue 7) midnight,
      .addRecordWithStatus (.unsignedValue 8) midnight 1,
      .addRecordWithTimestamp (.unsignedValue 9) midnight]
    (after 1 "log" 2 calls).buffer = [⟨midnight, .unsignedValue 8, 1, 1⟩,
        ⟨midnight, .unsignedValue 9, 0, 2⟩] ∧
      (after 1 "log" 2 calls).buffer <:+ (history 1 "log" 2 calls).sincePurge := by
  intro midnight calls
  exact ⟨rfl, (buffer_holds_newest_records 1 "log" 2 calls (by decide)).2.2.1⟩

end

end Mabinogion.Bacnet.TrendLog
