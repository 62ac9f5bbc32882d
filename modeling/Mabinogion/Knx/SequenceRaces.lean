import Mabinogion.Library.Transducer
import Mabinogion.Knx.Sequence
import Mathlib.Logic.Function.Basic

/-!
# Races for the sequence numbers

The counters under any number of callers, whose loads and exchanges are interleaved. Each send
number is handed out once, and each advance of the receive number is made by one call. A call
that loses the race for its number also reports it as valid.
-/

namespace Mabinogion.Knx

open Transducer List Function
open Or (inl inr)

inductive Call where
  | nextSno
  | validateReceived (sequence : UInt8)

/-- A caller in front of its next atomic operation, with what it has loaded before. -/
inductive Pc where
  | idle
  | loadSno
  | exchangeSno (current : UInt8)
  | loadExpected (sequence : UInt8)
  | loadCurrent (sequence expected : UInt8)
  | exchangeRno (sequence expected current : UInt8)
deriving DecidableEq

variable {Caller : Type}

/-- `sent` and `advanced` are exchanges that succeeded. A call has `observed` its number in its
first load, and has `joined` if it then returns `Valid` without an exchange of its own. -/
inductive Event (Caller : Type) where
  | sent (caller : Caller) (value : UInt8)
  | observed (caller : Caller) (sequence : UInt8)
  | advanced (caller : Caller) (sequence : UInt8)
  | joined (caller : Caller) (sequence : UInt8)
  | refused (caller : Caller) (validation : ReceivedValidation)
deriving DecidableEq

namespace Event

def caller : Event Caller → Caller
  | sent caller _ | observed caller _ | advanced caller _ | joined caller _ | refused caller _ =>
    caller

def sentValue : Event Caller → Option UInt8
  | sent _ value => some value
  | _ => none

def advancedFrom : Event Caller → Option UInt8
  | advanced _ sequence => some sequence
  | _ => none

end Event

/-- The counters, where each caller stands, and what has happened, in order. -/
structure Counters (Caller : Type) where
  tracker : SequenceTracker
  pc : Caller → Pc
  log : List (Event Caller)

inductive Action (Caller : Type) where
  | call (caller : Caller) (call : Call)
  | proceed (caller : Caller)

namespace Counters

variable [DecidableEq Caller]

def start (tracker : SequenceTracker) : Counters Caller := ⟨tracker, fun _ => .idle, []⟩

variable (counters : Counters Caller) (caller : Caller)

/-- The step of a caller: it goes to another place, with what happens to the counters. -/
def goes (pc : Pc) (tracker : SequenceTracker) (event : Option (Event Caller)) : Counters Caller :=
  ⟨tracker, Function.update counters.pc caller pc, counters.log ++ event.toList⟩

def enter : Call → Counters Caller
  | .nextSno => counters.goes caller .loadSno counters.tracker none
  | .validateReceived sequence => counters.goes caller (.loadExpected sequence) counters.tracker none

/-- The next atomic operation of a caller, with the code up to the one behind it. -/
def operate : Counters Caller :=
  let tracker := counters.tracker
  match counters.pc caller with
  | .idle => counters
  | .loadSno => counters.goes caller (.exchangeSno tracker.sno) tracker none
  | .exchangeSno current =>
    if tracker.sno = current then
      counters.goes caller .idle { tracker with sno := current + 1 } (some (.sent caller current))
    else counters.goes caller .loadSno tracker none
  | .loadExpected sequence =>
    let expected := tracker.rno
    if sequence = expected then
      counters.goes caller (.loadCurrent sequence expected) tracker
        (some (.observed caller sequence))
    else
      counters.goes caller .idle tracker
        (some (.refused caller (tracker.validateReceived sequence).1))
  | .loadCurrent sequence expected =>
    let current := tracker.rno
    if current ≠ expected then counters.goes caller .idle tracker (some (.joined caller sequence))
    else counters.goes caller (.exchangeRno sequence expected current) tracker none
  | .exchangeRno sequence expected current =>
    if tracker.rno = current then
      counters.goes caller .idle { tracker with rno := expected + 1 }
        (some (.advanced caller sequence))
    else counters.goes caller (.loadCurrent sequence expected) tracker none

/-- A caller that is idle may begin a call. -/
def step : Action Caller → Unit × Counters Caller
  | .call caller call =>
    ((), if counters.pc caller = .idle then counters.enter caller call else counters)
  | .proceed caller => ((), counters.operate caller)

end Counters

def consecutive (first : UInt8) (count : Nat) : List UInt8 :=
  (List.range count).map fun index => first + UInt8.ofNat index

/-- Numbers that were handed out one after the other, up to the one that is next. -/
structure HandedOut (first : UInt8) (values : List UInt8) (next : UInt8) : Prop where
  inOrder : values = consecutive first values.length
  counted : next = first + UInt8.ofNat values.length

theorem HandedOut.nil (first : UInt8) : HandedOut first [] first :=
  ⟨rfl, (add_zero first).symm⟩

theorem HandedOut.next {first next : UInt8} {values : List UInt8}
    (handedOut : HandedOut first values next) : HandedOut first (values ++ [next]) (next + 1) := by
  constructor
  · rw [length_append, length_singleton, consecutive, range_succ, map_append,
      map_singleton, ← consecutive, ← handedOut.inOrder, ← handedOut.counted]
  · rw [length_append, length_singleton, UInt8.ofNat_add, ← add_assoc, ← handedOut.counted]
    rfl

section

/-- The counter still has the number that the call has found, or was advanced from it since. -/
def Observing (log : List (Event Caller)) (rno : UInt8) (caller : Caller) (sequence : UInt8) :
    Prop :=
  ∃ earlier during, log = earlier ++ .observed caller sequence :: during ∧
    (∀ event ∈ during, event.caller ≠ caller) ∧
      (rno = sequence ∨ ∃ other, .advanced other sequence ∈ during)

/-- Another call advanced the counter from the number during the call that has found it. -/
def LostRace (before : List (Event Caller)) (caller : Caller) (sequence : UInt8) : Prop :=
  ∃ earlier during, before = earlier ++ .observed caller sequence :: during ∧
    (∀ event ∈ during, event.caller ≠ caller) ∧ ∃ other, .advanced other sequence ∈ during

variable {log : List (Event Caller)} {rno : UInt8} {caller : Caller} {sequence : UInt8}

theorem Observing.lostRace (observing : Observing log rno caller sequence)
    (moved : rno ≠ sequence) : LostRace log caller sequence := by
  rcases observing with ⟨earlier, during, shape, others, still | advanced⟩
  · exact absurd still moved
  · exact ⟨earlier, during, shape, others, advanced⟩

theorem observing_here : Observing (log ++ [.observed caller rno]) rno caller rno := by
  refine ⟨log, [], rfl, ?_, inl rfl⟩
  intro event listed
  cases listed

theorem Observing.append (observing : Observing log rno caller sequence)
    {event : Option (Event Caller)} {next : UInt8} (other : ∀ item ∈ event, item.caller ≠ caller)
    (moved : next = rno ∨ ∃ advancer, event = some (.advanced advancer rno)) :
    Observing (log ++ event.toList) next caller sequence := by
  rcases observing with ⟨earlier, during, shape, others, known⟩
  refine ⟨earlier, during ++ event.toList, ?_, ?_, ?_⟩
  · rw [shape, append_assoc, cons_append]
  · intro item listed
    rcases mem_append.mp listed with old | new
    · exact others item old
    · exact other item (Option.mem_toList.mp new)
  · rcases known with still | ⟨advancer, advanced⟩
    · rcases moved with same | ⟨advancer, happens⟩
      · exact inl (same.trans still)
      · rw [happens, ← still]
        exact inr ⟨advancer, mem_append_right _ mem_cons_self⟩
    · exact inr ⟨advancer, mem_append_left _ advanced⟩

end

namespace Counters

variable (counters : Counters Caller)

def sentValues : List UInt8 :=
  counters.log.filterMap Event.sentValue

def advances : List UInt8 :=
  counters.log.filterMap Event.advancedFrom

/-- What holds of a caller in the part of `validate_received` behind its first load. -/
def PlaceOk (log : List (Event Caller)) (rno : UInt8) (caller : Caller) : Pc → Prop
  | .loadCurrent sequence expected =>
    expected = sequence ∧ Observing log rno caller sequence
  | .exchangeRno sequence expected current =>
    expected = sequence ∧ current = sequence ∧ Observing log rno caller sequence
  | _ => True

/-- The numbers are handed out one after the other, and a call that joins has lost a race. -/
structure Sound (first : SequenceTracker) (counters : Counters Caller) : Prop where
  sent : HandedOut first.sno counters.sentValues counters.tracker.sno
  received : HandedOut first.rno counters.advances counters.tracker.rno
  places : ∀ caller, PlaceOk counters.log counters.tracker.rno caller (counters.pc caller)
  joined : ∀ before caller sequence after,
    counters.log = before ++ .joined caller sequence :: after → LostRace before caller sequence

variable {first : SequenceTracker} {counters : Counters Caller}

theorem sound_start [DecidableEq Caller] (tracker : SequenceTracker) :
    Sound tracker (start tracker : Counters Caller) := by
  constructor
  · exact HandedOut.nil tracker.sno
  · exact HandedOut.nil tracker.rno
  · intro caller
    trivial
  · intro before caller sequence after shape
    have longer := congrArg length shape
    rw [length_append, length_cons] at longer
    cases longer

theorem split_log {Item : Type} {log before after : List Item} {item : Item} {event : Option Item}
    (shape : log ++ event.toList = before ++ item :: after) :
    (event = some item ∧ before = log) ∨ ∃ rest, log = before ++ item :: rest := by
  cases event with
  | none => exact inr ⟨after, (append_nil log).symm.trans shape⟩
  | some =>
    rcases eq_nil_or_concat after with none | ⟨rest, final, ends⟩
    · rw [none] at shape
      rcases append_inj' shape rfl with ⟨same, here⟩
      exact inl ⟨congrArg some (cons.inj here).1, same.symm⟩
    · rw [ends, concat_eq_append, ← cons_append, ← append_assoc] at shape
      exact inr ⟨rest, (append_inj' shape rfl).1⟩

variable [DecidableEq Caller] {caller : Caller} {pc : Pc} {tracker : SequenceTracker}
  {event : Option (Event Caller)}

theorem Sound.goes (sound : Sound first counters) (own : ∀ item ∈ event, item.caller = caller)
    (sent : HandedOut first.sno (counters.goes caller pc tracker event).sentValues tracker.sno)
    (received : HandedOut first.rno (counters.goes caller pc tracker event).advances tracker.rno)
    (moved : tracker.rno = counters.tracker.rno ∨
      ∃ advancer, event = some (.advanced advancer counters.tracker.rno))
    (place : PlaceOk (counters.log ++ event.toList) tracker.rno caller pc)
    (joined : ∀ joiner sequence, event = some (.joined joiner sequence) →
      LostRace counters.log joiner sequence) :
    Sound first (counters.goes caller pc tracker event) := by
  refine ⟨sent, received, ?_, ?_⟩
  · intro other
    by_cases self : other = caller
    · rw [self]
      show PlaceOk _ _ caller (update counters.pc caller pc caller)
      rw [update_self]
      exact place
    · show PlaceOk _ _ other (update counters.pc caller pc other)
      rw [update_of_ne self]
      have apart : ∀ item ∈ event, item.caller ≠ other := by
        intro item happens same
        exact self (same.symm.trans (own item happens))
      have known := sound.places other
      cases place : counters.pc other with
      | loadCurrent =>
        rw [place] at known
        exact ⟨known.1, known.2.append apart moved⟩
      | exchangeRno =>
        rw [place] at known
        exact ⟨known.1, known.2.1, known.2.2.append apart moved⟩
      | idle | loadSno | exchangeSno | loadExpected => trivial
  · intro before joiner sequence after shape
    rcases split_log shape with ⟨last, all⟩ | ⟨rest, earlier⟩
    · rw [all]
      exact joined joiner sequence last
    · exact sound.joined before joiner sequence rest earlier

theorem sentValues_goes : (counters.goes caller pc tracker event).sentValues =
    counters.sentValues ++ event.toList.filterMap Event.sentValue :=
  filterMap_append

theorem advances_goes : (counters.goes caller pc tracker event).advances =
    counters.advances ++ event.toList.filterMap Event.advancedFrom :=
  filterMap_append

section

variable (sound : Sound first counters)

include sound

theorem Sound.goes_silently (place : PlaceOk counters.log counters.tracker.rno caller pc) :
    Sound first (counters.goes caller pc counters.tracker none) := by
  apply sound.goes
  · intro item happens
    cases happens
  · rw [sentValues_goes]
    exact (append_nil counters.sentValues).symm ▸ sound.sent
  · rw [advances_goes]
    exact (append_nil counters.advances).symm ▸ sound.received
  · exact inl rfl
  · rw [Option.toList_none, append_nil]
    exact place
  · intro joiner sequence happens
    cases happens

theorem Sound.goes_quietly {item : Event Caller}
    (own : item.caller = caller) (unsent : item.sentValue = none)
    (unmoved : item.advancedFrom = none)
    (place : PlaceOk (counters.log ++ [item]) counters.tracker.rno caller pc)
    (joined : ∀ joiner sequence, item = .joined joiner sequence →
      LostRace counters.log joiner sequence) :
    Sound first (counters.goes caller pc counters.tracker (some item)) := by
  apply sound.goes
  · intro other happens
    rw [← Option.some.inj happens]
    exact own
  · rw [sentValues_goes, Option.toList_some, filterMap_cons_none unsent, filterMap_nil, append_nil]
    exact sound.sent
  · rw [advances_goes, Option.toList_some, filterMap_cons_none unmoved, filterMap_nil, append_nil]
    exact sound.received
  · exact inl rfl
  · exact place
  · intro joiner sequence happens
    exact joined joiner sequence (Option.some.inj happens)

theorem Sound.enter (call : Call) : Sound first (counters.enter caller call) := by
  cases call with
  | nextSno | validateReceived => exact sound.goes_silently trivial

theorem Sound.send : Sound first (counters.goes caller .idle
      { counters.tracker with sno := counters.tracker.sno + 1 }
      (some (.sent caller counters.tracker.sno))) := by
  apply sound.goes
  · intro item happens
    rw [← Option.some.inj happens]
    rfl
  · rw [sentValues_goes]
    exact sound.sent.next
  · rw [advances_goes]
    exact (append_nil counters.advances).symm ▸ sound.received
  · exact inl rfl
  · trivial
  · intro joiner sequence happens
    cases happens

theorem Sound.advance : Sound first (counters.goes caller .idle
      { counters.tracker with rno := counters.tracker.rno + 1 }
      (some (.advanced caller counters.tracker.rno))) := by
  apply sound.goes
  · intro item happens
    rw [← Option.some.inj happens]
    rfl
  · rw [sentValues_goes]
    exact (append_nil counters.sentValues).symm ▸ sound.sent
  · rw [advances_goes]
    exact sound.received.next
  · exact inr ⟨caller, rfl⟩
  · trivial
  · intro joiner sequence happens
    cases happens

theorem Sound.operate (caller : Caller) : Sound first (counters.operate caller) := by
  have known := sound.places caller
  simp only [Counters.operate]
  cases place : counters.pc caller with
  | idle => exact sound
  | loadSno => exact sound.goes_silently trivial
  | exchangeSno =>
    dsimp only
    split_ifs with same
    · rw [← same]
      exact sound.send
    · exact sound.goes_silently trivial
  | loadExpected =>
    dsimp only
    split_ifs with found
    · rw [found]
      refine sound.goes_quietly rfl rfl rfl ⟨rfl, observing_here⟩ ?_
      intro joiner number joins
      cases joins
    · refine sound.goes_quietly rfl rfl rfl trivial ?_
      intro joiner number joins
      cases joins
  | loadCurrent =>
    rw [place] at known
    rcases known with ⟨same, observing⟩
    dsimp only
    split_ifs with moved
    · refine sound.goes_quietly rfl rfl rfl trivial ?_
      intro joiner number joins
      injection joins with sameCaller sameNumber
      rw [← sameCaller, ← sameNumber]
      exact observing.lostRace (same ▸ moved)
    · apply sound.goes_silently
      exact ⟨same, (not_not.mp moved).trans same, observing⟩
  | exchangeRno =>
    rw [place] at known
    rcases known with ⟨sameExpected, sameCurrent, observing⟩
    dsimp only
    split_ifs with still
    · rw [sameExpected, ← sameCurrent, ← still]
      exact sound.advance
    · apply sound.goes_silently
      exact ⟨sameExpected, observing⟩

theorem Sound.step (action : Action Caller) : Sound first (counters.step action).2 := by
  cases action with
  | call caller call =>
    show Sound first (if counters.pc caller = .idle then counters.enter caller call else counters)
    split_ifs
    · exact sound.enter call
    · exact sound
  | proceed caller => exact sound.operate caller

end

/-- The send numbers are returned one after the other, the receive number advances one by one, each
time by one call, and a call that returns `Valid` without advancing it has lost the race. -/
theorem numbers_handed_out_once (tracker : SequenceTracker) (actions : List (Action Caller)) :
    let ended := final step (start tracker) actions
    HandedOut tracker.sno ended.sentValues ended.tracker.sno ∧
      HandedOut tracker.rno ended.advances ended.tracker.rno ∧
      ∀ before caller sequence after, ended.log = before ++ .joined caller sequence :: after →
          LostRace before caller sequence := by
  have sound : Sound tracker (final step (start tracker) actions) := by
    apply final_invariant step _ _ _ (sound_start tracker)
    intro counters action sound
    exact sound.step action
  exact ⟨sound.sent, sound.received, sound.joined⟩

theorem both_calls_valid :
    (final step (start .new) [.call false (.validateReceived 0), .call true (.validateReceived 0),
      .proceed false, .proceed true, .proceed false, .proceed false, .proceed true]).log =
        [.observed false 0, .observed true 0, .advanced false 0, .joined true 0] := by
  decide

end Counters

end Mabinogion.Knx
