import Mabinogion.Library.Transducer
import Mabinogion.Knx.Sequence

/-!
# Delivery of tunnelled telegrams

The numbered telegrams of a client arrive in any order and any number of times. One that
arrives ahead of its turn is processed without moving the expected number, so its next copy
is processed again.
-/

namespace Mabinogion.Knx

open Transducer UInt8

structure TunnelAnswer where
  ack : Option UInt8
  validation : Option ReceivedValidation

def TunnelAnswer.processes (answer : TunnelAnswer) : Bool :=
  answer.validation.any ReceivedValidation.shouldProcess

/-- `handle_tunnelling_request`, for the connection of one channel. -/
def handleTunnellingRequest (connection : Option SequenceTracker) (sequenceCounter : UInt8) :
    TunnelAnswer × Option SequenceTracker :=
  match connection with
  | none => (⟨some 0x21, none⟩, none)
  | some tracker =>
    let (validation, next) := tracker.validateReceived sequenceCounter
    (⟨if validation.shouldAck then some 0 else none, some validation⟩,
      if validation.requiresRestart then none else some next)

/-- A telegram that went to `process_cemi`, and the turn that it was taken for. -/
structure Processed where
  telegram : Nat
  turn : Nat
deriving DecidableEq

structure Delivery where
  connection : Option SequenceTracker
  taken : Nat
  processed : List Processed

namespace Delivery

def start (threshold : UInt8) : Delivery := ⟨some (.withDesyncThreshold threshold), 0, []⟩

variable (delivery : Delivery) (telegram : Nat)

/-- A copy of a telegram arrives; it carries its number modulo 256. -/
def arrive : TunnelAnswer × Delivery :=
  let (answer, connection) := handleTunnellingRequest delivery.connection (UInt8.ofNat telegram)
  (answer, match answer.validation with
    | some (.valid _) =>
      ⟨connection, delivery.taken + 1, ⟨telegram, delivery.taken⟩ :: delivery.processed⟩
    | some (.outOfOrder _ _ distance) =>
      ⟨connection, delivery.taken,
        ⟨telegram, delivery.taken + distance.toNat⟩ :: delivery.processed⟩
    | _ => { delivery with connection })

def telegrams : List Nat := delivery.processed.map Processed.telegram

/-- A telegram that was processed ahead of its turn arrives again before its turn has come. -/
def StillAhead : Prop :=
  delivery.connection.isSome ∧ ∃ turn, ⟨telegram, turn⟩ ∈ delivery.processed ∧ delivery.taken ≤ turn

/-- A processed telegram arrives again when so many were taken since that its one-byte number is
again the next one, or less than half a round ahead of it. -/
def ComesRound : Prop :=
  delivery.connection.isSome ∧ ∃ turn rounds, ⟨telegram, turn⟩ ∈ delivery.processed ∧ 0 < rounds ∧
    delivery.taken ≤ turn + 256 * rounds ∧ turn + 256 * rounds < delivery.taken + 128

/-- A copy of a processed telegram is acknowledged and not processed again. -/
def AnsweredAsCopy : Prop :=
  telegram ∈ delivery.telegrams →
    (delivery.arrive telegram).1.processes = false ∧ (delivery.arrive telegram).1.ack.isSome

/-- No copy of a telegram arrives after the one that is a hundred later was accepted. -/
def Bounded : Prop := telegram + 100 ∉ delivery.telegrams

/-- Each telegram was taken for the turn of its own number: no 256 in a row were lost. -/
def OwnTurns : Prop := ∀ entry ∈ delivery.processed, entry.turn = entry.telegram

/-- The expected number is that of the next turn, all turns before it were taken, and no telegram was
taken for one that is the threshold or more ahead. -/
structure Sound (delivery : Delivery) : Prop where
  numbered : ∀ entry ∈ delivery.processed, entry.turn % 256 = entry.telegram % 256
  filled : ∀ turn < delivery.taken, ∃ telegram, ⟨telegram, turn⟩ ∈ delivery.processed
  expects : ∀ tracker, delivery.connection = some tracker → tracker.rno = ofNat delivery.taken
  near : ∀ tracker, delivery.connection = some tracker → ∀ entry ∈ delivery.processed,
    entry.turn < delivery.taken + min 128 tracker.fatalDesyncThreshold.toNat

theorem sound_start (threshold : UInt8) : (start threshold).Sound := by
  refine ⟨?_, ?_, ?_, ?_⟩
  · intro entry listed
    cases listed
  · intro turn before
    cases before
  · intro tracker stands
    injection stands with same
    rw [← same]
    rfl
  · intro tracker stands entry listed
    cases listed

section

variable {delivery : Delivery} {tracker : SequenceTracker} {telegram : Nat}

theorem arrive_closed (closed : delivery.connection = none) :
    delivery.arrive telegram = (⟨some 0x21, none⟩, delivery) := by
  rw [arrive, closed]
  show (_, (⟨none, delivery.taken, delivery.processed⟩ : Delivery)) = _
  rw [← closed]

section

variable (stands : delivery.connection = some tracker)

include stands

/-- What an arrival does, by the distance of the number from the expected one. -/
theorem arrive_cases : (tracker.distance (ofNat telegram) = 0 ∧ delivery.arrive telegram =
      (⟨some 0, some (.valid (ofNat telegram))⟩, ⟨some { tracker with rno := tracker.rno + 1 },
        delivery.taken + 1, ⟨telegram, delivery.taken⟩ :: delivery.processed⟩)) ∨
    (128 ≤ tracker.distance (ofNat telegram) ∧ delivery.arrive telegram =
      (⟨some 0, some (.duplicate (ofNat telegram) tracker.rno)⟩, delivery)) ∨
    (tracker.distance (ofNat telegram) < min 128 tracker.fatalDesyncThreshold.toNat ∧
      delivery.arrive telegram = (⟨some 0, some (.outOfOrder (ofNat telegram) tracker.rno
        (ofNat telegram - tracker.rno))⟩, ⟨some tracker, delivery.taken,
          ⟨telegram, delivery.taken + tracker.distance (ofNat telegram)⟩ :: delivery.processed⟩)) ∨
    (tracker.fatalDesyncThreshold.toNat ≤ tracker.distance (ofNat telegram) ∧
      tracker.distance (ofNat telegram) < 128 ∧ delivery.arrive telegram =
        (⟨none, some (.fatalDesync (ofNat telegram) tracker.rno (ofNat telegram - tracker.rno))⟩,
          { delivery with connection := none })) := by
  have same : ({ delivery with connection := some tracker } : Delivery) = delivery := by
    rw [← stands]
  rcases tracker.validate_cases (ofNat telegram) with
    ⟨here, taken⟩ | ⟨behind, taken⟩ | ⟨⟨_, half, below⟩, taken⟩ | ⟨⟨_, half, far⟩, taken⟩
  all_goals rw [arrive, stands, handleTunnellingRequest, taken]
  · exact .inl ⟨here, rfl⟩
  · exact .inr (.inl ⟨behind, congrArg (Prod.mk _) same⟩)
  · exact .inr (.inr (.inl ⟨lt_min half below, rfl⟩))
  · exact .inr (.inr (.inr ⟨far, half, rfl⟩))

theorem Sound.distance_eq (sound : delivery.Sound) : tracker.distance (ofNat telegram) =
    (256 - delivery.taken % 256 + telegram % 256) % 256 := by
  rw [tracker.distance_eq, sound.expects tracker stands, toNat_ofNat', toNat_ofNat']

/-- The number of a processed telegram is the next one or ahead of it by less than half a round
exactly if its turn has not come, or the numbers have come round. -/
theorem Sound.ahead_iff (sound : delivery.Sound) {turn : Nat}
    (listed : ⟨telegram, turn⟩ ∈ delivery.processed) :
    tracker.distance (ofNat telegram) < 128 ↔ delivery.taken ≤ turn ∨ ∃ rounds, 0 < rounds ∧
      delivery.taken ≤ turn + 256 * rounds ∧ turn + 256 * rounds < delivery.taken + 128 := by
  have same : turn % 256 = telegram % 256 := sound.numbered _ listed
  have near : turn < _ := sound.near tracker stands _ listed
  rw [sound.distance_eq stands]
  constructor
  · intro ahead
    by_cases before : delivery.taken ≤ turn
    · exact .inl before
    · refine .inr ⟨(delivery.taken + (256 - delivery.taken % 256 + telegram % 256) % 256 - turn) /
        256, ?_⟩
      omega
  · rintro (before | ⟨rounds, round⟩) <;> omega

theorem asCopy_iff : ((delivery.arrive telegram).1.processes = false ∧
    (delivery.arrive telegram).1.ack.isSome) ↔ 128 ≤ tracker.distance (ofNat telegram) := by
  rcases @arrive_cases delivery tracker telegram stands with
    ⟨here, done⟩ | ⟨behind, done⟩ | ⟨near, done⟩ | ⟨_, half, done⟩
  all_goals rw [done]
  · exact ⟨fun copy => (by cases copy.1), by omega⟩
  · exact ⟨fun _ => behind, fun _ => ⟨rfl, rfl⟩⟩
  · exact ⟨fun copy => (by cases copy.1), by omega⟩
  · exact ⟨fun copy => (by cases copy.2), by omega⟩

end

theorem answeredAsCopy_iff (sound : delivery.Sound) : delivery.AnsweredAsCopy telegram ↔
    ¬delivery.StillAhead telegram ∧ ¬delivery.ComesRound telegram := by
  cases connection : delivery.connection with
  | none => simp [AnsweredAsCopy, StillAhead, ComesRound, connection, arrive_closed connection,
      TunnelAnswer.processes]
  | some tracker =>
    have stands : delivery.connection.isSome := by rw [connection]; rfl
    constructor
    · intro answered
      have behind {turn : Nat} (listed : ⟨telegram, turn⟩ ∈ delivery.processed) :=
        (asCopy_iff connection).mp (answered (List.mem_map_of_mem listed))
      refine ⟨fun ⟨_, turn, listed, before⟩ => ?_, fun ⟨_, turn, rounds, listed, round⟩ => ?_⟩
      · have ahead := (sound.ahead_iff connection listed).mpr (.inl before)
        exact absurd (behind listed) (not_le.mpr ahead)
      · have ahead := (sound.ahead_iff connection listed).mpr (.inr ⟨rounds, round⟩)
        exact absurd (behind listed) (not_le.mpr ahead)
    · rintro ⟨still, round⟩ copy
      obtain ⟨⟨_, turn⟩, listed, rfl⟩ := List.mem_map.mp copy
      refine (asCopy_iff connection).mpr (not_lt.mp fun ahead => ?_)
      rcases (sound.ahead_iff connection listed).mp ahead with before | ⟨rounds, past⟩
      · exact still ⟨stands, turn, listed, before⟩
      · exact round ⟨stands, turn, rounds, listed, past⟩

/-- A telegram whose number has come round is behind the one a hundred later, which was taken. -/
theorem Sound.not_comesRound (sound : delivery.Sound) (bounded : delivery.Bounded telegram)
    (own : delivery.OwnTurns) : ¬delivery.ComesRound telegram := by
  rintro ⟨_, turn, rounds, listed, positive, _, past⟩
  have same : turn = telegram := own _ listed
  obtain ⟨later, taken⟩ := sound.filled (telegram + 100) (by omega)
  have number : telegram + 100 = later := own _ taken
  exact bounded (List.mem_map.mpr ⟨_, taken, number.symm⟩)

theorem Sound.arrive (sound : delivery.Sound) : (delivery.arrive telegram).2.Sound := by
  cases connection : delivery.connection with
  | none =>
    rw [arrive_closed connection]
    exact sound
  | some tracker =>
    have number : tracker.distance (ofNat telegram) = _ := sound.distance_eq connection
    have near := sound.near tracker connection
    rcases @arrive_cases delivery tracker telegram connection with
      ⟨here, done⟩ | ⟨_, done⟩ | ⟨ahead, done⟩ | ⟨_, _, done⟩
    all_goals rw [done]
    · refine ⟨?_, ?_, ?_, ?_⟩
      · rintro entry (_ | ⟨_, earlier⟩)
        · show delivery.taken % 256 = telegram % 256
          omega
        · exact sound.numbered entry earlier
      · intro turn before
        rcases Nat.lt_succ_iff_lt_or_eq.mp before with earlier | rfl
        · obtain ⟨other, listed⟩ := sound.filled turn earlier
          exact ⟨other, List.mem_cons_of_mem _ listed⟩
        · exact ⟨telegram, List.mem_cons_self⟩
      · rintro _ ⟨⟩
        show tracker.rno + 1 = ofNat (delivery.taken + 1)
        rw [sound.expects tracker connection, ofNat_add]
        rfl
      · rintro _ ⟨⟩ entry (_ | ⟨_, earlier⟩)
        · show delivery.taken < delivery.taken + 1 + _
          omega
        · have before := near entry earlier
          show entry.turn < delivery.taken + 1 + min 128 tracker.fatalDesyncThreshold.toNat
          omega
    · exact sound
    · refine ⟨?_, ?_, ?_, ?_⟩
      · rintro entry (_ | ⟨_, earlier⟩)
        · show (delivery.taken + _) % 256 = telegram % 256
          omega
        · exact sound.numbered entry earlier
      · intro turn before
        obtain ⟨other, listed⟩ := sound.filled turn before
        exact ⟨other, List.mem_cons_of_mem _ listed⟩
      · rintro _ ⟨⟩
        exact sound.expects tracker connection
      · rintro _ ⟨⟩ entry (_ | ⟨_, earlier⟩)
        · exact Nat.add_lt_add_left ahead _
        · exact near entry earlier
    · exact ⟨sound.numbered, sound.filled, fun _ stands => (by cases stands),
        fun _ stands => (by cases stands)⟩

theorem telegrams_arrive (delivery : Delivery) (telegram : Nat) :
    (delivery.arrive telegram).2.telegrams =
      if (delivery.arrive telegram).1.processes then telegram :: delivery.telegrams
      else delivery.telegrams := by
  cases connection : delivery.connection with
  | none =>
    rw [arrive_closed connection]
    rfl
  | some tracker =>
    rcases @arrive_cases delivery tracker telegram connection with
      ⟨_, done⟩ | ⟨_, done⟩ | ⟨_, done⟩ | ⟨_, _, done⟩
    all_goals
      rw [done]
      rfl

end

section

variable (threshold : UInt8) (telegrams : List Nat)

theorem nodup_telegrams_iff (delivery : Delivery) :
    (final arrive delivery telegrams).telegrams.Nodup ↔
      delivery.telegrams.Nodup ∧ ∀ arrival ∈ arrivals arrive delivery telegrams,
        arrival.2 ∈ arrival.1.telegrams → (arrival.1.arrive arrival.2).1.processes = false := by
  induction telegrams generalizing delivery with
  | nil => simp [arrivals]
  | cons telegram telegrams ih =>
    rw [final_cons, ih, arrivals, List.forall_mem_cons, ← and_assoc, telegrams_arrive]
    apply and_congr_left
    intro _
    cases (delivery.arrive telegram).1.processes with
    | true =>
      rw [if_pos rfl, List.nodup_cons]
      simp [and_comm]
    | false => simp

/-- Processed once and acknowledged each time exactly if no copy of a processed telegram arrives
before its turn has come or when the numbers have come round. In the bounds they do not come round
as long as each telegram is taken for its own turn. -/
theorem telegrams_processed_once_iff :
    (((final arrive (start threshold) telegrams).telegrams.Nodup ∧
        ∀ arrival ∈ arrivals arrive (start threshold) telegrams,
          arrival.2 ∈ arrival.1.telegrams → (arrival.1.arrive arrival.2).1.ack.isSome) ↔
      ∀ arrival ∈ arrivals arrive (start threshold) telegrams,
        ¬arrival.1.StillAhead arrival.2 ∧ ¬arrival.1.ComesRound arrival.2) ∧
    ∀ arrival ∈ arrivals arrive (start threshold) telegrams,
      arrival.1.Bounded arrival.2 → arrival.1.OwnTurns → ¬arrival.1.ComesRound arrival.2 := by
  have sound := arrivals_invariant arrive (fun _ _ => Sound.arrive) (start threshold) telegrams
    (sound_start threshold)
  constructor
  · have once : (start threshold).telegrams.Nodup := List.nodup_nil
    rw [nodup_telegrams_iff, and_iff_right once, ← forall₂_and]
    refine forall₂_congr fun arrival listed => ?_
    rw [← imp_and]
    exact answeredAsCopy_iff (sound arrival listed)
  · exact fun arrival listed => (sound arrival listed).not_comesRound

/-- A telegram that is ahead is processed and not remembered. -/
theorem overtaking_telegram_processed_twice : (∀ arrival ∈ arrivals arrive (start 5) [1, 0, 1],
      arrival.1.Bounded arrival.2 ∧ arrival.1.OwnTurns) ∧
    (final arrive (start 5) [1, 0, 1]).telegrams = [1, 0, 1] := by
  unfold Bounded OwnTurns
  decide

end

end Delivery

end Mabinogion.Knx
