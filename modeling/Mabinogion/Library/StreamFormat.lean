import Mabinogion.Library.MeasuredLoop

/-!
# Formats of a stream

A format says which symbols stand for which value. A computation accepts a format when it
returns a value exactly where the format has one, and the streams on which it faults are then
described by formats.
-/

/-- Symbols, the value they stand for, and the symbols behind them. -/
def StreamFormat (Symbol Value : Type) : Type := List Symbol → Value → List Symbol → Prop

namespace StreamFormat

open Checked
open List (append_nil)

variable {Symbol Value Result Acc : Type}

def nothing (value : Value) : StreamFormat Symbol Value := fun symbols other _ =>
  symbols = [] ∧ other = value

def followedBy (first : StreamFormat Symbol Value) (next : Value → StreamFormat Symbol Result) :
    StreamFormat Symbol Result := fun symbols result rest =>
  ∃ head value tail, symbols = head ++ tail ∧ first head value (tail ++ rest) ∧
    next value tail result rest

/-- A format that depends on what is ahead. -/
def looking {View : Type} (view : List Symbol → View) (next : View → StreamFormat Symbol Value) :
    StreamFormat Symbol Value := fun symbols value rest =>
  next (view (symbols ++ rest)) symbols value rest

section

variable (format : StreamFormat Symbol Value)

theorem followedBy_nothing (view : Value → Result)
    (symbols : List Symbol) (result : Result) (rest : List Symbol) :
    format.followedBy (fun value => nothing (view value)) symbols result rest ↔
      ∃ value, format symbols value rest ∧ result = view value := by
  constructor
  · rintro ⟨head, value, tail, rfl, here, rfl, same⟩
    rw [append_nil]
    exact ⟨value, here, same⟩
  · rintro ⟨value, here, same⟩
    exact ⟨symbols, value, [], (append_nil _).symm, here, rfl, same⟩

theorem not_followedBy_nil {format : StreamFormat Symbol Value}
    {next : Value → StreamFormat Symbol Result} {result : Result} {rest : List Symbol}
    (occurs : ∀ value rest, ¬format [] value rest) : ¬format.followedBy next [] result rest := by
  rintro ⟨head, value, tail, empty, here, _⟩
  obtain ⟨rfl, rfl⟩ := List.append_eq_nil_iff.mp empty.symm
  exact occurs _ _ here

/-- The input starts in the format, and what is behind is as required. -/
def Before (required : Value → List Symbol → Prop) (input : List Symbol) : Prop :=
  ∃ symbols value rest, input = symbols ++ rest ∧ format symbols value rest ∧ required value rest

end

/-- Items one behind the other, none of them where the list would stop. -/
inductive Repeats (stop : List Symbol → Bool) (item : StreamFormat Symbol Value) :
    List Symbol → List Value → List Symbol → Prop where
  | none (rest : List Symbol) : Repeats stop item [] [] rest
  | next {head tail rest : List Symbol} {value : Value} {values : List Value}
      (goesOn : stop (head ++ (tail ++ rest)) = false) (here : item head value (tail ++ rest))
      (later : Repeats stop item tail values rest) :
      Repeats stop item (head ++ tail) (value :: values) rest

def list (stop : List Symbol → Bool) (item : StreamFormat Symbol Value) :
    StreamFormat Symbol (List Value) := fun symbols values rest =>
  Repeats stop item symbols values rest ∧ stop rest = true

def listRound (stop : List Symbol → Bool) (item : StreamFormat Symbol Value)
    (items : List Value) : StreamFormat Symbol (List Value ⊕ List Value) := fun symbols step rest =>
  if stop (symbols ++ rest) then nothing (.inr items) symbols step rest
  else ∃ value, item symbols value rest ∧ step = .inl (items ++ [value])

/-- The accumulators of a loop, with the symbols that its rounds read. -/
inductive Rounds (round : Acc → StreamFormat Symbol (Acc ⊕ Result)) :
    Acc → List Symbol → Acc → List Symbol → Prop where
  | none (acc : Acc) (rest : List Symbol) : Rounds round acc [] acc rest
  | next {acc middle last : Acc} {head tail rest : List Symbol}
      (here : round acc head (.inl middle) (tail ++ rest))
      (later : Rounds round middle tail last rest) : Rounds round acc (head ++ tail) last rest

theorem rounds_listRound {stop : List Symbol → Bool} {item : StreamFormat Symbol Value}
    {items last : List Value} {symbols rest : List Symbol} :
    Rounds (listRound stop item) items symbols last rest ↔
      ∃ values, last = items ++ values ∧ Repeats stop item symbols values rest := by
  constructor
  · intro rounds
    induction rounds with
    | none items rest => exact ⟨[], (append_nil items).symm, .none rest⟩
    | next here later ih =>
      rw [listRound] at here
      split_ifs at here with stopped
      · cases here.2
      · obtain ⟨value, first, same⟩ := here
        cases same
        obtain ⟨values, rfl, repeats⟩ := ih
        exact ⟨value :: values, by rw [List.append_assoc, List.singleton_append],
          .next (Bool.eq_false_of_not_eq_true stopped) first repeats⟩
  · rintro ⟨values, rfl, repeats⟩
    induction repeats generalizing items with
    | none rest =>
      rw [append_nil]
      exact .none items rest
    | @next head tail rest value values goesOn first later ih =>
      have here : listRound stop item items head (.inl (items ++ [value])) (tail ++ rest) := by
        rw [listRound, goesOn]
        exact ⟨value, first, rfl⟩
      have rounds := Rounds.next here ih
      rwa [List.append_assoc, List.singleton_append] at rounds

end StreamFormat

namespace Checked

open StreamFormat

variable {State Symbol Error Other Value Result Acc : Type}
variable {computation : Checked State Error Value} {format : StreamFormat Symbol Value}
variable {first : Checked State Error Value} {next : Value → Checked State Error Result}
variable {yes no : Checked State Error Value} {view : List Symbol → Bool}

section

variable (place : List Symbol → List Symbol → State)

section

variable (computation : Checked State Error Value)

/-- At every place of every stream the computation returns just what the format
has there. -/
def Accepts (format : StreamFormat Symbol Value) : Prop :=
  ∀ consumed input value after, computation (place consumed input) = .ok value after ↔
    ∃ symbols rest, input = symbols ++ rest ∧ format symbols value rest ∧
      after = place (consumed ++ symbols) rest

/-- The computation faults just in front of the input. -/
def FaultsOn (faulty : List Symbol → Prop) : Prop :=
  ∀ consumed input, Faults computation (place consumed input) ↔ faulty input

end

variable {place} {other : StreamFormat Symbol Value}

theorem Accepts.congr (accepts : Accepts place computation format)
    (same : ∀ symbols value rest, format symbols value rest ↔ other symbols value rest) :
    Accepts place computation other := by
  intro consumed input value after
  simp only [accepts consumed input value after, same]

theorem accepts_pure (value : Value) :
    Accepts place (pure value : Checked State Error Value) (nothing value) := by
  intro consumed input other after
  constructor
  · intro returned
    obtain ⟨rfl, rfl⟩ := Outcome.ok.inj returned
    exact ⟨[], input, rfl, ⟨rfl, rfl⟩, by rw [List.append_nil]⟩
  · rintro ⟨symbols, rest, rfl, ⟨rfl, rfl⟩, rfl⟩
    rw [List.append_nil]
    rfl

theorem accepts_fail (error : Error) :
    Accepts place (fail error : Checked State Error Value) fun _ _ _ => False := by
  intro consumed input value after
  simp

theorem accepts_liftOption (error : Error) (option : Option Value) :
    Accepts place (liftOption error option : Checked State Error Value)
      fun symbols value _ => symbols = [] ∧ option = some value := by
  cases option with
  | none => exact (accepts_fail error).congr (by simp)
  | some value => exact (accepts_pure value).congr (by simp [nothing, eq_comm])

theorem accepts_still {value : Value} (still : ∀ state, computation state = .ok value state) :
    Accepts place computation (nothing value) := by
  have same : computation = pure value := funext still
  rw [same]
  exact accepts_pure value

theorem accepts_checkedIndex {Item : Type} (items : List Item) (index : Nat) :
    Accepts place (checkedIndex items index : Checked State Error Item)
      fun symbols item _ => symbols = [] ∧ items[index]? = some item := by
  cases found : items[index]? with
  | none =>
    intro consumed input item after
    simp [checkedIndex, found, raise]
  | some =>
    exact (accepts_still fun state => checkedIndex_ok state found).congr
      (by simp [nothing, eq_comm])

theorem accepts_checkedAdd (bound left right : Nat) :
    Accepts place (checkedAdd bound left right : Checked State Error Nat)
      fun symbols sum _ => symbols = [] ∧ left + right < bound ∧ sum = left + right := by
  unfold checkedAdd
  split_ifs with fits
  · exact (accepts_pure (left + right)).congr (by simp [nothing, fits])
  · intro consumed input sum after
    simp [raise, fits]

theorem Accepts.mapErr (accepts : Accepts place computation format) (convert : Error → Other) :
    Accepts place (mapErr convert computation) format := by
  intro consumed input value after
  rw [← accepts consumed input value after]
  exact ⟨mapErr_eq_ok _ _, mapErr_ok _ _ convert⟩

theorem Accepts.bind {behind : Value → StreamFormat Symbol Result}
    (left : Accepts place first format)
    (right : ∀ value, Accepts place (next value) (behind value)) :
    Accepts place (first >>= next) (format.followedBy behind) := by
  intro consumed input result after
  constructor
  · intro returned
    obtain ⟨value, middle, ran, ended⟩ := bind_eq_ok _ _ returned
    obtain ⟨head, between, rfl, here, rfl⟩ := (left consumed input value middle).mp ran
    obtain ⟨tail, rest, rfl, later, rfl⟩ := (right value _ _ result after).mp ended
    exact ⟨head ++ tail, rest, by rw [List.append_assoc], ⟨head, value, tail, rfl, here, later⟩,
      by rw [List.append_assoc]⟩
  · rintro ⟨symbols, rest, rfl, ⟨head, value, tail, rfl, here, later⟩, rfl⟩
    have ran := (left consumed (head ++ (tail ++ rest)) value _).mpr ⟨head, _, rfl, here, rfl⟩
    have ended := (right value (consumed ++ head) (tail ++ rest) result _).mpr
      ⟨tail, rest, rfl, later, rfl⟩
    rw [List.append_assoc, bind_ok ran, ended, List.append_assoc]

theorem Accepts.map (accepts : Accepts place computation format) (view : Value → Result) :
    Accepts place (computation >>= fun value => pure (view value))
      fun symbols result rest => ∃ value, format symbols value rest ∧ result = view value :=
  (accepts.bind fun value => accepts_pure (view value)).congr (followedBy_nothing format view)

theorem Accepts.content (accepts : Accepts place computation format)
    (convert : Error → Other) (make : Value → Result) :
    Accepts place (Checked.mapErr convert computation >>= fun value => pure (make value))
      fun symbols result rest => ∃ value, format symbols value rest ∧ result = make value :=
  (accepts.mapErr convert).map make

theorem Accepts.computed {length : Nat} {reads : Checked State Error (List Symbol)}
    {next : List Symbol → Checked State Error Value} {holds : List Symbol → Value → Prop}
    (left : Accepts place reads fun symbols value _ => symbols.length = length ∧ value = symbols)
    (right : ∀ symbols, Accepts place (next symbols)
      fun more value _ => more = [] ∧ holds symbols value) :
    Accepts place (reads >>= next) fun symbols value _ =>
      symbols.length = length ∧ holds symbols value := by
  apply (left.bind right).congr
  intro symbols value rest
  constructor
  · rintro ⟨_, symbols, tail, rfl, ⟨counted, rfl⟩, rfl, here⟩
    rw [List.append_nil]
    exact ⟨counted, here⟩
  · rintro ⟨counted, here⟩
    exact ⟨symbols, symbols, [], (List.append_nil _).symm, ⟨counted, rfl⟩, rfl, here⟩

theorem Accepts.gets {View : Type} {look : State → View} {view : List Symbol → View}
    {next : View → Checked State Error Value} {behind : View → StreamFormat Symbol Value}
    (sees : ∀ consumed input, look (place consumed input) = view input)
    (right : ∀ seen, Accepts place (next seen) (behind seen)) :
    Accepts place (gets look >>= next) (looking view behind) := by
  intro consumed input value after
  rw [bind_ok (gets_apply _ look), sees, right]
  constructor
  · rintro ⟨symbols, rest, rfl, here, same⟩
    exact ⟨symbols, rest, rfl, here, same⟩
  · rintro ⟨symbols, rest, rfl, here, same⟩
    exact ⟨symbols, rest, rfl, here, same⟩

theorem Accepts.ifSeen {look : State → Bool}
    (sees : ∀ consumed input, look (place consumed input) = view input)
    (left : Accepts place yes format) (right : Accepts place no other) :
    Accepts place (Checked.gets look >>= fun here => if here then yes else no)
      fun symbols value rest => if view (symbols ++ rest) then format symbols value rest
        else other symbols value rest := by
  have either (seen : Bool) : Accepts place (if seen then yes else no)
      fun symbols value rest => if seen then format symbols value rest
        else other symbols value rest := by
    cases seen with
    | true => simpa using left
    | false => simpa using right
  exact (Accepts.gets sees either).congr fun _ _ _ => Iff.rfl

theorem Accepts.guarded {next : Checked State Error Value} (refuses : Bool) (error : Error)
    (right : Accepts place next format) :
    Accepts place (failIf refuses error >>= fun _ => next) fun symbols value rest => refuses =
      false ∧ format symbols value rest := by
  intro consumed input value after
  cases refuses with
  | true =>
    have failed : (failIf true error : Checked State Error Unit) (place consumed input) =
        .err error (place consumed input) := rfl
    rw [bind_err failed]
    simp
  | false =>
    have passed : (failIf false error : Checked State Error Unit) (place consumed input) =
        .ok () (place consumed input) := rfl
    rw [bind_ok passed, right]
    simp

end

section

variable {place : List Symbol → List Symbol → State} {measure : State → Nat}
variable {round : Acc → Checked State Error (Acc ⊕ Result)}
variable {format : Acc → StreamFormat Symbol (Acc ⊕ Result)}
variable (accepts : ∀ acc, Accepts place (round acc) (format acc))

include accepts

theorem reaches_place {acc last : Acc} {consumed input : List Symbol} {final : State} :
    Reaches round acc (place consumed input) last final ↔
      ∃ symbols rest, input = symbols ++ rest ∧ Rounds format acc symbols last rest ∧
        final = place (consumed ++ symbols) rest := by
  constructor
  · intro reached
    generalize here : place consumed input = state at reached
    induction reached generalizing consumed input with
    | here acc =>
      exact ⟨[], input, rfl, .none acc input, by rw [List.append_nil, here]⟩
    | next ran later ih =>
      subst here
      obtain ⟨head, left, rfl, first, rfl⟩ := (accepts _ consumed input _ _).mp ran
      obtain ⟨tail, rest, rfl, rounds, rfl⟩ := ih rfl
      exact ⟨head ++ tail, rest, (List.append_assoc _ _ _).symm, .next first rounds,
        by rw [List.append_assoc]⟩
  · rintro ⟨symbols, rest, rfl, rounds, rfl⟩
    induction rounds generalizing consumed with
    | none acc =>
      rw [List.append_nil]
      exact .here acc _
    | @next acc middle last head tail rest first later ih =>
      have ran := (accepts acc consumed (head ++ (tail ++ rest)) (.inl middle) _).mpr
        ⟨head, _, rfl, first, rfl⟩
      rw [List.append_assoc, ← List.append_assoc consumed]
      exact .next ran ih

variable (progress : ∀ acc, Advances measure (round acc))

include progress

theorem Accepts.loop (acc : Acc) : Accepts place (loop measure round acc) fun symbols result rest =>
      ∃ head last tail, symbols = head ++ tail ∧ Rounds format acc head last (tail ++ rest) ∧
        format last tail (.inr result) rest := by
  intro consumed input result after
  rw [loop_ok_iff progress]
  constructor
  · rintro ⟨last, final, reached, ended⟩
    obtain ⟨head, left, rfl, rounds, rfl⟩ := (reaches_place accepts).mp reached
    obtain ⟨tail, rest, rfl, stops, rfl⟩ := (accepts last _ _ _ _).mp ended
    exact ⟨head ++ tail, rest, (List.append_assoc _ _ _).symm,
      ⟨head, last, tail, rfl, rounds, stops⟩, by rw [List.append_assoc]⟩
  · rintro ⟨symbols, rest, rfl, ⟨head, last, tail, rfl, rounds, stops⟩, rfl⟩
    rw [List.append_assoc, ← List.append_assoc consumed]
    exact ⟨last, _, (reaches_place accepts).mpr ⟨head, tail ++ rest, rfl, rounds, rfl⟩,
      (accepts last _ _ _ _).mpr ⟨tail, rest, rfl, stops, rfl⟩⟩

theorem FaultsOn.loop {faulty : Acc → List Symbol → Prop}
    (faults : ∀ acc, FaultsOn place (round acc) (faulty acc)) (acc : Acc) :
    FaultsOn place (loop measure round acc) fun input => ∃ symbols last rest, input =
      symbols ++ rest ∧ Rounds format acc symbols last rest ∧ faulty last rest := by
  intro consumed input
  rw [loop_faults_iff progress]
  constructor
  · rintro ⟨last, final, reached, faulted⟩
    obtain ⟨symbols, rest, rfl, rounds, rfl⟩ := (reaches_place accepts).mp reached
    exact ⟨symbols, last, rest, rfl, rounds, (faults last _ _).mp faulted⟩
  · rintro ⟨symbols, last, rest, rfl, rounds, faulted⟩
    exact ⟨last, _, (reaches_place accepts).mpr ⟨symbols, rest, rfl, rounds, rfl⟩,
      (faults last _ _).mpr faulted⟩

end

variable {faulty : List Symbol → Prop}

section

variable {place : List Symbol → List Symbol → State}

theorem Safe.faultsOn (safe : Safe computation) : FaultsOn place computation fun _ => False :=
  fun _ _ => iff_of_false (safe _) id

variable {other : List Symbol → Prop}

theorem FaultsOn.congr (faults : FaultsOn place computation faulty)
    (same : ∀ input, faulty input ↔ other input) : FaultsOn place computation other :=
  fun consumed input => (faults consumed input).trans (same input)

theorem Safe.faultsOn_never (safe : Safe computation) (never : ∀ input, ¬faulty input) :
    FaultsOn place computation faulty :=
  safe.faultsOn.congr fun input => iff_of_false id (never input)

theorem FaultsOn.returned_none (faults : FaultsOn place computation faulty)
    (consumed input : List Symbol) :
    (computation (place consumed input)).returned = none ↔ faulty input :=
  (faults_iff_returned_none computation).symm.trans (faults consumed input)

theorem faultsOn_checkedIndex {Item : Type} (items : List Item) (index : Nat) :
    FaultsOn place (checkedIndex items index : Checked State Error Item)
      fun _ => items[index]? = none := by
  intro consumed input
  cases found : items[index]? with
  | none => exact iff_of_true ⟨.indexOutOfRange, by rw [checkedIndex, found]; rfl⟩ rfl
  | some => simp [Faults, checkedIndex_ok _ found]

theorem faultsOn_checkedAdd (bound left right : Nat) :
    FaultsOn place (checkedAdd bound left right : Checked State Error Nat)
      fun _ => bound ≤ left + right :=
  fun _ _ => faults_checkedAdd bound left right

theorem FaultsOn.mapErr (faults : FaultsOn place computation faulty) (convert : Error → Other) :
    FaultsOn place (mapErr convert computation) faulty :=
  fun consumed input => (faults_mapErr convert computation).trans (faults consumed input)

theorem FaultsOn.behind {faulty : Value → List Symbol → Prop} (safe : Safe first)
    (accepts : Accepts place first format)
    (faults : ∀ value, FaultsOn place (next value) (faulty value)) :
    FaultsOn place (first >>= next) (format.Before faulty) := by
  intro consumed input
  rw [safe.faults_bind]
  constructor
  · rintro ⟨value, after, ran, faulted⟩
    obtain ⟨symbols, rest, rfl, here, rfl⟩ := (accepts consumed input value after).mp ran
    exact ⟨symbols, value, rest, rfl, here, (faults value _ _).mp faulted⟩
  · rintro ⟨symbols, value, rest, rfl, here, faulted⟩
    exact ⟨value, _, (accepts consumed _ value _).mpr ⟨symbols, rest, rfl, here, rfl⟩,
      (faults value _ _).mpr faulted⟩

/-- Safe computations behind add no fault. -/
theorem FaultsOn.ahead (faults : FaultsOn place first faulty) (safe : ∀ value, Safe (next value)) :
    FaultsOn place (first >>= next) faulty :=
  fun consumed input => (faults_bind_safe safe).trans (faults consumed input)

theorem FaultsOn.gets {View : Type} {look : State → View} {view : List Symbol → View}
    {next : View → Checked State Error Value} {faulty : View → List Symbol → Prop}
    (sees : ∀ consumed input, look (place consumed input) = view input)
    (faults : ∀ seen, FaultsOn place (next seen) (faulty seen)) :
    FaultsOn place (gets look >>= next) fun input => faulty (view input) input := by
  intro consumed input
  rw [faults_gets_bind, sees]
  exact faults _ consumed input

theorem FaultsOn.ifSeen {look : State → Bool}
    (sees : ∀ consumed input, look (place consumed input) = view input)
    (left : FaultsOn place yes faulty) (right : FaultsOn place no other) :
    FaultsOn place (Checked.gets look >>= fun here => if here then yes else no)
      fun input => if view input then faulty input else other input := by
  intro consumed input
  rw [faults_gets_bind, sees]
  show Faults (if view input then yes else no) _ ↔ if view input then faulty input else other input
  split_ifs
  · exact left consumed input
  · exact right consumed input

end

section

variable {place : List Symbol → List Symbol → State} {measure : State → Nat}
variable {stop : State → Bool} {halt : List Symbol → Bool} {item : Checked State Error Value}
variable {format : StreamFormat Symbol Value} (accepts : Accepts place item format)
variable (stops : ∀ consumed input, stop (place consumed input) = halt input)

include accepts stops

theorem accepts_collectRound (items : List Value) :
    Accepts place (collectRound stop item items) (listRound halt format items) :=
  Accepts.ifSeen stops (accepts_pure _) (accepts.map _)

variable (consumes : Consumes measure item)

include consumes

theorem Accepts.collectUntil :
    Accepts place (collectUntil measure stop item) (list halt format) := by
  apply (Accepts.loop (accepts_collectRound accepts stops) (advances_collectRound consumes) []).congr
  intro symbols values rest
  simp only [rounds_listRound, List.nil_append, exists_eq_left']
  constructor
  · rintro ⟨head, last, tail, rfl, repeats, ended⟩
    rw [listRound] at ended
    split_ifs at ended with stopped
    · obtain ⟨rfl, same⟩ := ended
      cases same
      rw [List.append_nil]
      exact ⟨repeats, stopped⟩
    · obtain ⟨_, _, same⟩ := ended
      cases same
  · rintro ⟨repeats, stopped⟩
    refine ⟨symbols, values, [], (List.append_nil _).symm, repeats, ?_⟩
    rw [listRound, List.nil_append, stopped]
    exact ⟨rfl, rfl⟩

theorem FaultsOn.collectUntil (faults : FaultsOn place item faulty) :
    FaultsOn place (collectUntil measure stop item)
      (Before (Repeats halt format) fun _ rest => halt rest = false ∧ faulty rest) := by
  have rounds (items : List Value) : FaultsOn place (collectRound stop item items)
      fun input => if halt input then False else faulty input :=
    FaultsOn.ifSeen stops (safe_pure _).faultsOn (faults.ahead fun _ => safe_pure _)
  apply (FaultsOn.loop (accepts_collectRound accepts stops) (advances_collectRound consumes)
    rounds []).congr
  intro input
  simp [Before, rounds_listRound]

end

end Checked
