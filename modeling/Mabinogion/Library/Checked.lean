import Mathlib.Order.Basic
import Mathlib.Algebra.Order.Ring.Nat

/-!
# Checked state computations

A computation on a mutable state ends with a value, with an error, or with a fault: an index
out of range, a copy between different lengths, an overflow, or a loop that did not end. A
fault is where the program would panic, so it carries no state.
-/

namespace Checked

inductive Fault where
  | indexOutOfRange
  | lengthMismatch
  | underflow
  | overflow
  | shiftTooWide
  | loopBound

inductive Outcome (State Error Value : Type) where
  | ok (value : Value) (state : State)
  | err (error : Error) (state : State)
  | fault (fault : Fault)

/-- What the caller sees once the state is dropped: nothing after a fault. -/
def Outcome.returned {State Error Value : Type} :
    Outcome State Error Value → Option (Except Error Value)
  | .ok value _ => some (.ok value)
  | .err error _ => some (.error error)
  | .fault _ => none

end Checked

def Checked (State Error Value : Type) : Type := State → Checked.Outcome State Error Value

namespace Checked

variable {State Error Other Value Result Acc : Type}

def andThen (first : Checked State Error Value) (next : Value → Checked State Error Result) :
    Checked State Error Result := fun state =>
  match first state with
  | .ok value after => next value after
  | .err error after => .err error after
  | .fault fault => .fault fault

instance : Monad (Checked State Error) where
  pure value := fun state => .ok value state
  bind := andThen

variable (error : Error)

def fail : Checked State Error Value := fun state => .err error state

def raise (fault : Fault) : Checked State Error Value := fun _ => .fault fault

def gets (view : State → Value) : Checked State Error Value := fun state => .ok (view state) state

def mapErr (convert : Error → Other) (computation : Checked State Error Value) :
    Checked State Other Value := fun state =>
  match computation state with
  | .ok value after => .ok value after
  | .err error after => .err (convert error) after
  | .fault fault => .fault fault

/-- Runs the computation and hands on its result, error or not. -/
def attempt (computation : Checked State Error Value) :
    Checked State Other (Except Error Value) := fun state =>
  match computation state with
  | .ok value after => .ok (.ok value) after
  | .err error after => .ok (.error error) after
  | .fault fault => .fault fault

def failIf (condition : Bool) (error : Error) : Checked State Error Unit :=
  if condition then fail error else pure ()

def checkedSub (left right : Nat) : Checked State Error Nat :=
  if right ≤ left then pure (left - right) else raise .underflow

def checkedAdd (bound left right : Nat) : Checked State Error Nat :=
  if left + right < bound then pure (left + right) else raise .overflow

def checkedMul (bound left right : Nat) : Checked State Error Nat :=
  if left * right < bound then pure (left * right) else raise .overflow

def checkedIndex {Item : Type} (items : List Item) (index : Nat) : Checked State Error Item :=
  match items[index]? with
  | some item => pure item
  | none => raise .indexOutOfRange

def checkedSlice {Item : Type} (items : List Item) (start stop : Nat) :
    Checked State Error (List Item) :=
  if start ≤ stop ∧ stop ≤ items.length then pure ((items.take stop).drop start)
  else raise .indexOutOfRange

def checkedSet {Item : Type} (items : List Item) (index : Nat) (item : Item) :
    Checked State Error (List Item) :=
  if index < items.length then pure (items.set index item) else raise .indexOutOfRange

def visitAll {Item : Type} (visit : Item → Checked State Error Value) :
    List Item → Checked State Error (List Value)
  | [] => pure []
  | item :: items => do
    let value ← visit item
    let values ← visitAll visit items
    pure (value :: values)

def checkedItems {Item : Type} (items : List Item) (count : Nat) :
    Checked State Error (List Item) :=
  visitAll (checkedIndex items) (List.range count)

def checkedCopy {Item : Type} (length : Nat) (items : List Item) :
    Checked State Error (List Item) :=
  if items.length = length then pure items else raise .lengthMismatch

def liftOption : Option Value → Checked State Error Value
  | some value => pure value
  | none => fail error

def ofExcept : Except Error Value → Checked State Error Value
  | .ok value => pure value
  | .error error => fail error

theorem return_bind (value : Value) (next : Value → Checked State Error Result) :
    (pure value >>= next) = next value := rfl

theorem bind_bind (first : Checked State Error Value)
    (second : Value → Checked State Error Result) (third : Result → Checked State Error Acc) :
    ((first >>= second) >>= third) = first >>= fun value => second value >>= third := by
  funext state
  show andThen (andThen first second) third state =
    andThen first (fun value => andThen (second value) third) state
  cases ran : first state <;> simp [andThen, ran]

theorem fail_bind (next : Value → Checked State Error Result) :
    (fail error >>= next) = fail error := rfl

theorem ofExcept_ok (value : Value) :
    (ofExcept (.ok value) : Checked State Error Value) = pure value := rfl

theorem ofExcept_error : (ofExcept (.error error) : Checked State Error Value) = fail error := rfl

theorem ofExcept_bind (result : Except Error Value) (next : Value → Except Error Result) :
    (ofExcept (result >>= next) : Checked State Error Result) =
      ofExcept result >>= fun value => ofExcept (next value) := by
  cases result with
  | ok | error => rfl

theorem failIf_true : (failIf true error : Checked State Error Unit) = fail error := rfl

theorem failIf_false : (failIf false error : Checked State Error Unit) = pure () := rfl

variable {value : Value} {first : Checked State Error Value} {error : Error}
variable {computation : Checked State Error Value} {next : Value → Checked State Error Result}
variable {Item : Type} {items : List Item}

section

variable (state after : State)

@[simp] theorem pure_apply (value : Value) :
    (pure value : Checked State Error Value) state = .ok value state := rfl

@[simp] theorem fail_apply (error : Error) :
    (fail error : Checked State Error Value) state = .err error state := rfl

@[simp] theorem gets_apply (view : State → Value) :
    (gets view : Checked State Error Value) state = .ok (view state) state := rfl

theorem bind_apply (first : Checked State Error Value) (next : Value → Checked State Error Result) :
    (first >>= next) state = andThen first next state := rfl

theorem returned_ok {outcome : Outcome State Error Value}
    (returned : outcome.returned = some (.ok value)) : ∃ after, outcome = .ok value after := by
  cases outcome with
  | ok other after =>
    rw [Outcome.returned, Option.some_inj, Except.ok.injEq] at returned
    exact ⟨after, congrArg (Outcome.ok · after) returned⟩
  | err | fault => simp [Outcome.returned] at returned

theorem bind_ok {state after : State} (returned : first state = .ok value after) :
    (first >>= next) state = next value after := by
  simp only [bind_apply, andThen, returned]

theorem bind_err {state after : State} (failed : first state = .err error after) :
    (first >>= next) state = .err error after := by
  simp only [bind_apply, andThen, failed]

theorem bind_fault {state : State} {fault : Fault} (faulted : first state = .fault fault) :
    (first >>= next) state = .fault fault := by
  simp only [bind_apply, andThen, faulted]

theorem mapErr_ok (convert : Error → Other) (returned : computation state = .ok value after) :
    mapErr convert computation state = .ok value after := by
  simp only [mapErr, returned]

theorem mapErr_err {state after : State} (convert : Error → Other)
    (failed : computation state = .err error after) :
    mapErr convert computation state = .err (convert error) after := by
  simp only [mapErr, failed]

theorem bind_eq_ok {result : Result} (returned : (first >>= next) state = .ok result after) :
    ∃ value middle, first state = .ok value middle ∧ next value middle = .ok result after := by
  rw [bind_apply, andThen] at returned
  cases ran : first state with
  | ok value middle =>
    rw [ran] at returned
    exact ⟨value, middle, rfl, returned⟩
  | err | fault => simp [ran] at returned

theorem map_eq_ok {view : Value → Result} {result : Result}
    (returned : (computation >>= fun value => pure (view value)) state = .ok result after) :
    ∃ value, computation state = .ok value after ∧ result = view value := by
  obtain ⟨value, middle, ran, ended⟩ := bind_eq_ok state after returned
  injection ended with sameResult sameState
  exact ⟨value, sameState ▸ ran, sameResult.symm⟩

theorem mapErr_eq_ok {convert : Error → Other}
    (returned : mapErr convert computation state = .ok value after) :
    computation state = .ok value after := by
  unfold mapErr at returned
  split at returned
  · cases returned
    assumption
  · cases returned
  · cases returned

theorem attempt_ok (returned : computation state = .ok value after) :
    (attempt computation : Checked State Other (Except Error Value)) state =
      .ok (.ok value) after := by
  simp only [attempt, returned]

theorem attempt_err (failed : computation state = .err error after) :
    (attempt computation : Checked State Other (Except Error Value)) state =
      .ok (.error error) after := by
  simp only [attempt, failed]

theorem attempt_eq_ok
    (returned : (attempt computation : Checked State Other (Except Error Value)) state =
      .ok (.ok value) after) : computation state = .ok value after := by
  unfold attempt at returned
  split at returned
  · cases returned
    assumption
  · cases returned
  · cases returned

theorem liftOption_eq_ok {option : Option Value}
    (returned : (liftOption error option : Checked State Error Value) state = .ok value after) :
    option = some value ∧ after = state := by
  cases option with
  | none => simp [liftOption] at returned
  | some =>
    injection returned with sameValue sameState
    exact ⟨congrArg some sameValue, sameState.symm⟩

variable {condition : Bool} {index left right : Nat}

theorem failIf_ok (error : Error) (fails : condition = false) :
    (failIf condition error : Checked State Error Unit) state = .ok () state := by
  rw [fails]
  rfl

theorem failIf_err (error : Error) (holds : condition = true) :
    (failIf condition error : Checked State Error Unit) state = .err error state := by
  rw [holds]
  rfl

theorem checkedSub_ok (enough : right ≤ left) :
    (checkedSub left right : Checked State Error Nat) state = .ok (left - right) state := by
  rw [checkedSub, if_pos enough]
  rfl

theorem checkedSub_underflow (short : left < right) :
    (checkedSub left right : Checked State Error Nat) state = .fault .underflow := by
  rw [checkedSub, if_neg (Nat.not_le_of_lt short)]
  rfl

theorem checkedMul_eq {bound left right : Nat} (small : left * right < bound) :
    (checkedMul bound left right : Checked State Error Nat) = pure (left * right) := by
  rw [checkedMul, if_pos small]

/-- Two checks with one error are one check. -/
theorem failIf_failIf (first second : Bool) (error : Error)
    (next : Unit → Checked State Error Result) :
    (failIf first error >>= fun _ => failIf second error >>= next) =
      failIf (first || second) error >>= next := by
  cases first with
  | true | false => rfl

theorem bind_congr_ok {left right : Value → Checked State Error Result}
    (same : ∀ state value after, first state = .ok value after →
      left value after = right value after) : first >>= left = first >>= right := by
  funext state
  rw [bind_apply, bind_apply, andThen, andThen]
  cases ran : first state with
  | ok value after => exact same state value after ran
  | err | fault => rfl

theorem visitAll_ok {visit : Item → Checked State Error Value} {view : Item → Value}
    (visits : ∀ item ∈ items, visit item state = .ok (view item) state) :
    visitAll visit items state = .ok (items.map view) state := by
  induction items with
  | nil => rfl
  | cons item items ih =>
    have first := visits item List.mem_cons_self
    have rest := ih fun other later => visits other (List.mem_cons_of_mem item later)
    rw [visitAll, bind_ok first, bind_ok rest, List.map_cons]
    rfl

theorem checkedIndex_ok {item : Item} (inside : items[index]? = some item) :
    (checkedIndex items index : Checked State Error Item) state = .ok item state := by
  rw [checkedIndex, inside]
  rfl

theorem checkedIndex_getD (default : Item) (inside : index < items.length) :
    (checkedIndex items index : Checked State Error Item) state =
      .ok (items.getD index default) state := by
  apply checkedIndex_ok
  rw [List.getElem?_eq_getElem inside, List.getD_eq_getElem?_getD,
    List.getElem?_eq_getElem inside, Option.getD_some]

theorem checkedSlice_ok {start stop : Nat} (ordered : start ≤ stop) (inside : stop ≤ items.length) :
    (checkedSlice items start stop : Checked State Error (List Item)) state =
      .ok ((items.take stop).drop start) state := by
  rw [checkedSlice, if_pos ⟨ordered, inside⟩]
  rfl

theorem checkedSet_ok (item : Item) (inside : index < items.length) :
    (checkedSet items index item : Checked State Error (List Item)) state =
      .ok (items.set index item) state := by
  rw [checkedSet, if_pos inside]
  rfl

theorem checkedItems_ok {count : Nat} (length : items.length = count) :
    (checkedItems items count : Checked State Error (List Item)) state = .ok items state := by
  subst length
  cases items with
  | nil => rfl
  | cons head tail =>
    have visits : ∀ index ∈ List.range (head :: tail).length,
        (checkedIndex (head :: tail) index : Checked State Error Item) state =
          .ok ((head :: tail)[index]?.getD head) state := by
      intro index member
      have inside := List.getElem?_eq_getElem (List.mem_range.mp member)
      rw [inside, Option.getD_some]
      exact checkedIndex_ok state inside
    rw [checkedItems, visitAll_ok state visits]
    congr 1
    apply List.ext_getElem
    · rw [List.length_map, List.length_range]
    · intro index below inside
      rw [List.getElem_map, List.getElem_range, List.getElem?_eq_getElem inside, Option.getD_some]

theorem checkedCopy_ok {length : Nat} (same : items.length = length) :
    (checkedCopy length items : Checked State Error (List Item)) state = .ok items state := by
  rw [checkedCopy, if_pos same]
  rfl

end

section

def Faults (computation : Checked State Error Value) (state : State) : Prop :=
  ∃ fault, computation state = .fault fault

def Safe (computation : Checked State Error Value) : Prop :=
  ∀ state, ¬Faults computation state

variable {state : State}

theorem faults_iff_returned_none (computation : Checked State Error Value) :
    Faults computation state ↔ (computation state).returned = none := by
  unfold Faults
  cases computation state with
  | ok | err | fault => simp [Outcome.returned]

theorem safe_pure (value : Value) : Safe (pure value : Checked State Error Value) := by
  rintro state ⟨fault, faulted⟩
  simp at faulted

theorem safe_fail (error : Error) : Safe (fail error : Checked State Error Value) := by
  rintro state ⟨fault, faulted⟩
  simp at faulted

theorem faults_bind : Faults (first >>= next) state ↔
      Faults first state ∨ ∃ value after, first state =
      .ok value after ∧ Faults (next value) after := by
  unfold Faults
  rw [bind_apply, andThen]
  cases ran : first state with
  | ok value after =>
    constructor
    · rintro ⟨fault, faulted⟩
      exact Or.inr ⟨value, after, rfl, fault, faulted⟩
    · rintro (⟨fault, impossible⟩ | ⟨other, middle, same, fault, faulted⟩)
      · simp at impossible
      · obtain ⟨rfl, rfl⟩ := Outcome.ok.inj same
        exact ⟨fault, faulted⟩
  | err | fault => simp

theorem faults_gets_bind {view : State → Value} :
    Faults (gets view >>= next) state ↔ Faults (next (view state)) state := by
  rw [Faults, bind_ok (gets_apply state view), Faults]

theorem faults_checkedAdd (bound left right : Nat) :
    Faults (checkedAdd bound left right : Checked State Error Nat) state ↔
      bound ≤ left + right := by
  unfold checkedAdd
  split_ifs with fits
  · exact iff_of_false (safe_pure _ state) (Nat.not_le_of_lt fits)
  · exact iff_of_true ⟨.overflow, rfl⟩ (Nat.le_of_not_lt fits)

theorem faults_failIf_bind {condition : Bool} {next : Unit → Checked State Error Result} :
    Faults (failIf condition error >>= next) state ↔
      condition = false ∧ Faults (next ()) state := by
  cases condition with
  | true | false => simp [Faults, failIf, bind_apply, andThen]

theorem faults_liftOption_bind {option : Option Value} :
    Faults (liftOption error option >>= next) state ↔
      ∃ value, option = some value ∧ Faults (next value) state := by
  cases option with
  | none | some => simp [Faults, liftOption, bind_apply, andThen]

theorem faults_mapErr (convert : Error → Other) (computation : Checked State Error Value) :
    Faults (mapErr convert computation) state ↔ Faults computation state := by
  unfold Faults mapErr
  cases computation state with
  | ok | err | fault => simp

theorem Safe.faults_bind (safe : Safe first) : Faults (first >>= next) state ↔
      ∃ value after, first state = .ok value after ∧ Faults (next value) after := by
  rw [Checked.faults_bind, or_iff_right (safe state)]

/-- Safe computations behind add no fault. -/
theorem faults_bind_safe (safe : ∀ value, Safe (next value)) :
    Faults (first >>= next) state ↔ Faults first state := by
  rw [faults_bind]
  refine or_iff_left ?_
  rintro ⟨value, after, _, faulted⟩
  exact safe value after faulted

end

end Checked
