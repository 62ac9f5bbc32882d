import Mabinogion.Library.MeasuredLoop
import Mabinogion.Library.Triple

/-!
# Computations that leave the state alone

A read-only computation ends in the state it began in, a transactional one does so where it
ends with an error. A transactional computation may follow read-only ones, and what follows it
must not fail.
-/

namespace Checked

open Checked

variable {State Error Other Value Result : Type} (computation : Checked State Error Value)

def Transactional : Prop :=
  ∀ state after error, computation state = .err error after → after = state

structure ReadOnly (computation : Checked State Error Value) : Prop where
  transactional : Transactional computation
  returns : ∀ state after value, computation state = .ok value after → after = state

def NeverFails : Prop :=
  ∀ state after error, computation state ≠ .err error after

theorem neverFails_pure (value : Value) : NeverFails (pure value : Checked State Error Value) := by
  intro state after error failed
  cases failed

theorem neverFails_modify (change : State → State) :
    NeverFails (modify change : Checked State Error Unit) := by
  intro state after error failed
  cases failed

variable {computation first : Checked State Error Value}
variable {next : Value → Checked State Error Result}

theorem NeverFails.transactional (never : NeverFails computation) : Transactional computation := by
  intro state after error failed
  exact absurd failed (never state after error)

theorem bind_eq_err {state after : State} {error : Error}
    (failed : (first >>= next) state = .err error after) :
    first state = .err error after ∨
      ∃ value middle, first state = .ok value middle ∧ next value middle = .err error after := by
  rw [bind_apply, andThen] at failed
  cases ran : first state with
  | ok value middle =>
    rw [ran] at failed
    exact Or.inr ⟨value, middle, rfl, failed⟩
  | err =>
    rw [ran] at failed
    cases failed
    exact Or.inl rfl
  | fault =>
    rw [ran] at failed
    cases failed

theorem mapErr_eq_err {convert : Error → Other} {state after : State} {error : Other}
    (failed : mapErr convert computation state = .err error after) :
    ∃ original, computation state = .err original after ∧ convert original = error := by
  unfold mapErr at failed
  cases ran : computation state with
  | ok | fault =>
    rw [ran] at failed
    cases failed
  | err original =>
    rw [ran] at failed
    cases failed
    exact ⟨original, rfl, rfl⟩

namespace Transactional

theorem mapErr (transactional : Transactional computation) (convert : Error → Other) :
    Transactional (mapErr convert computation) := by
  intro state after error failed
  obtain ⟨original, ran, _⟩ := mapErr_eq_err failed
  exact transactional state after original ran

theorem bind_neverFails (transactional : Transactional first)
    (never : ∀ value, NeverFails (next value)) : Transactional (first >>= next) := by
  intro state after error failed
  rcases bind_eq_err failed with early | ⟨value, middle, _, late⟩
  · exact transactional state after error early
  · exact absurd late (never value middle after error)

end Transactional

namespace ReadOnly

theorem pure (value : Value) : ReadOnly (Pure.pure value : Checked State Error Value) where
  transactional := (neverFails_pure value).transactional
  returns := by
    intro state after result returned
    cases returned
    rfl

theorem fail (error : Error) : ReadOnly (fail error : Checked State Error Value) where
  transactional := by
    intro state after other failed
    cases failed
    rfl
  returns := by
    intro state after value returned
    cases returned

theorem raise (fault : Fault) : ReadOnly (raise fault : Checked State Error Value) where
  transactional := by
    intro state after error failed
    cases failed
  returns := by
    intro state after value returned
    cases returned

theorem gets (view : State → Value) : ReadOnly (gets view : Checked State Error Value) where
  transactional := by
    intro state after error failed
    cases failed
  returns := by
    intro state after value returned
    cases returned
    rfl

variable (left right : Nat) {Item : Type} (items : List Item) (index : Nat)

theorem bind_transactional (readOnly : ReadOnly first)
    (transactional : ∀ value, Transactional (next value)) : Transactional (first >>= next) := by
  intro state after error failed
  rcases bind_eq_err failed with early | ⟨value, middle, ran, late⟩
  · exact readOnly.transactional state after error early
  · have same := readOnly.returns state middle value ran
    subst same
    exact transactional value middle after error late

theorem bind (readOnly : ReadOnly first) (later : ∀ value, ReadOnly (next value)) :
    ReadOnly (first >>= next) where
  transactional := readOnly.bind_transactional fun value => (later value).transactional
  returns := by
    intro state after value returned
    obtain ⟨middle, between, ran, ended⟩ := bind_eq_ok state after returned
    exact ((later middle).returns between after value ended).trans
      (readOnly.returns state between middle ran)

theorem ite {condition : Prop} [Decidable condition] {yes no : Checked State Error Value}
    (positive : ReadOnly yes) (negative : ReadOnly no) :
    ReadOnly (if condition then yes else no) := by
  by_cases holds : condition
  · rw [if_pos holds]
    exact positive
  · rw [if_neg holds]
    exact negative

theorem failIf (condition : Bool) (error : Error) :
    ReadOnly (failIf condition error : Checked State Error Unit) :=
  ite (fail error) (pure ())

theorem ofExcept (result : Except Error Value) :
    ReadOnly (ofExcept result : Checked State Error Value) := by
  cases result with
  | ok value => exact pure value
  | error error => exact fail error

theorem checkedSub : ReadOnly (checkedSub left right : Checked State Error Nat) :=
  ite (pure _) (raise _)

theorem checkedAdd (bound left right : Nat) :
    ReadOnly (checkedAdd bound left right : Checked State Error Nat) :=
  ite (pure _) (raise _)

theorem checkedSlice (start stop : Nat) :
    ReadOnly (checkedSlice items start stop : Checked State Error (List Item)) :=
  ite (pure _) (raise _)

theorem checkedIndex : ReadOnly (Checked.checkedIndex items index : Checked State Error Item) := by
  unfold Checked.checkedIndex
  cases items[index]? with
  | none => exact raise _
  | some item => exact pure item

theorem checkedSet (item : Item) :
    ReadOnly (Checked.checkedSet items index item : Checked State Error (List Item)) :=
  ite (pure _) (raise _)

theorem loopWithin {Acc : Type} {round : Acc → Checked State Error (Acc ⊕ Result)}
    (rounds : ∀ acc, ReadOnly (round acc)) (bound : Nat) (acc : Acc) :
    ReadOnly (loopWithin round bound acc) := by
  induction bound generalizing acc with
  | zero => exact raise _
  | succ bound ih =>
    refine bind (rounds acc) fun stepped => ?_
    cases stepped with
    | inl next => exact ih next
    | inr result => exact pure result

end ReadOnly

end Checked
