import Mathlib.Data.List.Forall2
import Mabinogion.Library.Checked

/-!
# Triples for checked computations

What a computation does to its state: a condition before it, one after it for each value, and
one where it ends with an error. A computation with a triple does not fault.
-/

namespace Checked

open Checked

variable {State Error Other Value Result Item : Type}

def modify (change : State → State) : Checked State Error Unit := fun state =>
  .ok () (change state)

def modifyGet (change : State → Value × State) : Checked State Error Value := fun state =>
  .ok (change state).1 (change state).2

def onlyIf (condition : Bool) (computation : Checked State Error Unit) : Checked State Error Unit :=
  if condition then computation else pure ()

/-- The state at the end, with an error or without. -/
def Outcome.final (before : State) : Outcome State Error Value → State
  | .ok _ after => after
  | .err _ after => after
  | .fault _ => before

def Outcome.Ends (Post : Value → State → Prop) (Failed : State → Prop) :
    Outcome State Error Value → Prop
  | .ok value after => Post value after
  | .err _ after => Failed after
  | .fault _ => False

theorem Outcome.Ends.final {Condition : State → Prop} {outcome : Outcome State Error Value}
    (ends : outcome.Ends (fun _ => Condition) Condition) (before : State) :
    Condition (outcome.final before) := by
  cases outcome with
  | ok | err => exact ends
  | fault => exact ends.elim

def Triple (Pre : State → Prop) (computation : Checked State Error Value)
    (Post : Value → State → Prop) (Failed : State → Prop) : Prop :=
  ∀ state, Pre state → (computation state).Ends Post Failed

abbrev Leads (Pre : State → Prop) (computation : Checked State Error Value)
    (Post : State → Prop) : Prop := Triple Pre computation (fun _ => Post) Post

abbrev Keeps (Condition : State → Prop) (computation : Checked State Error Value) : Prop :=
  Triple Condition computation (fun _ => Condition) Condition

variable {computation : Checked State Error Value} {visit : Item → Checked State Error Value}

namespace Triple

variable {Pre Failed : State → Prop} {Post : Value → State → Prop}

theorem weaken {Before Ended : State → Prop} {After : Value → State → Prop}
    (triple : Triple Pre computation Post Failed) (before : ∀ state, Before state → Pre state)
    (after : ∀ value state, Post value state → After value state)
    (ended : ∀ state, Failed state → Ended state) : Triple Before computation After Ended := by
  intro state holds
  have ends := triple state (before state holds)
  revert ends
  cases computation state with
  | ok value later => exact after value later
  | err error later => exact ended later
  | fault => exact False.elim

theorem ofPre {Before : State → Prop} (triple : Triple Pre computation Post Failed)
    (before : ∀ state, Before state → Pre state) : Triple Before computation Post Failed :=
  triple.weaken before (fun _ _ holds => holds) (fun _ holds => holds)

theorem pure {value : Value} (holds : ∀ state, Pre state → Post value state) :
    Triple Pre (Pure.pure value : Checked State Error Value) Post Failed := holds

theorem fail {error : Error} (holds : ∀ state, Pre state → Failed state) :
    Triple Pre (fail error : Checked State Error Value) Post Failed := holds

theorem gets {view : State → Value} (holds : ∀ state, Pre state → Post (view state) state) :
    Triple Pre (gets view : Checked State Error Value) Post Failed := holds

theorem modify {change : State → State} {After : Unit → State → Prop}
    (holds : ∀ state, Pre state → After () (change state)) :
    Triple Pre (modify change : Checked State Error Unit) After Failed := holds

theorem modifyGet {change : State → Value × State}
    (holds : ∀ state, Pre state → Post (change state).1 (change state).2) :
    Triple Pre (modifyGet change : Checked State Error Value) Post Failed := holds

theorem bind {first : Checked State Error Value} {next : Value → Checked State Error Result}
    {After : Result → State → Prop} (head : Triple Pre first Post Failed)
    (tail : ∀ value, Triple (Post value) (next value) After Failed) :
    Triple Pre (first >>= next) After Failed := by
  intro state holds
  have ends := head state holds
  revert ends
  rw [bind_apply, andThen]
  cases first state with
  | ok value middle => exact tail value middle
  | err => exact id
  | fault => exact False.elim

theorem attempt {Ended : State → Prop} {After : Except Error Value → State → Prop}
    (triple : Triple Pre computation Post Failed)
    (after : ∀ value state, Post value state → After (.ok value) state)
    (failed : ∀ error state, Failed state → After (.error error) state) : Triple Pre
    (Checked.attempt computation : Checked State Other (Except Error Value)) After Ended := by
  intro state holds
  have ends := triple state holds
  revert ends
  rw [Checked.attempt]
  cases computation state with
  | ok value later => exact after value later
  | err error later => exact failed error later
  | fault => exact False.elim

theorem ite {condition : Prop} [Decidable condition] {yes no : Checked State Error Value}
    (positive : condition → Triple Pre yes Post Failed)
    (negative : ¬condition → Triple Pre no Post Failed) :
    Triple Pre (if condition then yes else no) Post Failed := by
  by_cases holds : condition
  · rw [if_pos holds]
    exact positive holds
  · rw [if_neg holds]
    exact negative holds

theorem visitAll {Kept : State → Prop} {Relates : Item → Value → Prop}
    (items : List Item) (visits : ∀ item ∈ items, Triple Kept (visit item)
      (fun value state => Kept state ∧ Relates item value) Failed) :
    Triple Kept (visitAll visit items)
      (fun values state => Kept state ∧ List.Forall₂ Relates items values) Failed := by
  induction items with
  | nil => exact pure fun _ kept => ⟨kept, .nil⟩
  | cons item items ih =>
    have later := ih fun other member => visits other (List.mem_cons_of_mem item member)
    apply bind (visits item List.mem_cons_self)
    intro value state visited
    have rest : Triple Kept (Checked.visitAll visit items >>= fun values =>
        Pure.pure (value :: values)) (fun values state => Kept state ∧
          List.Forall₂ Relates (item :: items) values) Failed := by
      apply bind later
      intro values
      exact pure fun _ both => ⟨both.1, .cons visited.2 both.2⟩
    exact rest state visited.1

end Triple

theorem visitAll_visited
    {Kept : State → Prop} {state after : State} {values : List Value} {items : List Item}
    (keeps : ∀ item before value middle, Kept before → visit item before = .ok value middle →
      Kept middle) (kept : Kept state) (returned : visitAll visit items state = .ok values after) :
    ∀ item ∈ items, ∃ before value middle, Kept before ∧ visit item before = .ok value middle := by
  induction items generalizing state values after with
  | nil => simp
  | cons item items ih =>
    obtain ⟨value, middle, first, later⟩ := bind_eq_ok state after returned
    obtain ⟨rest, final, visited, _⟩ := bind_eq_ok middle after later
    intro other member
    rcases List.mem_cons.mp member with same | behind
    · subst same
      exact ⟨state, value, middle, kept, first⟩
    · exact ih (keeps item state value middle kept first) visited other behind

end Checked
