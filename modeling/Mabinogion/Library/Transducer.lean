import Mathlib.Data.List.Basic

/-!
# Runs of a transducer

A service that answers each call and moves to a next state is a transducer.
A run is the list of its answers with the state it ends in. The rules here
cut a run in two and carry an invariant along it.
-/

namespace Transducer

open List (forall_mem_cons)

variable {State Input Output : Type*}

def run (step : State → Input → Output × State) : State → List Input → List Output × State
  | state, [] => ([], state)
  | state, input :: inputs =>
    ((step state input).1 :: (run step (step state input).2 inputs).1,
      (run step (step state input).2 inputs).2)

variable (step : State → Input → Output × State)

def outputs (state : State) (inputs : List Input) : List Output := (run step state inputs).1

def final (state : State) (inputs : List Input) : State := (run step state inputs).2

variable (state : State)

@[simp] theorem outputs_nil : outputs step state [] = [] := rfl

@[simp] theorem final_nil : final step state [] = state := rfl

variable (input : Input) (first second inputs : List Input)

@[simp] theorem outputs_cons : outputs step state (input :: inputs) =
      (step state input).1 :: outputs step (step state input).2 inputs := rfl

@[simp] theorem final_cons :
    final step state (input :: inputs) = final step (step state input).2 inputs := rfl

theorem final_append :
    final step state (first ++ second) = final step (final step state first) second := by
  induction first generalizing state with
  | nil => rfl
  | cons input first ih => simp only [List.cons_append, final_cons, ih]

theorem outputs_append : outputs step state (first ++ second) =
      outputs step state first ++ outputs step (final step state first) second := by
  induction first generalizing state with
  | nil => rfl
  | cons input first ih => simp only [List.cons_append, outputs_cons, final_cons, ih]

/-- Two transducers give the same answers, and end in related states, where related states answer
alike and stay related. -/
theorem outputs_simulation {Other Translated Presented : Type*}
    {other : Other → Translated → Presented × Other} {translate : Input → Translated}
    {present : Presented → Output} {Related : State → Other → Prop}
    (simulates : ∀ state model input, Related state model →
      (step state input).1 = present (other model (translate input)).1 ∧
        Related (step state input).2 (other model (translate input)).2)
    (state : State) (model : Other) (inputs : List Input) (related : Related state model) :
    outputs step state inputs = (outputs other model (inputs.map translate)).map present ∧
      Related (final step state inputs) (final other model (inputs.map translate)) := by
  induction inputs generalizing state model with
  | nil => exact ⟨rfl, related⟩
  | cons input inputs ih =>
    obtain ⟨same, next⟩ := simulates state model input related
    obtain ⟨later, ended⟩ := ih _ _ next
    rw [List.map_cons, outputs_cons, outputs_cons, final_cons, final_cons, List.map_cons, same,
      later]
    exact ⟨rfl, ended⟩

/-- What one step answers from any state, a whole run answers. -/
theorem outputs_hold {Holds : Output → Prop} (answered : ∀ state input, Holds (step state input).1)
    (state : State) (inputs : List Input) : ∀ output ∈ outputs step state inputs, Holds output := by
  induction inputs generalizing state with
  | nil => simp [outputs, run]
  | cons input inputs ih =>
    rw [outputs_cons]
    intro output member
    rcases List.mem_cons.mp member with rfl | later
    · exact answered state input
    · exact ih _ output later

/-- Inputs stamped with the time they arrive at, in the order of time. -/
abbrev Chronological (inputs : List (Nat × Input)) : Prop :=
  inputs.Pairwise fun earlier later => earlier.1 ≤ later.1

variable {Invariant : State → Prop}

/-- The states that a run goes through, the first and the last included. -/
def states : State → List Input → List State
  | state, [] => [state]
  | state, input :: inputs => state :: states (step state input).2 inputs

/-- Each input with the state that it arrives in. -/
def arrivals : State → List Input → List (State × Input)
  | _, [] => []
  | state, input :: inputs => (state, input) :: arrivals (step state input).2 inputs

theorem map_snd_arrivals : (arrivals step state inputs).map Prod.snd = inputs := by
  induction inputs generalizing state with
  | nil => rfl
  | cons input inputs ih => rw [arrivals, List.map_cons, ih]

variable {Harmless : State → Input → Prop}

/-- What a harmless step preserves holds in all states of a run of harmless steps. -/
theorem states_invariant_of_harmless
    (preserved : ∀ state input, Invariant state → Harmless state input →
      Invariant (step state input).2)
    (state : State) (inputs : List Input) (initial : Invariant state)
    (harmless : ∀ arrival ∈ arrivals step state inputs, Harmless arrival.1 arrival.2) :
    ∀ visited ∈ states step state inputs, Invariant visited := by
  induction inputs generalizing state with
  | nil =>
    intro visited listed
    rw [states, List.mem_singleton] at listed
    rw [listed]
    exact initial
  | cons input inputs ih =>
    rw [arrivals, forall_mem_cons] at harmless
    rw [states, forall_mem_cons]
    exact ⟨initial, ih _ (preserved state input initial harmless.1) harmless.2⟩

section

variable (preserved : ∀ state input, Invariant state → Invariant (step state input).2)
  (state : State) (inputs : List Input) (initial : Invariant state)

include preserved initial

/-- What one step preserves, a whole run preserves. -/
theorem final_invariant : Invariant (final step state inputs) := by
  induction inputs generalizing state with
  | nil => exact initial
  | cons input inputs ih =>
    rw [final_cons]
    exact ih _ (preserved state input initial)

/-- What one step preserves holds in all states of a run. -/
theorem states_invariant : ∀ visited ∈ states step state inputs, Invariant visited :=
  @states_invariant_of_harmless _ _ _ step _ (fun _ _ => True)
    (fun state input held _ => preserved state input held) state inputs initial fun _ _ => trivial

theorem arrivals_invariant : ∀ arrival ∈ arrivals step state inputs, Invariant arrival.1 := by
  induction inputs generalizing state with
  | nil =>
    intro arrival listed
    cases listed
  | cons input inputs ih =>
    rw [arrivals, forall_mem_cons]
    exact ⟨initial, ih _ (preserved state input initial)⟩

end

/-- Where a step keeps a property exactly if its input is harmless, a run does so exactly if
all its inputs are. -/
theorem states_hold_iff {Invariant Holds : State → Prop}
    (preserved : ∀ state input, Invariant state → Invariant (step state input).2)
    (kept : ∀ state input, Invariant state → Holds state →
      (Holds (step state input).2 ↔ Harmless state input))
    (state : State) (inputs : List Input) (initial : Invariant state) :
    (∀ visited ∈ states step state inputs, Holds visited) ↔
      Holds state ∧ ∀ arrival ∈ arrivals step state inputs, Harmless arrival.1 arrival.2 := by
  induction inputs generalizing state with
  | nil => simp only [states, arrivals, List.mem_singleton, forall_eq, List.not_mem_nil,
      false_implies, implies_true, and_true]
  | cons input inputs ih =>
    rw [states, arrivals, forall_mem_cons, forall_mem_cons, ih _ (preserved state input initial)]
    constructor
    · intro held
      exact ⟨held.1, (kept state input initial held.1).mp held.2.1, held.2.2⟩
    · intro harmless
      exact ⟨harmless.1, (kept state input initial harmless.1).mpr harmless.2.1, harmless.2.2⟩

/-- What a step gains is in the content behind it unless the step gives it out, and so along a
run. -/
theorem conserved {Item : Type*} {content : State → List Item} {gained : State → Input → List Item}
    {given : Output → List Item}
    (each : ∀ state input, content state ++ gained state input =
      given (step state input).1 ++ content (step state input).2)
    (state : State) (inputs : List Input) :
    content state ++ (arrivals step state inputs).flatMap (fun arrival => gained arrival.1 arrival.2) =
      (outputs step state inputs).flatMap given ++ content (final step state inputs) := by
  induction inputs generalizing state with
  | nil => simp [arrivals, outputs, run]
  | cons input inputs ih =>
    rw [arrivals, List.flatMap_cons, ← List.append_assoc, each, List.append_assoc, ih, outputs_cons,
      List.flatMap_cons, List.append_assoc, final_cons]

theorem final_project {Whole : Type*} {instrumented : Whole → Input → Output × Whole}
    {project : Whole → State}
    (same : ∀ whole input, project (instrumented whole input).2 = (step (project whole) input).2)
    (whole : Whole) (inputs : List Input) :
    project (final instrumented whole inputs) = final step (project whole) inputs := by
  induction inputs generalizing whole with
  | nil => rfl
  | cons input inputs ih => rw [final_cons, final_cons, ih, same]

end Transducer
