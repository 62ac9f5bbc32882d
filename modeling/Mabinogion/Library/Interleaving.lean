import Mathlib.Data.List.Perm.Basic

/-!
# Interleavings

Tasks that share a state take turns in any order. Where each turn ends its task, they
run as if one after the other.
-/

namespace Interleaving

variable {Item Task State : Type} (next : Task → State → Option Task × State)

/-- A step and as many more, until none is left of the task. -/
def turn : Nat → Task → State → Option Task × State
  | 0, task, state => next task state
  | more + 1, task, state =>
    match next task state with
    | (none, after) => (none, after)
    | (some rest, after) => turn more rest after

/-- Each entry of the schedule names a task and the steps of its turn after the first. -/
def run : List (Nat × Nat) → List Task → State → List Task × State
  | [], tasks, state => (tasks, state)
  | (index, more) :: schedule, tasks, state =>
    match tasks[index]? with
    | none => run schedule tasks state
    | some task =>
      match turn next more task state with
      | (none, after) => run schedule (tasks.eraseIdx index) after
      | (some rest, after) => run schedule (tasks.set index rest) after

variable {next}

theorem run_serial {start : Item → Task} {apply : State → Item → State}
    {schedule : List (Nat × Nat)} {items : List Item} {state : State}
    (ends : ∀ entry ∈ schedule, ∀ item state,
      turn next entry.2 (start item) state = (none, apply state item))
    (finished : (run next schedule (items.map start) state).1 = []) :
    ∃ order : List Item, order.Perm items ∧
      order.foldl apply state = (run next schedule (items.map start) state).2 := by
  induction schedule generalizing items state with
  | nil => exact ⟨[], List.map_eq_nil_iff.mp finished ▸ .refl _, rfl⟩
  | cons entry schedule ih =>
    obtain ⟨index, more⟩ := entry
    obtain ⟨once, later⟩ := List.forall_mem_cons.mp ends
    cases named : items[index]? with
    | none =>
      rw [run, List.getElem?_map, named] at finished ⊢
      exact ih later finished
    | some item =>
      -- The item whose step comes first is the first of the order.
      obtain ⟨inside, rfl⟩ := List.getElem?_eq_some_iff.mp named
      simp only [run, List.getElem?_map, named, Option.map_some, once,
        List.eraseIdx_map] at finished ⊢
      obtain ⟨order, perm, reached⟩ := ih later finished
      exact ⟨items[index] :: order, (perm.cons _).trans (List.getElem_cons_eraseIdx_perm inside),
        reached⟩

end Interleaving
