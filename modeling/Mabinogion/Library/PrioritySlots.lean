import Mathlib.Data.Fin.Basic
import Mathlib.Logic.Function.Basic

/-!
# Priority slots

A value is commanded through a fixed number of slots. The occupied slot with the
lowest number decides, and a default does when no slot is occupied.
-/

namespace PrioritySlots

open Vector Function

variable {Value : Type*} {count : Nat}

def active (slots : Vector (Option Value) count) (default : Value) : Value :=
  (slots.toList.findSome? id).getD default

/-- What it means that a value is the commanded one. -/
def Commanded (slots : Vector (Option Value) count) (default value : Value) : Prop :=
  (∃ slot : Fin count, slots[slot] = some value ∧ ∀ earlier < slot, slots[earlier] = none) ∨
    (∀ slot : Fin count, slots[slot] = none) ∧ value = default

variable (slots : Vector (Option Value) count)

theorem commanded_active (default : Value) : Commanded slots default (active slots default) := by
  rw [active]
  cases found : slots.toList.findSome? id with
  | none =>
    right
    rw [List.findSome?_eq_none_iff] at found
    refine ⟨?_, rfl⟩
    intro slot
    exact found _ (mem_toList_iff.mpr (getElem_mem slot.isLt))
  | some =>
    left
    obtain ⟨before, entry, after, split, occupied, empty⟩ :=
      List.findSome?_eq_some_iff.mp found
    have size : slots.toList.length = count := length_toList
    have place : before.length < count := by
      rw [← size, split, List.length_append, List.length_cons]
      omega
    have entries (index : Nat) (inside : index < count) :
        some slots[index] = (before ++ entry :: after)[index]? := by
      rw [← split, List.getElem?_eq_getElem (by omega), getElem_toList]
    refine ⟨⟨before.length, place⟩, ?_, ?_⟩
    · have here := entries before.length place
      rw [List.getElem?_append_right (Nat.le_refl _), Nat.sub_self, List.getElem?_cons_zero] at here
      exact (Option.some.inj here).trans occupied
    · intro earlier early
      have inside : earlier.val < before.length := early
      have here := entries earlier.val earlier.isLt
      rw [List.getElem?_append_left inside, List.getElem?_eq_getElem inside] at here
      exact (Option.some.inj here).trans (empty _ (List.getElem_mem inside))

/-- What holds of the default and of every slot's value holds of the commanded one. -/
theorem active_of_forall {Good : Value → Prop} {default : Value} (base : Good default)
    (each : ∀ value, some value ∈ slots → Good value) : Good (active slots default) := by
  rcases commanded_active slots default with ⟨slot, here, _⟩ | ⟨_, same⟩
  · apply each
    rw [← here]
    exact getElem_mem slot.isLt
  · rw [same]
    exact base

theorem get_set (slot : Fin count) (entry : Option Value) :
    (slots.set slot entry).get = update slots.get slot entry := by
  funext other
  by_cases equal : other = slot
  · rw [equal, update_self]
    exact getElem_set_self slot.isLt
  · rw [update_of_ne equal]
    exact getElem_set_ne slot.isLt other.isLt (fun values => equal (Fin.ext values.symm))

theorem get_eq_update_iff (slots changed : Vector (Option Value) count) (slot : Fin count)
    (entry : Option Value) :
    changed.get = update slots.get slot entry ↔ changed = slots.set slot entry := by
  rw [← get_set]
  constructor
  · intro same
    apply Vector.ext
    intro index inside
    exact congrFun same ⟨index, inside⟩
  · intro same
    rw [same]

theorem set_eq_set_iff (slot other : Fin count) (entry : Option Value) :
    slots.set slot entry = slots.set other entry ↔
      slot = other ∨ slots[slot] = entry ∧ slots[other] = entry := by
  constructor
  · intro same
    by_cases equal : slot = other
    · exact Or.inl equal
    · have different : slot.val ≠ other.val := fun values => equal (Fin.ext values)
      have atOther := congrArg (fun changed => changed[other]) same
      have atSlot := congrArg (fun changed => changed[slot]) same
      simp only [Fin.getElem_fin, getElem_set_self, getElem_set_ne _ _ different] at atOther
      simp only [Fin.getElem_fin, getElem_set_self, getElem_set_ne _ _ different.symm] at atSlot
      exact Or.inr ⟨atSlot.symm, atOther⟩
  · intro condition
    rcases condition with equal | ⟨atSlot, atOther⟩
    · rw [equal]
    · rw [Fin.getElem_fin] at atOther atSlot
      rw [← atOther, set_getElem_self, atOther, ← atSlot, set_getElem_self]

end PrioritySlots
