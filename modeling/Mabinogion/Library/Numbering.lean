import Mathlib.Logic.Function.Iterate
import Mathlib.Data.List.Basic

/-!
# Numbered items

Items that carry the numbers of a counter, one after the other. The counter is
any type with a next number, so it may wrap.
-/

namespace Numbering

variable {Item Number : Type*} (number : Item → Number) (next : Number → Number)

/-- The items carry the numbers from the first one on. -/
def Numbered : Number → List Item → Prop
  | _, [] => True
  | first, item :: items => number item = first ∧ Numbered (next first) items

def behind (first : Number) (items : List Item) : Number := next^[items.length] first

variable {number next} {first : Number} {items more : List Item}

theorem behind_cons (item : Item) :
    behind next first (item :: items) = behind next (next first) items :=
  rfl

theorem behind_append :
    behind next first (items ++ more) = behind next (behind next first items) more := by
  induction items generalizing first with
  | nil => rfl
  | cons item items ih =>
    rw [List.cons_append, behind_cons, behind_cons]
    exact ih

theorem Numbered.append (front : Numbered number next first items)
    (back : Numbered number next (behind next first items) more) :
    Numbered number next first (items ++ more) := by
  induction items generalizing first with
  | nil => exact back
  | cons item items ih => exact ⟨front.1, ih front.2 back⟩

theorem Numbered.getElem (numbered : Numbered number next first items) {index : Nat}
    (inside : index < items.length) : number items[index] = next^[index] first := by
  induction items generalizing first index with
  | nil => simp at inside
  | cons item items ih =>
    cases index with
    | zero => exact numbered.1
    | succ => exact ih numbered.2 (Nat.lt_of_succ_lt_succ inside)

/-- The counter of a store that holds items up to the newest. -/
def Counted (number : Item → Number) (next : Number → Number) (items : List Item)
    (counter : Number) : Prop :=
  ∃ first, Numbered number next first items ∧ behind next first items = counter

theorem counted_nil (counter : Number) : Counted number next [] counter :=
  ⟨counter, trivial, rfl⟩

theorem Counted.tail {counter : Number} (counted : Counted number next items counter) :
    Counted number next items.tail counter := by
  obtain ⟨first, numbered, same⟩ := counted
  cases items with
  | nil => exact ⟨first, numbered, same⟩
  | cons => exact ⟨next first, numbered.2, same⟩

theorem Counted.concat {counter : Number} {item : Item}
    (counted : Counted number next items counter) (fresh : number item = counter) :
    Counted number next (items ++ [item]) (next counter) := by
  obtain ⟨first, numbered, same⟩ := counted
  refine ⟨first, numbered.append ⟨?_, trivial⟩, ?_⟩
  · rw [fresh, same]
  · rw [behind_append, same]
    rfl

end Numbering
