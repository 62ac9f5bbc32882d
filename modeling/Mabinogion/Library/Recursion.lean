import Mabinogion.Library.Checked

/-!
# Recursive computations

A recursive computation is given by its body and cut off at a depth of calls. A call that the
body answers is answered at every depth, one that the body only passes on to itself at none.
-/

namespace Checked

variable {State Error Input Value : Type}

abbrev Body (State Error Input Value : Type) : Type :=
  (Input → Checked State Error Value) → Input → Checked State Error Value

def callWithin (body : Body State Error Input Value) : Nat → Input → Checked State Error Value
  | 0, _ => raise .loopBound
  | depth + 1, input => body (callWithin body depth) input

variable {body : Body State Error Input Value} {input : Input}

theorem callWithin_answered {answer : Checked State Error Value}
    (answers : ∀ call, body call input = answer) (depth : Nat) :
    callWithin body (depth + 1) input = answer := by
  rw [callWithin, answers]

theorem callWithin_passedOn (passes : ∀ call, body call input = call input) (depth : Nat) :
    callWithin body depth input = raise .loopBound := by
  induction depth with
  | zero => rfl
  | succ depth ih => rw [callWithin, passes, ih]

end Checked
