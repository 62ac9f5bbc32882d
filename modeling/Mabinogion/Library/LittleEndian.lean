import Mathlib.Algebra.Order.Ring.Nat

/-!
# Little-endian numbers

The low bytes of a number with the least significant first, and the number that
a byte string spells.
-/

namespace LittleEndian

def bytes : Nat → Nat → List UInt8
  | 0, _ => []
  | width + 1, value => UInt8.ofNat value :: bytes width (value / 256)

def value : List UInt8 → Nat
  | [] => 0
  | digit :: digits => digit.toNat + 256 * value digits

@[simp] theorem bytes_length (width number : Nat) : (bytes width number).length = width := by
  induction width generalizing number with
  | zero => rfl
  | succ width ih => simp [bytes, ih]

theorem value_bytes (width number : Nat) : value (bytes width number) = number % 256 ^ width := by
  induction width generalizing number with
  | zero => simp [bytes, value, Nat.mod_one]
  | succ width ih =>
    have split : number % 256 ^ (width + 1) =
        number % 256 + 256 * (number / 256 % 256 ^ width) := by
      rw [pow_succ, Nat.mul_comm, Nat.mod_mul]
    rw [bytes, value, ih, split, UInt8.toNat_ofNat']

theorem value_bytes_of_lt (width number : Nat) (fits : number < 256 ^ width) :
    value (bytes width number) = number := by
  rw [value_bytes, Nat.mod_eq_of_lt fits]

end LittleEndian
