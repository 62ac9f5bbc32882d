import Mathlib.Data.Nat.Bitwise
import Mathlib.Algebra.Order.Ring.Nat
import Mathlib.Tactic.Ring

/-!
# Big-endian numbers

The low bytes of a number with the most significant first, and the number that
a byte string spells. A loop that shifts an accumulator of fixed width and adds
a byte computes the spelled number modulo that width.
-/

/-- Octets, in the order in which they are sent. -/
abbrev Bytes := List UInt8

namespace BigEndian

open List (length_cons foldl_cons)

def bytes : Nat → Nat → Bytes
  | 0, _ => []
  | width + 1, value => UInt8.ofNat (value / 256 ^ width) :: bytes width value

def value (digits : Bytes) : Nat :=
  digits.foldl (fun total digit => total * 256 + digit.toNat) 0

@[simp] theorem bytes_length (width number : Nat) : (bytes width number).length = width := by
  induction width with
  | zero => rfl
  | succ width ih => rw [bytes, length_cons, ih]

@[simp] theorem value_nil : value [] = 0 := rfl

variable (digits : Bytes)

theorem foldl_value (start : Nat) :
    digits.foldl (fun total digit => total * 256 + digit.toNat) start =
      start * 256 ^ digits.length + value digits := by
  induction digits generalizing start with
  | nil => simp
  | cons digit digits ih =>
    rw [value, foldl_cons, foldl_cons, ih, ih, length_cons]
    ring

theorem value_cons (digit : UInt8) (digits : Bytes) :
    value (digit :: digits) = digit.toNat * 256 ^ digits.length + value digits := by
  rw [value, foldl_cons, foldl_value]
  simp

theorem value_lt : value digits < 256 ^ digits.length := by
  induction digits with
  | nil => simp
  | cons digit digits =>
    have bound : digit.toNat + 1 ≤ 256 := digit.toNat_lt
    have scaled := Nat.mul_le_mul_right (256 ^ digits.length) bound
    rw [value_cons, length_cons, pow_succ]
    rw [add_mul, one_mul] at scaled
    omega

theorem value_bytes (width number : Nat) : value (bytes width number) = number % 256 ^ width := by
  induction width with
  | zero => simp [bytes, Nat.mod_one]
  | succ width ih =>
    have split : number % 256 ^ (width + 1) =
        number % 256 ^ width + 256 ^ width * (number / 256 ^ width % 256) := by
      rw [pow_succ, Nat.mod_mul]
    rw [bytes, value_cons, bytes_length, ih, UInt8.toNat_ofNat', split, add_comm, mul_comm]

theorem value_bytes_of_lt (width number : Nat) (fits : number < 256 ^ width) :
    value (bytes width number) = number := by
  rw [value_bytes, Nat.mod_eq_of_lt fits]

theorem value_injective (left right : Bytes) (lengths : left.length = right.length)
    (spelled : value left = value right) : left = right := by
  induction left generalizing right with
  | nil => exact (List.length_eq_zero_iff.mp lengths.symm).symm
  | cons digit digits ih =>
    cases right with
    | nil => cases lengths
    | cons other others =>
      have lengthsTail : digits.length = others.length := Nat.succ.inj lengths
      rw [value_cons, value_cons, ← lengthsTail] at spelled
      have leftBound := value_lt digits
      have rightBound := value_lt others
      rw [← lengthsTail] at rightBound
      have positive : 0 < 256 ^ digits.length := Nat.pow_pos (by decide)
      have heads : digit.toNat = other.toNat := by
        have quotient := congrArg (· / 256 ^ digits.length) spelled
        simp only [mul_comm _ (256 ^ digits.length), Nat.mul_add_div positive,
          Nat.div_eq_of_lt leftBound, Nat.div_eq_of_lt rightBound, add_zero] at quotient
        exact quotient
      rw [heads] at spelled
      rw [UInt8.toNat.inj heads, ih others lengthsTail (add_left_cancel spelled)]

theorem bytes_value : bytes digits.length (value digits) = digits := by
  apply value_injective
  · exact bytes_length _ _
  · exact value_bytes_of_lt _ _ (value_lt digits)

theorem bytes_drop {width kept : Nat} (number : Nat) (shorter : kept ≤ width) :
    (bytes width number).drop (width - kept) = bytes kept number := by
  induction width with
  | zero =>
    have none : kept = 0 := by omega
    subst none
    rfl
  | succ width ih =>
    by_cases whole : kept = width + 1
    · subst whole
      simp
    · have fewer : kept ≤ width := by omega
      rw [show width + 1 - kept = (width - kept) + 1 by omega, bytes, List.drop_succ_cons, ih fewer]

theorem shift_or_toNat (total : UInt32) (digit : UInt8) :
    ((total <<< 8) ||| digit.toUInt32).toNat = (total.toNat * 256 + digit.toNat) % 2 ^ 32 := by
  have low : digit.toNat < 2 ^ 8 := digit.toNat_lt
  rw [UInt32.toNat_or, UInt32.toNat_shiftLeft, UInt8.toNat_toUInt32]
  change (total.toNat <<< 8 % 2 ^ 32) ||| digit.toNat = _
  rw [Nat.shiftLeft_eq]
  have multiple : total.toNat * 2 ^ 8 % 2 ^ 32 = (total.toNat % 2 ^ 24) <<< 8 := by
    rw [Nat.shiftLeft_eq, show (2 : Nat) ^ 32 = 2 ^ 24 * 2 ^ 8 by rfl, Nat.mul_mod_mul_right]
  rw [multiple, ← Nat.shiftLeft_add_eq_or_of_lt low, Nat.shiftLeft_eq]
  omega

theorem accumulate_toNat (start : UInt32) :
    (digits.foldl (fun (total : UInt32) digit => (total <<< 8) ||| digit.toUInt32) start).toNat =
      (start.toNat * 256 ^ digits.length + value digits) % 2 ^ 32 := by
  induction digits generalizing start with
  | nil =>
    rw [List.foldl_nil, List.length_nil, pow_zero, mul_one, value_nil, add_zero]
    exact (Nat.mod_eq_of_lt start.toNat_lt).symm
  | cons digit digits ih =>
    rw [foldl_cons, ih, shift_or_toNat, value_cons, length_cons, Nat.add_mod, Nat.mod_mul_mod,
      ← Nat.add_mod]
    congr 1
    ring

end BigEndian
