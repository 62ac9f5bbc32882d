import Mabinogion.Library.ExactRead
import Mabinogion.Library.Triple

/-!
# Guarded reads

A read that looks at the length first does not fault and leaves a suffix. The number of bytes
known to be ahead is part of the condition, so that a check and the reads behind it fit.
-/

namespace ByteCursor

open Checked

variable {Error Value Result : Type} {whole : Bytes} {count left : Nat}

/-- So many bytes are ahead, at the end of the whole. -/
def Ahead (whole : Bytes) (count : Nat) (data : Bytes) : Prop :=
  count ≤ data.length ∧ data <:+ whole

/-- The read ends without a fault, and inside of what it was given. -/
def StaysInside (read : Cursor Error Value) : Prop := ∀ whole, Keeps (Ahead whole 0) read

theorem Ahead.drop {data : Bytes} (ahead : Ahead whole (count + left) data) :
    Ahead whole left (data.drop count) := by
  constructor
  · rw [List.length_drop]
    have enough := ahead.1
    omega
  · exact (List.drop_suffix count data).trans ahead.2

theorem copyToSlice_ahead (count left : Nat) :
    Triple (Ahead whole (count + left)) (copyToSlice count : Cursor Error Bytes)
      (fun _ => Ahead whole left) (Ahead whole 0) := by
  intro data ahead
  rw [copyToSlice_ok (Nat.le_of_add_right_le ahead.1)]
  exact ahead.drop

theorem getU8_ahead (left : Nat) :
    Triple (Ahead whole (1 + left)) (getU8 : Cursor Error UInt8) (fun _ => Ahead whole left)
      (Ahead whole 0) := by
  intro data ahead
  cases data with
  | nil =>
    have enough := ahead.1
    rw [List.length_nil] at enough
    omega
  | cons => exact ahead.drop

theorem getLe_ahead (count left : Nat) :
    Triple (Ahead whole (count + left)) (getLe count : Cursor Error Nat) (fun _ => Ahead whole left)
      (Ahead whole 0) :=
  (copyToSlice_ahead count left).bind fun _ => .pure fun _ ahead => ahead

variable {read : Cursor Error Value}

/-- A read behind the check for its bytes. -/
theorem StaysInside.guarded {check : Cursor Error Unit}
    (checked : ∀ whole, Triple (Ahead whole 0) check (fun _ => Ahead whole count) (Ahead whole 0))
    (reads : ∀ whole, Triple (Ahead whole count) read (fun _ => Ahead whole 0) (Ahead whole 0)) :
    StaysInside (check >>= fun _ => read) := by
  intro whole
  exact (checked whole).bind fun _ => reads whole

namespace StaysInside

theorem pure (value : Value) : StaysInside (Pure.pure value : Cursor Error Value) :=
  fun _ => .pure fun _ ahead => ahead

theorem fail (error : Error) : StaysInside (fail error : Cursor Error Value) :=
  fun _ => .fail fun _ ahead => ahead

theorem bind {first : Cursor Error Value} {next : Value → Cursor Error Result}
    (head : StaysInside first) (tail : ∀ value, StaysInside (next value)) :
    StaysInside (first >>= next) := by
  intro whole
  exact (head whole).bind fun value => tail value whole

theorem map {first : Cursor Error Value} (head : StaysInside first) (view : Value → Result) :
    StaysInside (first >>= fun value => Pure.pure (view value)) :=
  head.bind fun value => pure (view value)

theorem rest : StaysInside (rest : Cursor Error Bytes) :=
  fun _ => .gets fun _ ahead => ahead

theorem failIf (condition : Bool) (error : Error) :
    StaysInside (failIf condition error : Cursor Error Unit) := by
  cases condition with
  | true => exact fail error
  | false => exact pure ()

theorem liftOption (error : Error) (option : Option Value) :
    StaysInside (liftOption error option : Cursor Error Value) := by
  cases option with
  | none => exact fail error
  | some value => exact pure value

theorem ite {condition : Prop} [Decidable condition] {yes no : Cursor Error Value}
    (positive : condition → StaysInside yes) (negative : ¬condition → StaysInside no) :
    StaysInside (if condition then yes else no) := by
  intro whole
  exact .ite (fun holds => positive holds whole) (fun fails => negative fails whole)

theorem optionally (present : Bool) (inside : StaysInside read) :
    StaysInside (optionally present read) := by
  cases present with
  | false => exact pure none
  | true => exact inside.map some

theorem readMany (inside : StaysInside read) (count : Nat) : StaysInside (readMany read count) := by
  induction count with
  | zero => exact pure []
  | succ count ih => exact inside.bind fun value => ih.map (value :: ·)

end StaysInside

theorem StaysInside.returns (inside : StaysInside read) (data : Bytes) :
    (∃ value rest, read data = .ok value rest ∧ rest <:+ data) ∨ ∃ error rest, read data =
      .err error rest := by
  have ends := inside data data ⟨Nat.zero_le _, List.suffix_refl data⟩
  cases ran : read data with
  | ok value rest =>
    rw [ran] at ends
    exact Or.inl ⟨value, rest, rfl, ends.2⟩
  | err error rest => exact Or.inr ⟨error, rest, rfl⟩
  | fault =>
    rw [ran] at ends
    exact ends.elim

end ByteCursor
