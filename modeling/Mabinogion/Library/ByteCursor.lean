import Mabinogion.Library.BigEndian
import Mabinogion.Library.Checked

/-!
# Byte cursors

A cursor over a byte string that is shortened from the front. A read beyond its end is a
fault. Each read takes back what the write of the same kind puts in front.
-/

namespace ByteCursor

open Checked BigEndian UInt16

variable {Error Value Result : Type}

abbrev Cursor (Error Value : Type) : Type := Checked Bytes Error Value

def getU8 : Cursor Error UInt8
  | byte :: rest => .ok byte rest
  | [] => .fault .indexOutOfRange

def getU16 : Cursor Error UInt16
  | high :: low :: rest => .ok (UInt16.ofNat (BigEndian.value [high, low])) rest
  | _ => .fault .indexOutOfRange

def copyToSlice (length : Nat) : Cursor Error Bytes := fun data =>
  if length ≤ data.length then .ok (data.take length) (data.drop length)
  else .fault .lengthMismatch

def putU16 (value : UInt16) : Bytes := BigEndian.bytes 2 value.toNat

def u16Of (high low : UInt8) : UInt16 := UInt16.ofNat (BigEndian.value [high, low])

/-- `&data[start..]`, with the cursor left where it is. -/
def sliceFrom (start : Nat) : Cursor Error Bytes := fun data =>
  if start ≤ data.length then .ok (data.drop start) data else .fault .indexOutOfRange

def rest : Cursor Error Bytes := gets id

/-- The error for a cursor that is shorter than the number. -/
def atLeast (length : Nat) (error : Error) : Cursor Error Unit := do
  let data ← rest
  failIf (data.length < length) error

/-- A read of other bytes, behind which the cursor stands where it was. -/
def onSlice (bytes : Bytes) (read : Cursor Error Value) : Cursor Error Value := fun data =>
  match read bytes with
  | .ok value _ => .ok value data
  | .err error _ => .err error data
  | .fault fault => .fault fault

def optionally (present : Bool) (read : Cursor Error Value) : Cursor Error (Option Value) :=
  if present then do
    let value ← read
    pure (some value)
  else pure none

def written (encode : Value → Bytes) : Option Value → Bytes
  | some value => encode value
  | none => []

variable {read : Cursor Error Value} {encode : Value → Bytes}

section

variable (data : Bytes)

theorem getU8_cons (byte : UInt8) : (getU8 : Cursor Error UInt8) (byte :: data) = .ok byte data :=
  rfl

variable (value : UInt16) {length : Nat} (high low : UInt8) (field : Option Value)

theorem getU16_putU16 : (getU16 : Cursor Error UInt16) (putU16 value ++ data) = .ok value data := by
  have spelled : BigEndian.value (putU16 value) = value.toNat :=
    value_bytes_of_lt 2 _ value.toNat_lt
  show Outcome.ok (ofNat (BigEndian.value (putU16 value))) data = .ok value data
  rw [spelled, UInt16.ofNat_toNat]

theorem putU16_ofNat : putU16 (UInt16.ofNat (BigEndian.value [high, low])) = [high, low] := by
  have bound := value_lt [high, low]
  have fits : BigEndian.value [high, low] < UInt16.size := by
    simp only [List.length_cons, List.length_nil] at bound
    omega
  rw [putU16, toNat_ofNat_of_lt' fits]
  exact bytes_value [high, low]

theorem putU16_u16Of : putU16 (u16Of high low) = [high, low] :=
  putU16_ofNat high low

theorem exists_u16Of : ∃ high low, putU16 value = [high, low] ∧ u16Of high low = value := by
  refine ⟨_, _, rfl, ?_⟩
  show ofNat (BigEndian.value (bytes 2 value.toNat)) = value
  rw [value_bytes_of_lt 2 _ value.toNat_lt, UInt16.ofNat_toNat]

theorem copyToSlice_ok {data : Bytes} (enough : length ≤ data.length) :
    (copyToSlice length : Cursor Error Bytes) data = .ok (data.take length) (data.drop length) := by
  rw [copyToSlice, if_pos enough]

theorem copyToSlice_append (bytes : Bytes) :
    (copyToSlice bytes.length : Cursor Error Bytes) (bytes ++ data) = .ok bytes data := by
  rw [copyToSlice_ok, List.take_left, List.drop_left]
  rw [List.length_append]
  exact Nat.le_add_right _ _

theorem onSlice_ok {bytes after : Bytes} {value : Value} (returned : read bytes = .ok value after) :
    onSlice bytes read data = .ok value data := by
  rw [onSlice, returned]

theorem atLeast_ok (error : Error) (enough : length ≤ data.length) :
    atLeast length error data = .ok () data := by
  have long : decide (data.length < length) = false := decide_eq_false (not_lt.mpr enough)
  show failIf (decide (data.length < length)) error data = .ok () data
  rw [long]
  rfl

theorem optionally_written {read : Cursor Error Result} (view : Value → Result)
    (field : Option Value)
    (reads : ∀ value ∈ field, read (encode value ++ data) = .ok (view value) data) :
    optionally field.isSome read (written encode field ++ data) = .ok (field.map view) data := by
  cases field with
  | none => rfl
  | some value => exact bind_ok (reads value rfl)

theorem optionally_written_self
    (reads : ∀ value ∈ field, read (encode value ++ data) = .ok value data) :
    optionally field.isSome read (written encode field ++ data) = .ok field data := by
  rw [optionally_written data id field reads, Option.map_id]
  rfl

theorem if_isSome_written :
    (if field.isSome then written encode field else []) = written encode field := by
  cases field with
  | none | some => rfl

end

variable {next : Bytes → Cursor Error Result}

section

/-- No fault where there are as many bytes as the number. -/
def Within (n : Nat) (read : Cursor Error Value) : Prop :=
  ∀ data, n ≤ data.length → ¬Faults read data

variable {n : Nat}

theorem within_of_safe (safe : Safe read) : Within n read :=
  fun data _ => safe data

theorem Within.getU8_bind {next : UInt8 → Cursor Error Result}
    (rest : ∀ byte, Within n (next byte)) : Within (n + 1) (getU8 >>= next) := by
  intro data enough
  match data with
  | [] => exact absurd enough (Nat.not_succ_le_zero n)
  | byte :: behind => exact rest byte behind (Nat.le_of_succ_le_succ enough)

theorem Within.getU16_bind {next : UInt16 → Cursor Error Result}
    (rest : ∀ value, Within n (next value)) : Within (n + 2) (getU16 >>= next) := by
  intro data enough
  match data with
  | [] => exact absurd enough (Nat.not_succ_le_zero _)
  | [_] => exact absurd (Nat.le_of_succ_le_succ enough) (Nat.not_succ_le_zero _)
  | high :: low :: behind =>
    exact rest (u16Of high low) behind (Nat.le_of_succ_le_succ (Nat.le_of_succ_le_succ enough))

theorem Within.failIf_bind {condition : Bool} {error : Error} {next : Unit → Cursor Error Result}
    (rest : Within n (next ())) : Within n (failIf condition error >>= next) := by
  intro data enough faulted
  exact rest data enough (faults_failIf_bind.mp faulted).2

theorem Within.liftOption_bind {error : Error} {option : Option Value}
    {next : Value → Cursor Error Result} (rest : ∀ value, Within n (next value)) :
    Within n (liftOption error option >>= next) := by
  intro data enough faulted
  rcases faults_liftOption_bind.mp faulted with ⟨value, _, later⟩
  exact rest value data enough later

theorem faults_rest_bind {data : Bytes} : Faults (rest >>= next) data ↔ Faults (next data) data :=
  faults_gets_bind

theorem faults_onSlice {bytes data : Bytes} :
    Faults (onSlice bytes read) data ↔ Faults read bytes := by
  unfold Faults onSlice
  cases read bytes with
  | ok | err | fault => simp

theorem onSlice_eq_ok {bytes data after : Bytes} {value : Value}
    (returned : onSlice bytes read data = .ok value after) :
    after = data ∧ ∃ left, read bytes = .ok value left := by
  unfold onSlice at returned
  cases ran : read bytes with
  | ok other left =>
    rw [ran] at returned
    injection returned with sameValue sameState
    exact ⟨sameState.symm, left, congrArg (Outcome.ok · left) sameValue⟩
  | err | fault => simp [ran] at returned

theorem Within.rest_bind (later : ∀ data, Within n (next data)) : Within n (rest >>= next) := by
  intro data enough faulted
  exact later data data enough (faults_rest_bind.mp faulted)

theorem Within.onSlice_bind {bytes : Bytes} {next : Value → Cursor Error Result} (safe : Safe read)
    (later : ∀ value, Within n (next value)) : Within n (onSlice bytes read >>= next) := by
  intro data enough faulted
  rw [faults_bind, faults_onSlice, or_iff_right (safe bytes)] at faulted
  rcases faulted with ⟨value, after, returned, fault⟩
  rw [(onSlice_eq_ok returned).1] at fault
  exact later value data enough fault

theorem Within.sliceFrom_bind {start : Nat} (inside : start ≤ n)
    (later : ∀ bytes, Within n (next bytes)) : Within n (sliceFrom start >>= next) := by
  intro data enough
  have ran : (sliceFrom start : Cursor Error Bytes) data = .ok (data.drop start) data :=
    if_pos (inside.trans enough)
  rw [Faults, bind_ok ran]
  exact later (data.drop start) data enough

theorem Within.checkedSub_bind {left right : Nat} {next : Nat → Cursor Error Result}
    (enough : right ≤ left) (later : Within n (next (left - right))) :
    Within n (checkedSub left right >>= next) := by
  intro data inside
  rw [Faults, bind_ok (checkedSub_ok data enough)]
  exact later data inside

theorem Within.copyToSlice_bind {length : Nat} (inside : length ≤ n)
    (later : ∀ bytes, Within (n - length) (next bytes)) : Within n (copyToSlice length >>= next) :=
    by
  intro data enough
  rw [Faults, bind_ok (copyToSlice_ok (inside.trans enough))]
  apply later
  rw [List.length_drop]
  exact Nat.sub_le_sub_right enough length

theorem Within.ite {condition : Prop} [Decidable condition] {yes no : Cursor Error Value}
    (left : condition → Within n yes) (right : ¬condition → Within n no) :
    Within n (if condition then yes else no) := by
  split_ifs with holds
  · exact left holds
  · exact right holds

end

end ByteCursor
