import Mabinogion.Library.ByteCursor
import Mabinogion.Library.LittleEndian

/-!
# Exact reads

A read takes a value back from its bytes when it returns it and stands behind the bytes,
whatever follows. Reads of parts give the read of the whole, and conditions on what the parts
return one on what it returns.
-/

namespace ByteCursor

open Checked

variable {Error Value Result : Type}

def getLe (width : Nat) : Cursor Error Nat := do
  let bytes ← copyToSlice width
  pure (LittleEndian.value bytes)

def readMany (read : Cursor Error Value) : Nat → Cursor Error (List Value)
  | 0 => pure []
  | count + 1 => do
    let value ← read
    let values ← readMany read count
    pure (value :: values)

def Reads (read : Cursor Error Value) (bytes : Bytes) (value : Value) : Prop :=
  ∀ rest, read (bytes ++ rest) = .ok value rest

def Yields (read : Cursor Error Value) (Good : Value → Prop) : Prop :=
  ∀ data value rest, read data = .ok value rest → Good value

section

variable {read first : Cursor Error Value} {next : Value → Cursor Error Result}
  {bytes more : Bytes} {value : Value} {result : Result}

theorem Reads.pure (value : Value) : Reads (Pure.pure value : Cursor Error Value) [] value := by
  intro rest
  rfl

theorem Reads.bind (left : Reads first bytes value) (right : Reads (next value) more result) :
    Reads (first >>= next) (bytes ++ more) result := by
  intro rest
  rw [List.append_assoc, bind_ok (left (more ++ rest)), right rest]

theorem Reads.lastly (left : Reads first bytes value) (right : Reads (next value) [] result) :
    Reads (first >>= next) bytes result := by
  have whole := left.bind right
  rwa [List.append_nil] at whole

theorem Reads.map (left : Reads first bytes value) (view : Value → Result) :
    Reads (first >>= fun value => Pure.pure (view value)) bytes (view value) :=
  left.lastly (Reads.pure (view value))

variable {encode : Value → Bytes}

theorem reads_optionally {field : Option Value}
    (reads : ∀ value ∈ field, Reads read (encode value) value) :
    Reads (optionally field.isSome read) (written encode field) field := by
  intro rest
  exact optionally_written_self rest field fun value member => reads value member rest

theorem Reads.checked {check : Cursor Error Unit} {next : Unit → Cursor Error Result}
    (passes : ∀ rest, check (bytes ++ rest) = .ok () (bytes ++ rest))
    (right : Reads (next ()) bytes result) : Reads (check >>= next) bytes result := by
  intro rest
  rw [bind_ok (passes rest), right rest]

theorem reads_copyToSlice (bytes : Bytes) :
    Reads (copyToSlice bytes.length : Cursor Error Bytes) bytes bytes := by
  intro rest
  exact copyToSlice_append rest bytes

theorem reads_getLe {width number : Nat} (fits : number < 256 ^ width) :
    Reads (getLe width : Cursor Error Nat) (LittleEndian.bytes width number) number := by
  have copied : Reads (copyToSlice width : Cursor Error Bytes)
      (LittleEndian.bytes width number) (LittleEndian.bytes width number) := by
    have whole := @reads_copyToSlice Error (LittleEndian.bytes width number)
    rwa [LittleEndian.bytes_length] at whole
  have spelled := copied.map LittleEndian.value
  rwa [LittleEndian.value_bytes_of_lt width number fits] at spelled

theorem reads_readMany {values : List Value}
    (reads : ∀ value ∈ values, Reads read (encode value) value) :
    Reads (readMany read values.length) (values.flatMap encode) values := by
  induction values with
  | nil => exact Reads.pure []
  | cons value values ih =>
    have head := reads value List.mem_cons_self
    have tail := ih fun other member => reads other (List.mem_cons_of_mem value member)
    rw [List.flatMap_cons]
    exact head.bind (tail.map (value :: ·))

end

section

variable {read first : Cursor Error Value} {next : Value → Cursor Error Result}
  {Good : Value → Prop} {Fine : Result → Prop}

theorem Yields.pure {value : Value} (good : Good value) :
    Yields (Pure.pure value : Cursor Error Value) Good := by
  intro data other rest returned
  obtain ⟨same, _⟩ := Outcome.ok.inj returned
  rwa [← same]

theorem Yields.fail (error : Error) : Yields (fail error : Cursor Error Value) Good := by
  intro data value rest returned
  cases returned

theorem Yields.any (read : Cursor Error Value) : Yields read fun _ => True := by
  intro data value rest _
  trivial

theorem Yields.bind (left : Yields first Good)
    (right : ∀ value, Good value → Yields (next value) Fine) : Yields (first >>= next) Fine := by
  intro data result rest returned
  obtain ⟨value, middle, ran, ended⟩ := bind_eq_ok data rest returned
  exact right value (left data value middle ran) middle result rest ended

/-- What comes first does not matter. -/
theorem Yields.after (right : ∀ value, Yields (next value) Fine) : Yields (first >>= next) Fine :=
  (Yields.any first).bind fun value _ => right value

theorem Yields.map {view : Value → Result} (left : Yields first Good)
    (fine : ∀ value, Good value → Fine (view value)) :
    Yields (first >>= fun value => Pure.pure (view value)) Fine :=
  left.bind fun value good => Yields.pure (fine value good)

theorem Yields.optionally (yields : Yields read Good) (present : Bool) :
    Yields (optionally present read) fun field => ∀ value ∈ field, Good value := by
  cases present with
  | false => exact Yields.pure (by simp)
  | true => exact yields.map fun value good => by simpa using good

theorem Yields.readMany (yields : Yields read Good) (count : Nat) :
    Yields (ByteCursor.readMany read count) fun values =>
      values.length = count ∧ ∀ value ∈ values, Good value := by
  induction count with
  | zero => exact Yields.pure ⟨rfl, by simp⟩
  | succ count ih =>
    have tail (value : Value) (good : Good value) :
        Yields (ByteCursor.readMany read count >>= fun values => Pure.pure (value :: values))
          fun values => values.length = count + 1 ∧ ∀ value ∈ values, Good value :=
      ih.map fun values both =>
        ⟨by rw [List.length_cons, both.1], List.forall_mem_cons.mpr ⟨good, both.2⟩⟩
    exact yields.bind tail

end

end ByteCursor
