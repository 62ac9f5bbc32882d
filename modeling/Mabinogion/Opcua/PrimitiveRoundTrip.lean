import Mabinogion.Opcua.BinaryCodec
import Mathlib.Algebra.BigOperators.Group.List.Basic

/-!
# Primitive types read back

A codec is lawful when it reads back every regular value that fits the wire, returns
nothing that does not fit, and knows the number of its bytes. What fits is decided by
the `i32` lengths.
-/

namespace Mabinogion.Opcua

open Checked ByteCursor UInt32 Int32 Int64 DateTime Vector LittleEndian UInt16 Int Yields Utf8
open List (length_append)

abbrev Always {Value : Type} (_value : Value) : Prop := True

structure LawfulCodec (Value : Type) [BinaryEncodable Value] [BinaryDecodable Value]
    (Regular Fits : Value → Prop) : Prop where
  reads : ∀ value, Regular value → Fits value → Reads decode (encode value) value
  yields : Yields decode Fits
  size : ∀ value : Value, encodedSize value = (encode value).length

section

variable {Result : Type} {next : Unit → Decoder Result} {bytes : Bytes} {result : Result}

theorem ensureRemaining_ok {n : Nat} {data : Bytes} (enough : n ≤ data.length) :
    ensureRemaining n data = .ok () data := by
  have long : decide (data.length < n) = false := decide_eq_false (Nat.not_lt.mpr enough)
  exact failIf_ok data _ long

theorem reads_ensured {n : Nat} (right : Reads (next ()) bytes result)
    (enough : n ≤ bytes.length) : Reads (ensureRemaining n >>= next) bytes result := by
  apply Reads.checked _ right
  intro rest
  apply ensureRemaining_ok
  rw [length_append]
  exact enough.trans (Nat.le_add_right _ _)

end

section

variable {Value : Type} {bytes : Bytes} {absent value : Value} {read : Decoder Value}

theorem reads_fieldOr_absent : Reads (fieldOr false absent read) [] absent := Reads.pure absent

theorem yields_fieldOr {Good : Value → Prop} (present : Bool) (none : Good absent)
    (yields : Yields read Good) : Yields (fieldOr present absent read) Good := by
  cases present with
  | false => exact pure none
  | true => exact yields

end

section

variable {Value : Type}

theorem lawful_fixedWidth {width : Nat} {toNat : Value → Nat} {ofNat : Nat → Value}
    (bounded : ∀ value, toNat value < 256 ^ width) (back : ∀ value, ofNat (toNat value) = value) :
    @LawfulCodec Value (fixedWidthEncodable width toNat) (fixedWidthDecodable width ofNat)
      Always Always := by
  refine @LawfulCodec.mk _ (_) (_) _ _ ?_ (any _) ?_
  · intro value _ _
    have read := (@reads_getLe OpcUaError width _ (bounded value)).map ofNat
    rw [back] at read
    have enough : width ≤ (bytes width (toNat value)).length := by
      rw [bytes_length]
    exact reads_ensured read enough
  · intro value
    exact (bytes_length width _).symm

theorem lawful_int8 : LawfulCodec Int8 Always Always := by
  apply lawful_fixedWidth
  · intro value
    exact value.toUInt8.toNat_lt
  · intro value
    rw [UInt8.ofNat_toNat, Int8.toInt8_toUInt8]

theorem lawful_uint8 : LawfulCodec UInt8 Always Always :=
  lawful_fixedWidth UInt8.toNat_lt fun _ => UInt8.ofNat_toNat

theorem lawful_int16 : LawfulCodec Int16 Always Always := by
  apply lawful_fixedWidth
  · intro value
    exact value.toUInt16.toNat_lt
  · intro value
    rw [UInt16.ofNat_toNat, Int16.toInt16_toUInt16]

theorem lawful_uint16 : LawfulCodec UInt16 Always Always :=
  lawful_fixedWidth toNat_lt fun _ => UInt16.ofNat_toNat

theorem lawful_int32 : LawfulCodec Int32 Always Always := by
  apply lawful_fixedWidth
  · intro value
    exact value.toUInt32.toNat_lt
  · intro value
    rw [UInt32.ofNat_toNat, toInt32_toUInt32]

theorem lawful_uint32 : LawfulCodec UInt32 Always Always :=
  lawful_fixedWidth toNat_lt fun _ => UInt32.ofNat_toNat

theorem lawful_int64 : LawfulCodec Int64 Always Always := by
  apply lawful_fixedWidth
  · intro value
    exact value.toUInt64.toNat_lt
  · intro value
    rw [UInt64.ofNat_toNat, toInt64_toUInt64]

theorem lawful_uint64 : LawfulCodec UInt64 Always Always :=
  lawful_fixedWidth UInt64.toNat_lt fun _ => UInt64.ofNat_toNat

theorem lawful_bool : LawfulCodec Bool Always Always := by
  constructor
  · intro value _ _
    apply reads_ensured _ (le_refl 1)
    intro rest
    cases value with
    | false | true => rfl
  · exact any _
  · intro value
    rfl

end

section

variable {Value : Type}

theorem putLength_length (length : Nat) : (putLength length).length = 4 :=
  (lawful_int32.size _).symm

variable {body : Nat → Decoder Value} {length : Nat}

theorem ofNat_not_neg (short : length < 2 ^ 31) : ¬Int32.ofNat length < 0 := by
  rw [Int32.lt_iff_toInt_lt, Int32.toInt_ofNat_of_lt short]
  exact not_lt.mpr (natCast_nonneg length)

theorem toNatClampNeg_ofNat (short : length < 2 ^ 31) :
    (Int32.ofNat length).toNatClampNeg = length := by
  rw [Int32.toNatClampNeg, Int32.toInt_ofNat_of_lt short, Int.toNat_natCast]

theorem toNatClampNeg_lt (len : Int32) : len.toNatClampNeg < 2 ^ 31 := by
  have bound := len.toInt_lt
  rw [Int32.toNatClampNeg]
  omega

theorem reads_lengthPrefixed {bytes : Bytes} {value : Value} (empty : Value)
    (short : length < 2 ^ 31) (read : Reads (body length) bytes value) :
    Reads (lengthPrefixed empty body) (putLength length ++ bytes) value := by
  apply (lawful_int32.reads (Int32.ofNat length) trivial trivial).bind
  rwa [if_neg (ofNat_not_neg short), toNatClampNeg_ofNat short]

theorem yields_lengthPrefixed {empty : Value} {Good : Value → Prop} (none : Good empty)
    (yields : ∀ length, length < 2 ^ 31 → Yields (body length) Good) :
    Yields (lengthPrefixed empty body) Good := by
  apply Yields.after
  intro len
  split_ifs
  · exact pure none
  · exact yields _ (toNatClampNeg_lt len)

end

def FitsLength (bytes : Bytes) : Prop := bytes.length < 2 ^ 31

theorem reads_decodeBytes {bytes : Bytes} (short : FitsLength bytes) :
    Reads decodeBytes (putLength bytes.length ++ bytes) bytes :=
  reads_lengthPrefixed [] short (reads_ensured (reads_copyToSlice bytes) (le_refl _))

theorem yields_copyToSlice (length : Nat) :
    Yields (copyToSlice length : Decoder Bytes) fun bytes => bytes.length = length := by
  intro data bytes rest returned
  unfold copyToSlice at returned
  split_ifs at returned with enough
  obtain ⟨same, _⟩ := Outcome.ok.inj returned
  rw [← same, List.length_take, Nat.min_eq_left enough]

theorem yields_decodeBytes : Yields decodeBytes FitsLength := by
  apply yields_lengthPrefixed
  · exact Nat.two_pow_pos 31
  · intro length short
    apply Yields.after
    intro _ data bytes rest returned
    have same := yields_copyToSlice length data bytes rest returned
    rwa [FitsLength, same]

theorem lawful_byteString : LawfulCodec Bytes Always FitsLength where
  reads _ _ short := reads_decodeBytes short
  yields := yields_decodeBytes
  size value := by
    show 4 + value.length = (putLength value.length ++ value).length
    rw [length_append, putLength_length]

def FitsText (text : String) : Prop := FitsLength (octets text)

theorem lawful_string : LawfulCodec String Always FitsText := by
  constructor
  · intro text _ short rest
    have bytes := reads_decodeBytes short rest
    have back : text? (octets text) = some text := text?_octets text
    refine (bind_ok bytes).trans ?_
    rw [back]
    rfl
  · have tail (bytes : Bytes) (short : FitsLength bytes) : Yields
        (liftOption (.codec "Invalid UTF-8") (text? bytes) : Decoder String) FitsText := by
      intro data text rest returned
      have decoded := (liftOption_eq_ok data rest returned).1
      rwa [FitsText, octets_of_text? decoded]
    exact yields_decodeBytes.bind tail
  · intro text
    show 4 + _ = (putLength _ ++ octets text).length
    rw [length_append, putLength_length]

/-- A whole number of ticks from 1970 on and before 2262. -/
def DateTime.OnTicks (date : DateTime) : Prop :=
  date.nanos % 100 = 0 ∧ 0 ≤ date.nanos ∧ date.nanos < 9214646400 * 1000000000

theorem unixEpoch_onTicks : unixEpoch.OnTicks :=
  (by decide : (0 : Int) % 100 = 0 ∧ (0 : Int) ≤ 0 ∧ (0 : Int) < 9214646400 * 1000000000)

theorem checkedI64_ok {result : Int} (lower : -2 ^ 63 ≤ result) (upper : result < 2 ^ 63)
    (data : Bytes) : checkedI64 result data = .ok result data := by
  rw [checkedI64, if_pos ⟨lower, upper⟩]
  rfl

variable {date : DateTime}

theorem timestampOpt_eq_some_iff {secs : Int} {nsecs : UInt32} :
    timestampOpt secs nsecs = some date ↔
      nsecs.toNat < 1000000000 ∧ secs * 1000000000 + nsecs.toNat = date.nanos := by
  obtain ⟨nanos, range⟩ := date
  rw [timestampOpt]
  split
  · grind
  · simp_all

theorem toNat_ofInt {value : Int} (lower : -2 ^ 32 ≤ value) (upper : value < 2 ^ 32) :
    ((UInt32.ofInt value).toNat : Int) = if value < 0 then value + 2 ^ 32 else value := by
  have small : (value % 2 ^ 32).toNat < UInt32.size := by
    simp only [UInt32.size]
    omega
  rw [UInt32.ofInt, UInt32.toNat_ofNat_of_lt' small]
  omega

def unixTicks (ticks : Int64) : Int := ticks.toInt - filetimeUnixDiff

variable {ticks : Int64}

theorem tmod_bounds (ticks : Int) : -10000000 < ticks.tmod 10000000 ∧
    ticks.tmod 10000000 < 10000000 ∧ (0 ≤ ticks.tmod 10000000 ↔ 0 ≤ ticks ∨ ticks % 10000000 = 0) ∧
    10000000 * ticks.tdiv 10000000 + ticks.tmod 10000000 = ticks := by
  have whole := mul_tdiv_add_tmod ticks 10000000
  have part := @Int.tmod_eq_emod ticks 10000000
  split at part
  · omega
  · omega

theorem reads_ticks (positive : 0 < ticks.toInt) : Reads decode (encode ticks) date ↔
    timestampOpt ((unixTicks ticks).tdiv 10000000)
      (UInt32.ofInt ((unixTicks ticks).tmod 10000000 * 100)) = some date := by
  have above : ¬ticks ≤ 0 := by
    rw [Int64.le_iff_toInt_le]
    exact not_le.mpr positive
  have shift : unixTicks ticks = ticks.toInt - 116444736000000000 := rfl
  have upper := ticks.toInt_lt
  have bounds := tmod_bounds (unixTicks ticks)
  have decoded (rest : Bytes) : decode (encode ticks ++ rest) =
      liftOption (.codec ("Invalid DateTime ticks: " ++ toString ticks.toInt))
        (timestampOpt ((unixTicks ticks).tdiv 10000000)
          (UInt32.ofInt ((unixTicks ticks).tmod 10000000 * 100))) rest := by
    refine (bind_ok (lawful_int64.reads _ trivial trivial rest)).trans ?_
    rw [if_neg above, ← unixTicks, bind_ok (checkedI64_ok (by omega) (by omega) rest)]
    exact bind_ok (checkedI64_ok (by omega) (by omega) rest)
  constructor
  · intro reads
    exact (liftOption_eq_ok _ _ ((decoded []).symm.trans (reads []))).1
  · intro found rest
    rw [decoded, found]
    rfl

theorem reads_ticks_iff (positive : 0 < ticks.toInt) : Reads decode (encode ticks) date ↔
    date.nanos = 100 * unixTicks ticks ∧ (0 ≤ unixTicks ticks ∨ unixTicks ticks % 10000000 = 0) := by
  have bounds := tmod_bounds (unixTicks ticks)
  have cast := @toNat_ofInt ((unixTicks ticks).tmod 10000000 * 100) (by omega) (by omega)
  rw [reads_ticks positive, timestampOpt_eq_some_iff]
  split at cast
  · omega
  · omega

theorem encode_ticks_iff (same : date.nanos = 100 * unixTicks ticks) :
    encode date = encode ticks ↔ -2 ^ 63 ≤ date.nanos ∧ date.nanos < 2 ^ 63 := by
  have written : encode date =
      encode (Int64.ofInt ((date.timestampNanosOpt.getD 0).tdiv 100 + filetimeUnixDiff)) := rfl
  rw [written, timestampNanosOpt]
  by_cases inside : -2 ^ 63 ≤ date.nanos ∧ date.nanos < 2 ^ 63
  · rw [if_pos inside, Option.getD_some, same, mul_tdiv_cancel_left _ (by decide), unixTicks,
      Int.sub_add_cancel, Int64.ofInt_toInt]
    exact iff_of_true rfl (same ▸ inside)
  · rw [if_neg inside]
    refine iff_of_false (fun equal => inside ?_) inside
    have epoch := lawful_int64.reads (Int64.ofInt filetimeUnixDiff) trivial trivial []
    have again := lawful_int64.reads ticks trivial trivial []
    rw [← equal] at again
    injection again.symm.trans epoch with value
    rw [same, value]
    decide

theorem lawful_dateTime : LawfulCodec DateTime OnTicks Always := by
  constructor
  · intro date regular _
    obtain ⟨whole, lower, upper⟩ := regular
    have shift : filetimeUnixDiff = 116444736000000000 := rfl
    have back : (Int64.ofInt (date.nanos / 100 + filetimeUnixDiff)).toInt =
        date.nanos / 100 + filetimeUnixDiff := toInt_ofInt_of_le (by omega) (by omega)
    have same :
        date.nanos = 100 * unixTicks (Int64.ofInt (date.nanos / 100 + filetimeUnixDiff)) := by
      rw [unixTicks, back]
      omega
    rw [(encode_ticks_iff same).mpr (by omega), reads_ticks_iff (by omega)]
    exact ⟨same, .inl (by omega)⟩
  · exact any _
  · intro date
    rfl

/-- An instant at these ticks is written as them and read from them, and they decode to an instant
that is written as them. -/
def ExactAt (ticks : Int64) : Prop :=
  (∀ date : DateTime, date.nanos = 100 * unixTicks ticks →
    encode date = encode ticks ∧ Reads decode (encode ticks) date) ∧
  ∃ date : DateTime, Reads decode (encode ticks) date ∧ encode date = encode ticks

/-- The nanoseconds fit an `i64`, and an instant before 1970 is a whole second. -/
abbrev Exchangeable (ticks : Int64) : Prop :=
  (-2 ^ 63 ≤ 100 * unixTicks ticks ∧ 100 * unixTicks ticks < 2 ^ 63) ∧
    (0 ≤ unixTicks ticks ∨ unixTicks ticks % 10000000 = 0)

theorem ExactAt.exchangeable (exact : ExactAt ticks) (positive : 0 < ticks.toInt) :
    Exchangeable ticks := by
  obtain ⟨-, date, reads, writes⟩ := exact
  obtain ⟨same, regular⟩ := (reads_ticks_iff positive).mp reads
  rw [encode_ticks_iff same, same] at writes
  exact ⟨writes, regular⟩

/-- The ticks that are exchanged without loss. -/
theorem exactAt_iff (ticks : Int64) (positive : 0 < ticks) :
    ExactAt ticks ↔ Exchangeable ticks := by
  have above : 0 < ticks.toInt := Int64.lt_iff_toInt_lt.mp positive
  refine ⟨fun exact => exact.exchangeable above, ?_⟩
  rintro ⟨inside, regular⟩
  have exact (date : DateTime) (same : date.nanos = 100 * unixTicks ticks) :
      encode date = encode ticks ∧ Reads decode (encode ticks) date :=
    ⟨(encode_ticks_iff same).mpr (same ▸ inside), (reads_ticks_iff above).mpr ⟨same, regular⟩⟩
  have range : minNanos ≤ 100 * unixTicks ticks ∧ 100 * unixTicks ticks ≤ maxNanos := by
    rw [minNanos, maxNanos]
    omega
  exact ⟨exact, ⟨_, range⟩, (exact ⟨_, range⟩ rfl).symm⟩

theorem unixEpoch_exactAt : (0 : Int64) < 116444736000000000 ∧ ExactAt 116444736000000000 :=
  ⟨by decide, (exactAt_iff _ (by decide)).mpr (by decide)⟩

/-- The last tick before 1970, and one in 2263. -/
theorem ticks_not_exactAt : ¬ExactAt 116444735999999999 ∧ ¬ExactAt 209000000000000000 :=
  ⟨fun exact => absurd (exact.exchangeable (by decide)) (by decide),
    fun exact => absurd (exact.exchangeable (by decide)) (by decide)⟩

variable (value : Uuid)

theorem ofFn_toList :
    (Vector.ofFn fun index : Fin 8 => value.d4.toList.getD index.val 0) = value.d4 := by
  apply Vector.ext
  intro index inside
  rw [getElem_ofFn]
  simp [List.getD_eq_getElem?_getD, inside]

theorem encode_uuid :
    encode value = encode value.d1 ++ (encode value.d2 ++ (encode value.d3 ++ value.d4.toList)) := by
  show encode value.d1 ++ encode value.d2 ++ encode value.d3 ++ value.d4.toList = _
  rw [List.append_assoc, List.append_assoc]

theorem encode_uuid_length : (encode value).length = 16 := by
  rw [encode_uuid]
  simp only [length_append, ← lawful_uint32.size, ← lawful_uint16.size, length_toList]
  rfl

theorem lawful_uuid : LawfulCodec Uuid Always Always := by
  constructor
  · intro value _ _
    apply reads_ensured _ (Nat.le_of_eq (encode_uuid_length value).symm)
    have copied : Reads (copyToSlice 8 : Decoder Bytes) value.d4.toList value.d4.toList := by
      have whole := @reads_copyToSlice OpcUaError value.d4.toList
      rwa [length_toList] at whole
    have first : Reads (getLe 4 : Decoder Nat) (encode value.d1) value.d1.toNat :=
      reads_getLe value.d1.toNat_lt
    have second : Reads (getLe 2 : Decoder Nat) (encode value.d2) value.d2.toNat :=
      reads_getLe value.d2.toNat_lt
    have third : Reads (getLe 2 : Decoder Nat) (encode value.d3) value.d3.toNat :=
      reads_getLe value.d3.toNat_lt
    have back : (⟨ofNat value.d1.toNat, ofNat value.d2.toNat, ofNat value.d3.toNat,
        ofFn fun index => value.d4.toList.getD index.val 0⟩ : Uuid) = value := by
      rw [UInt32.ofNat_toNat, UInt16.ofNat_toNat, UInt16.ofNat_toNat, ofFn_toList]
    rw [encode_uuid]
    apply first.bind
    apply second.bind
    apply third.bind
    have last := copied.map fun d4 => (⟨ofNat value.d1.toNat, ofNat value.d2.toNat,
      ofNat value.d3.toNat, ofFn fun index => d4.getD index.val 0⟩ : Uuid)
    rwa [back] at last
  · exact any _
  · intro value
    exact (encode_uuid_length value).symm

section

variable {Value : Type} [BinaryEncodable Value] [BinaryDecodable Value]
  {Regular Fits : Value → Prop}

def FitsArray (Fits : Value → Prop) (items : List Value) : Prop :=
  items.length < 2 ^ 31 ∧ ∀ item ∈ items, Fits item

section

variable (lawful : LawfulCodec Value Regular Fits)

include lawful

theorem reads_decodeArray {items : List Value} (regular : ∀ item ∈ items, Regular item)
    (fits : FitsArray Fits items) : Reads decodeArray (encodeArray items) items := by
  apply reads_lengthPrefixed [] fits.1
  apply reads_readMany
  intro item member
  exact lawful.reads item (regular item member) (fits.2 item member)

theorem yields_decodeArray : Yields decodeArray (FitsArray Fits) := by
  apply yields_lengthPrefixed
  · exact ⟨Nat.two_pow_pos 31, by simp⟩
  · intro length short data items rest returned
    obtain ⟨count, fits⟩ := lawful.yields.readMany length data items rest returned
    exact ⟨count ▸ short, fits⟩

theorem encodeArray_length (items : List Value) :
    (encodeArray items).length = 4 + (items.map encodedSize).sum := by
  rw [encodeArray, length_append, putLength_length, List.length_flatMap]
  have same : (encodedSize : Value → Nat) = fun item => (encode item).length := funext lawful.size
  rw [same]

omit [BinaryDecodable Value] lawful in
theorem sum_encodedSize {size : Nat} (fixed : ∀ item : Value, encodedSize item = size)
    (items : List Value) : (items.map encodedSize).sum = items.length * size := by
  have same : (encodedSize : Value → Nat) = fun _ => size := funext fixed
  rw [same, List.map_const', List.sum_replicate, Nat.nsmul_eq_mul]

end

end

end Mabinogion.Opcua
