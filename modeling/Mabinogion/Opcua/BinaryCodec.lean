import Mabinogion.Library.ExactRead
import Mabinogion.Library.Utf8
import Mabinogion.Opcua.Types

/-!
# The binary codec: primitive types

An encoder is the bytes that it appends. A decoder shortens its buffer from the front. Lengths
are written as `i32`, so that a text, a byte string or an array of `2 ^ 31` or more is not read
back.
-/

namespace Mabinogion.Opcua

open Checked ByteCursor

abbrev Decoder (Value : Type) : Type := Cursor OpcUaError Value

class BinaryEncodable (Value : Type) where
  encode : Value → Bytes
  encodedSize : Value → Nat

class BinaryDecodable (Value : Type) where
  decode : Decoder Value

export BinaryEncodable (encode encodedSize)
export BinaryDecodable (decode)

def ensureRemaining (n : Nat) : Decoder Unit := do
  let data ← rest
  failIf (data.length < n) (.codec ("Not enough data: need " ++ toString n ++ " bytes, have " ++
    toString data.length))

section

variable {Value : Type}

/-- A number of a fixed width: its bytes, the least significant first. -/
abbrev fixedWidthEncodable (width : Nat) (toNat : Value → Nat) : BinaryEncodable Value where
  encode value := LittleEndian.bytes width (toNat value)
  encodedSize _ := width

abbrev fixedWidthDecodable (width : Nat) (ofNat : Nat → Value) : BinaryDecodable Value where
  decode := do
    ensureRemaining width
    let number ← getLe width
    pure (ofNat number)

/-- A field that is read where its bit is set. -/
def fieldOr (present : Bool) (absent : Value) (read : Decoder Value) : Decoder Value :=
  if present then read else pure absent

instance : BinaryEncodable Bool where
  encode value := [if value then 1 else 0]
  encodedSize _ := 1

instance : BinaryDecodable Bool where
  decode := do
    ensureRemaining 1
    let byte ← getU8
    pure (byte != 0)

instance : BinaryEncodable Int8 := fixedWidthEncodable 1 fun value => value.toUInt8.toNat

instance : BinaryDecodable Int8 := fixedWidthDecodable 1 fun number => (UInt8.ofNat number).toInt8

instance : BinaryEncodable UInt8 := fixedWidthEncodable 1 UInt8.toNat

instance : BinaryDecodable UInt8 := fixedWidthDecodable 1 UInt8.ofNat

instance : BinaryEncodable Int16 := fixedWidthEncodable 2 fun value => value.toUInt16.toNat

instance : BinaryDecodable Int16 := fixedWidthDecodable 2 fun number => (UInt16.ofNat number).toInt16

instance : BinaryEncodable UInt16 := fixedWidthEncodable 2 UInt16.toNat

instance : BinaryDecodable UInt16 := fixedWidthDecodable 2 UInt16.ofNat

instance : BinaryEncodable Int32 := fixedWidthEncodable 4 fun value => value.toUInt32.toNat

instance : BinaryDecodable Int32 := fixedWidthDecodable 4 fun number => (UInt32.ofNat number).toInt32

/-- Also an `f32`, by its bits. -/
instance : BinaryEncodable UInt32 := fixedWidthEncodable 4 UInt32.toNat

instance : BinaryDecodable UInt32 := fixedWidthDecodable 4 UInt32.ofNat

instance : BinaryEncodable Int64 := fixedWidthEncodable 8 fun value => value.toUInt64.toNat

instance : BinaryDecodable Int64 := fixedWidthDecodable 8 fun number => (UInt64.ofNat number).toInt64

/-- Also an `f64`, by its bits. -/
instance : BinaryEncodable UInt64 := fixedWidthEncodable 8 UInt64.toNat

instance : BinaryDecodable UInt64 := fixedWidthDecodable 8 UInt64.ofNat

end

def putLength (length : Nat) : Bytes := encode (Int32.ofNat length)

/-- A negative length has nothing behind it. -/
def lengthPrefixed {Value : Type} (empty : Value) (body : Nat → Decoder Value) : Decoder Value := do
  let len ← (decode : Decoder Int32)
  if len < 0 then pure empty else body len.toNatClampNeg

def decodeBytes : Decoder Bytes := lengthPrefixed [] fun len => do
  ensureRemaining len
  copyToSlice len

instance : BinaryEncodable String where
  encode value := putLength (Utf8.octets value).length ++ Utf8.octets value
  encodedSize value := 4 + (Utf8.octets value).length

instance : BinaryDecodable String where
  decode := do
    let bytes ← decodeBytes
    liftOption (.codec "Invalid UTF-8") (Utf8.text? bytes)

instance : BinaryEncodable Bytes where
  encode value := putLength value.length ++ value
  encodedSize value := 4 + value.length

instance : BinaryDecodable Bytes where
  decode := decodeBytes

/-- 1970-01-01 in ticks of 100 ns from 1601-01-01. -/
def filetimeUnixDiff : Int := 116444736000000000

def checkedI64 (result : Int) : Decoder Int :=
  if -2 ^ 63 ≤ result ∧ result < 2 ^ 63 then pure result else raise .overflow

/-- The nanoseconds fit an `i64`, so that the sum of the ticks does as well. -/
instance : BinaryEncodable DateTime where
  encode value :=
    let nanos := value.timestampNanosOpt.getD 0
    let ticks := nanos.tdiv 100 + filetimeUnixDiff
    encode (Int64.ofInt ticks)
  encodedSize _ := 8

instance : BinaryDecodable DateTime where
  decode := do
    let ticks ← (decode : Decoder Int64)
    if ticks ≤ 0 then pure .unixEpoch
    else do
      let unixTicks ← checkedI64 (ticks.toInt - filetimeUnixDiff)
      let secs := unixTicks.tdiv 10000000
      let nanos ← checkedI64 (unixTicks.tmod 10000000 * 100)
      liftOption (.codec ("Invalid DateTime ticks: " ++ toString ticks.toInt))
        (DateTime.timestampOpt secs (UInt32.ofInt nanos))

instance : BinaryEncodable Uuid where
  encode value := encode value.d1 ++ encode value.d2 ++ encode value.d3 ++ value.d4.toList
  encodedSize _ := 16

instance : BinaryDecodable Uuid where
  decode := do
    ensureRemaining 16
    let d1 ← getLe 4
    let d2 ← getLe 2
    let d3 ← getLe 2
    let d4 ← copyToSlice 8
    pure ⟨UInt32.ofNat d1, UInt16.ofNat d2, UInt16.ofNat d3,
      Vector.ofFn fun index => d4.getD index.val 0⟩

section

variable {Value : Type}

def encodeArray [BinaryEncodable Value] (items : List Value) : Bytes :=
  putLength items.length ++ items.flatMap encode

def decodeArray [BinaryDecodable Value] :
    Decoder (List Value) := lengthPrefixed [] (readMany decode)

end

end Mabinogion.Opcua
