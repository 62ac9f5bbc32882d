import Mabinogion.Bacnet.Object
import Mabinogion.Library.KeyedTable
import Mathlib.Algebra.Order.Ring.Int

/-!
# Property access

The readings of a value as another type, the store for properties without a field, and the
errors. Reals are bit patterns, rounded to the nearest, ties to even.
-/

namespace Mabinogion.Bacnet

open KeyedTable (Table)

/-- A shift to the right with rounding. -/
def roundedShift (mantissa shift : Nat) : Nat :=
  let quotient := mantissa >>> shift
  let remainder := mantissa % 2 ^ shift
  if 2 ^ shift < 2 * remainder ∨ 2 * remainder = 2 ^ shift ∧ quotient % 2 = 1 then quotient + 1
  else quotient

/-- The bits of a binary32 without its sign; a carry of the mantissa goes to the exponent. -/
def f32Magnitude (number : Nat) : Nat :=
  if number = 0 then 0
  else
    let exponent := number.log2
    let mantissa := if exponent ≤ 23 then number <<< (23 - exponent)
      else roundedShift number (exponent - 23)
    (exponent + 127) * 2 ^ 23 + (mantissa - 2 ^ 23)

def f32OfUnsigned (value : UInt32) : UInt32 := UInt32.ofNat (f32Magnitude value.toNat)

def f32OfSigned (value : Int32) : UInt32 :=
  UInt32.ofNat (f32Magnitude value.toInt.natAbs) ||| (if value < 0 then 0x80000000 else 0)

/-- `value as f32` of an `f64`. A NaN keeps its upper payload and is quiet. -/
def f32OfDouble (bits : UInt64) : UInt32 :=
  let exponent := (bits.toNat >>> 52) % 2 ^ 11
  let fraction := bits.toNat % 2 ^ 52
  let magnitude :=
    if exponent = 2047 ∧ fraction ≠ 0 then 0x7FC00000 ||| (fraction >>> 29)
    else if 1151 ≤ exponent then 0x7F800000
    else if 897 ≤ exponent then
      (exponent - 896) * 2 ^ 23 + (roundedShift (2 ^ 52 + fraction) 29 - 2 ^ 23)
    else if exponent = 0 then 0
    else roundedShift (2 ^ 52 + fraction) (926 - exponent)
  UInt32.ofNat magnitude ||| (if 2 ^ 63 ≤ bits.toNat then 0x80000000 else 0)

example : f32OfUnsigned 16777219 = 0x4B800002 ∧ f32OfSigned (-3) = 0xC0400000 ∧
    f32OfDouble 0x3FB999999999999A = 0x3DCCCCCD := by decide

namespace BACnetValue

def asBool : BACnetValue → Option Bool
  | boolean value => some value
  | enumerated value => some (value != 0)
  | _ => none

def asUnsigned : BACnetValue → Option UInt32
  | unsigned value => some value
  | enumerated value => some value
  | boolean value => some (if value then 1 else 0)
  | _ => none

def asReal : BACnetValue → Option UInt32
  | real bits => some bits
  | double bits => some (f32OfDouble bits)
  | unsigned value => some (f32OfUnsigned value)
  | signed value => some (f32OfSigned value)
  | _ => none

def asString : BACnetValue → Option String
  | characterString text => some text
  | _ => none

def isNull : BACnetValue → Bool
  | null => true
  | _ => false

end BACnetValue

structure StatusFlags where
  inAlarm : Bool
  fault : Bool
  overridden : Bool
  outOfService : Bool

def StatusFlags.toBits (flags : StatusFlags) : List Bool :=
  [flags.inAlarm, flags.fault, flags.overridden, flags.outOfService]

inductive PropertyError where
  | notFound (propertyId : PropertyId)
  | writeAccessDenied (propertyId : PropertyId)
  | invalidDataType (propertyId : PropertyId)
  | valueOutOfRange (propertyId : PropertyId)
  | readOnly (propertyId : PropertyId)
  | invalidArrayIndex (index : UInt32)

abbrev ReadResult := Except PropertyError BACnetValue

abbrev PropertyStore := Table PropertyId BACnetValue

namespace PropertyStore

variable (store : PropertyStore) (propertyId : PropertyId)

def get : Option BACnetValue :=
  store.lookup propertyId

def set (value : BACnetValue) : PropertyStore :=
  store.insert propertyId value

def ofList (properties : List (PropertyId × BACnetValue)) : PropertyStore :=
  properties.foldl (fun store property => set store property.1 property.2) ∅

def read : ReadResult :=
  match store.get propertyId with
  | some value => .ok value
  | none => .error (.notFound propertyId)

theorem get_set (value : BACnetValue) : (store.set propertyId value).get propertyId = some value :=
  AList.lookup_insert store

end PropertyStore

abbrev WriteResult (Object : Type) := Except PropertyError Unit × Object

def refused {Object Error : Type} (object : Object) (error : Error) : Except Error Unit × Object :=
  (.error error, object)

def accepted {Object Error : Type} (object : Object) : Except Error Unit × Object :=
  (.ok (), object)

end Mabinogion.Bacnet
