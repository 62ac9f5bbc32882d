import Mabinogion.Bacnet.Encoding
import Mabinogion.Library.MeasuredLoop

/-!
# APDU decoder

The decoder reads forward through a byte string. Indexing and subtraction that the source
does not guard are checked operations here, so that a panic is a fault.
-/

namespace Mabinogion.Bacnet

open Checked Orderly BigEndian

inductive ApduError where
  | tooShort
  | invalidType (value : UInt8)
  | unknownService (value : UInt8)
  | invalidTag (value : UInt8)
  | decodeError (message : String)
  | encodeError (message : String)

structure ApduDecoder where
  data : Bytes
  pos : Nat
  pos_le : pos ≤ data.length

structure TagInfo where
  tagNumber : UInt8
  isContext : Bool
  len : Nat

abbrev Decode (Error Value : Type) : Type := Checked ApduDecoder Error Value

variable (len : Nat)

namespace ApduDecoder

def new (data : Bytes) : ApduDecoder := ⟨data, 0, Nat.zero_le _⟩

variable (decoder : ApduDecoder)

def remaining : Nat := decoder.data.length - decoder.pos

def isEmpty : Bool := decoder.pos ≥ decoder.data.length

def peek : Option UInt8 := decoder.data[decoder.pos]?

def readU8 : Decode ApduError UInt8 := fun decoder =>
  if inside : decoder.pos < decoder.data.length then
    .ok (decoder.data.get ⟨decoder.pos, inside⟩) ⟨decoder.data, decoder.pos + 1, inside⟩
  else .err .tooShort decoder

variable (len : Nat)

def readBytes : Decode ApduError Bytes := fun decoder =>
  if inside : decoder.pos + len ≤ decoder.data.length then
    .ok ((decoder.data.drop decoder.pos).take len) ⟨decoder.data, decoder.pos + len, inside⟩
  else .err .tooShort decoder

def skip : Decode ApduError Unit := do
  let _ ← readBytes len
  pure ()

/-- `arr.copy_from_slice(self.read_bytes(width)?)`. -/
def readArray (width : Nat) : Decode ApduError Bytes := do
  let bytes ← readBytes width
  checkedCopy width bytes

def readIndexed {Error : Type} (convert : ApduError → Error) (width : Nat) :
    Decode Error Bytes := do
  let bytes ← (readBytes width).mapErr convert
  checkedItems bytes width

def decodeLength (lvt : UInt8) : Decode ApduError Nat :=
  if lvt = 5 then do
    let lenByte ← readU8
    if lenByte = 254 then do
      let bytes ← readArray 2
      pure (value bytes)
    else if lenByte = 255 then do
      let bytes ← readArray 4
      pure (value bytes)
    else pure lenByte.toNat
  else pure lvt.toNat

/-- The tag number, with the extended form in a byte of its own. -/
def decodeTagNumber (tagByte : UInt8) : Decode ApduError UInt8 :=
  if (tagByte >>> 4) &&& 0x0F = 0x0F then readU8 else pure ((tagByte >>> 4) &&& 0x0F)

/-- Opening and closing tags have no length. -/
def decodeTagLength (tagByte tagNumber : UInt8) : Decode ApduError TagInfo :=
  let isContext := (tagByte &&& 0x08) != 0
  let lvt := tagByte &&& 0x07
  if isContext ∧ lvt = 6 then pure ⟨tagNumber, true, 0⟩
  else if isContext ∧ lvt = 7 then pure ⟨tagNumber, true, 0⟩
  else do
    let len ← decodeLength lvt
    pure ⟨tagNumber, isContext, len⟩

def decodeTagInfo : Decode ApduError TagInfo := do
  let tagByte ← readU8
  let tagNumber ← decodeTagNumber tagByte
  decodeTagLength tagByte tagNumber

def isOpeningTag (tagNumber : UInt8) (decoder : ApduDecoder) : Bool :=
  match decoder.peek with
  | some byte => if tagNumber < 15 then byte == ((tagNumber <<< 4) ||| 0x0E) else byte == 0xFE
  | none => false

def isClosingTag (tagNumber : UInt8) (decoder : ApduDecoder) : Bool :=
  match decoder.peek with
  | some byte => if tagNumber < 15 then byte == ((tagNumber <<< 4) ||| 0x0F) else byte == 0xFF
  | none => false

def decodeUnsignedRaw (bytes : Bytes) : UInt32 :=
  bytes.foldl (fun value byte => (value <<< 8) ||| byte.toUInt32) 0

def decodeUnsigned : Decode ApduError UInt32 := do
  let bytes ← readBytes len
  pure (decodeUnsignedRaw bytes)

/-- The first byte is read for the sign before the loop, also when there is none. -/
def decodeSigned : Decode ApduError Int32 := do
  let bytes ← readBytes len
  let first ← checkedIndex bytes 0
  let start : Int32 := if first &&& 0x80 ≠ 0 then -1 else 0
  pure (bytes.foldl (fun value byte => (value <<< 8) ||| byte.toUInt32.toInt32) start)

def decodeReal : Decode ApduError UInt32 := do
  let bytes ← readArray 4
  pure (UInt32.ofNat (value bytes))

def decodeDouble : Decode ApduError UInt64 := do
  let bytes ← readArray 8
  pure (UInt64.ofNat (value bytes))

def decodeObjectIdentifier : Decode ApduError ObjectId := do
  let bytes ← readArray 4
  liftOption (.decodeError "Invalid object identifier")
    (ObjectId.decode (UInt32.ofNat (value bytes)))

def decodeCharacterString : Decode ApduError String :=
  if len = 0 then pure "" else do
    let _encoding ← readU8
    let bytes ← readBytes (len - 1)
    liftOption (.decodeError "Invalid UTF-8 string") (String.fromUTF8? ⟨bytes.toArray⟩)

def testBit (byte : UInt8) (shift : Nat) : Decode ApduError Bool :=
  if shift < 8 then pure ((byte &&& (1 <<< UInt8.ofNat shift)) != 0) else raise .shiftTooWide

def bitsOfByte (byte : UInt8) (count : Nat) : Decode ApduError (List Bool) :=
  visitAll (fun j => do
    let shift ← checkedSub 7 j
    testBit byte shift) (List.range count)

/-- Only the last byte has unused bits. -/
def bitsInByte (index last unusedBits : Nat) : Decode ApduError Nat :=
  if index = last then checkedSub 8 unusedBits else pure 8

def bitsOfBytes (count unusedBits : Nat) : Nat → Bytes → Decode ApduError (List Bool)
  | _, [] => pure []
  | index, byte :: bytes => do
    let last ← checkedSub count 1
    let used ← bitsInByte index last unusedBits
    let bits ← bitsOfByte byte used
    let more ← bitsOfBytes count unusedBits (index + 1) bytes
    pure (bits ++ more)

def decodeBitString : Decode ApduError (List Bool) :=
  if len = 0 then pure [] else do
    let unusedBits ← readU8
    let bytes ← readBytes (len - 1)
    let _totalBits ← checkedSub (bytes.length * 8) unusedBits.toNat
    bitsOfBytes bytes.length unusedBits.toNat 0 bytes

theorem readBytes_length {decoder after : ApduDecoder} {len : Nat} {bytes : Bytes}
    (returned : readBytes len decoder = .ok bytes after) : bytes.length = len := by
  unfold readBytes at returned
  split at returned
  · obtain ⟨rfl, _⟩ := Outcome.ok.inj returned
    rw [List.length_take, List.length_drop]
    omega
  · simp at returned

theorem readArray_eq (width : Nat) : readArray width = readBytes width := by
  funext decoder
  rw [readArray, bind_apply, andThen]
  cases ran : readBytes width decoder with
  | ok bytes after => exact checkedCopy_ok after (readBytes_length ran)
  | err | fault => rfl

theorem readIndexed_eq {Error : Type} (convert : ApduError → Error) (width : Nat) :
    readIndexed convert width = (readBytes width).mapErr convert := by
  funext decoder
  rw [readIndexed, bind_apply, andThen]
  cases ran : (readBytes width).mapErr convert decoder with
  | ok bytes after =>
    exact checkedItems_ok after (readBytes_length (mapErr_eq_ok decoder after ran))
  | err | fault => rfl

section

variable {allowed : Fault → Prop}

theorem orderly_readU8 : Orderly remaining allowed readU8 := by
  intro decoder
  by_cases inside : decoder.pos < decoder.data.length
  · simp only [readU8, inside, dite_true, remaining]
    omega
  · simp only [readU8, inside, dite_false, le_refl]

theorem orderly_readBytes : Orderly remaining allowed (readBytes len) := by
  intro decoder
  by_cases inside : decoder.pos + len ≤ decoder.data.length
  · simp only [readBytes, inside, dite_true, remaining]
    omega
  · simp only [readBytes, inside, dite_false, le_refl]

theorem orderly_readArray (width : Nat) : Orderly remaining allowed (readArray width) := by
  rw [readArray_eq]
  exact orderly_readBytes width

theorem orderly_readIndexed {Error : Type} (convert : ApduError → Error) (width : Nat) :
    Orderly remaining allowed (readIndexed convert width) := by
  rw [readIndexed_eq]
  exact (orderly_readBytes width).mapErr convert

theorem brisk_readU8 : Brisk remaining allowed readU8 where
  orderly := orderly_readU8
  smaller decoder byte after returned _ := by
    unfold readU8 at returned
    split at returned
    · obtain ⟨_, rfl⟩ := Outcome.ok.inj returned
      simp only [remaining]
      omega
    · simp at returned

theorem orderly_skip : Orderly remaining allowed (skip len) :=
  (orderly_readBytes len).bind fun _ => orderly_pure ()

theorem orderly_decodeLength (lvt : UInt8) : Orderly remaining allowed (decodeLength lvt) := by
  apply Orderly.ite
  · apply orderly_readU8.bind
    intro lenByte
    apply Orderly.ite
    · exact (orderly_readArray 2).bind fun _ => orderly_pure _
    apply Orderly.ite
    · exact (orderly_readArray 4).bind fun _ => orderly_pure _
    · exact orderly_pure _
  · exact orderly_pure _

theorem orderly_decodeTagNumber (tagByte : UInt8) :
    Orderly remaining allowed (decodeTagNumber tagByte) :=
  ite orderly_readU8 (orderly_pure _)

theorem orderly_decodeTagLength (tagByte tagNumber : UInt8) :
    Orderly remaining allowed (decodeTagLength tagByte tagNumber) := by
  apply ite (orderly_pure _)
  apply ite (orderly_pure _)
  exact (orderly_decodeLength _).bind fun _ => orderly_pure _

theorem brisk_decodeTagInfo : Brisk remaining allowed decodeTagInfo :=
  brisk_readU8.bind fun tagByte =>
    (orderly_decodeTagNumber tagByte).bind (orderly_decodeTagLength tagByte)

theorem orderly_decodeTagInfo : Orderly remaining allowed decodeTagInfo :=
  brisk_decodeTagInfo.orderly

theorem orderly_decodeUnsigned : Orderly remaining allowed (decodeUnsigned len) :=
  (orderly_readBytes len).bind fun _ => orderly_pure _

theorem orderly_decodeReal : Orderly remaining allowed decodeReal :=
  (orderly_readArray 4).bind fun _ => orderly_pure _

theorem orderly_decodeDouble : Orderly remaining allowed decodeDouble :=
  (orderly_readArray 8).bind fun _ => orderly_pure _

theorem orderly_decodeObjectIdentifier : Orderly remaining allowed decodeObjectIdentifier :=
  (orderly_readArray 4).bind fun _ => orderly_liftOption _ _

theorem orderly_decodeCharacterString : Orderly remaining allowed (decodeCharacterString len) := by
  apply ite (orderly_pure _)
  apply orderly_readU8.bind
  intro _encoding
  exact (orderly_readBytes _).bind fun _ => orderly_liftOption _ _

end

end ApduDecoder

end Mabinogion.Bacnet
