import Mabinogion.Library.LittleEndian
import Mabinogion.Modbus.Pdu

/-!
# Modbus RTU frames

A unit, a PDU and a checksum. The receiver guesses the length from the function code and a
byte count, keeps an incomplete frame and drops what fails the checksum.
-/

namespace Mabinogion.Modbus

open LittleEndian

def rtuMinFrameSize : Nat := 4

def rtuMaxFrameSize : Nat := 256

def rtuMaxPduSize : Nat := 253

def crcPolynomial : UInt16 := 0xA001

def crcRound (crc : UInt16) : UInt16 :=
  if crc &&& 0x0001 ≠ 0 then (crc >>> 1) ^^^ crcPolynomial else crc >>> 1

def generateCrcTable : List UInt16 :=
  (List.range 256).map fun i => (List.range 8).foldl (fun crc _ => crcRound crc) (UInt16.ofNat i)

def calculateCrc (data : Bytes) : UInt16 :=
  data.foldl (fun crc byte =>
    let index := (crc ^^^ byte.toUInt16) &&& 0xFF
    (crc >>> 8) ^^^ generateCrcTable.getD index.toNat 0) 0xFFFF

def crcAt (data : Bytes) (position : Nat) : UInt16 :=
  UInt16.ofNat (value [data.getD position 0, data.getD (position + 1) 0])

def verifyCrc (frame : Bytes) : Bool :=
  if frame.length < rtuMinFrameSize then false
  else
    let dataLen := frame.length - 2
    crcAt frame dataLen == calculateCrc (frame.take dataLen)

inductive RtuFrameError where
  | tooShort (actual minimum : Nat)
  | tooLong (actual maximum : Nat)
  | crcMismatch (expected received : UInt16)
deriving DecidableEq

structure RtuFrame where
  unitId : UInt8
  pdu : Bytes
  crc : UInt16
deriving DecidableEq

namespace RtuFrame

def new (unitId : UInt8) (pdu : Bytes) : RtuFrame :=
  ⟨unitId, pdu, calculateCrc (unitId :: pdu)⟩

def frameSize (frame : RtuFrame) : Nat := 1 + frame.pdu.length + 2

def encode (frame : RtuFrame) : Bytes :=
  frame.unitId :: frame.pdu ++ bytes 2 frame.crc.toNat

variable (data : Bytes)

def decode : Except RtuFrameError RtuFrame :=
  if data.length < rtuMinFrameSize then .error (.tooShort data.length rtuMinFrameSize)
  else if data.length > rtuMaxFrameSize then .error (.tooLong data.length rtuMaxFrameSize)
  else
    let dataLen := data.length - 2
    let receivedCrc := crcAt data dataLen
    let calculatedCrc := calculateCrc (data.take dataLen)
    if receivedCrc ≠ calculatedCrc then .error (.crcMismatch calculatedCrc receivedCrc)
    else
      let pdu := (data.take dataLen).drop 1
      if pdu.isEmpty then .error (.tooShort data.length (rtuMinFrameSize + 1))
      else .ok ⟨data.getD 0 0, pdu, receivedCrc⟩

/-- A short read of a read request is taken for a response, whose third byte is a byte count. -/
def estimateFrameLength : Option Nat :=
  if data.length < 2 then none
  else
    let functionCode := data.getD 1 0
    if functionCode &&& 0x80 ≠ 0 then some 5
    else
      match functionCode with
      | 0x01 | 0x02 | 0x03 | 0x04 =>
        if data.length ≥ 3 then
          let thirdByte := (data.getD 2 0).toNat
          if data.length ≥ 8 then some 8
          else if data.length ≥ 3 + thirdByte + 2 then some (3 + thirdByte + 2)
          else some 8
        else some 8
      | 0x05 | 0x06 => some 8
      | 0x16 => some 10
      | 0x0F | 0x10 =>
        if data.length ≥ 7 then some (7 + (data.getD 6 0).toNat + 2) else none
      | _ => none

def tryDecode : Except RtuFrameError (Option RtuFrame) :=
  if data.length < rtuMinFrameSize then .ok none
  else
    match estimateFrameLength data with
    | some expectedLen =>
      if data.length < expectedLen then .ok none
      else (decode (data.take expectedLen)).map some
    | none => .ok none

section

variable (unit : UInt8) (pdu : Bytes)

theorem encode_new :
    (new unit pdu).encode = unit :: (pdu ++ bytes 2 (calculateCrc (unit :: pdu)).toNat) := rfl

theorem length_encode_new : (new unit pdu).encode.length = pdu.length + 3 := by
  simp [encode_new]

variable {pdu}

theorem decode_encode_new (filled : pdu ≠ []) (small : pdu.length ≤ rtuMaxPduSize) :
    decode (new unit pdu).encode = .ok (new unit pdu) := by
  have positive : 0 < pdu.length := List.length_pos_iff.mpr filled
  have long : ¬pdu.length + 3 < rtuMinFrameSize := by
    rw [rtuMinFrameSize]
    omega
  have short : ¬pdu.length + 3 > rtuMaxFrameSize := by
    rw [rtuMaxPduSize] at small
    rw [rtuMaxFrameSize]
    omega
  have body : (new unit pdu).encode.take (pdu.length + 1) = unit :: pdu := by
    rw [encode_new, List.take_succ_cons, List.take_left]
  have tail : (new unit pdu).encode.drop (pdu.length + 1) =
      bytes 2 (calculateCrc (unit :: pdu)).toNat := by
    rw [encode_new, List.drop_succ_cons, List.drop_left]
  have low : (new unit pdu).encode.getD (pdu.length + 1) 0 =
      (bytes 2 (calculateCrc (unit :: pdu)).toNat).getD 0 0 := by
    rw [← tail, List.getD_eq_getElem?_getD, List.getD_eq_getElem?_getD, List.getElem?_drop]
  have high : (new unit pdu).encode.getD (pdu.length + 1 + 1) 0 =
      (bytes 2 (calculateCrc (unit :: pdu)).toNat).getD 1 0 := by
    rw [← tail, List.getD_eq_getElem?_getD, List.getD_eq_getElem?_getD, List.getElem?_drop]
  have received : crcAt (new unit pdu).encode (pdu.length + 1) = calculateCrc (unit :: pdu) := by
    rw [crcAt, low, high]
    show UInt16.ofNat (value (bytes 2 (calculateCrc (unit :: pdu)).toNat)) = _
    rw [value_bytes_of_lt 2 _ (calculateCrc (unit :: pdu)).toNat_lt, UInt16.ofNat_toNat]
  have start : pdu.length + 3 - 2 = pdu.length + 1 := by omega
  have present : ¬pdu.isEmpty = true := fun empty => filled (List.isEmpty_iff.mp empty)
  rw [decode, length_encode_new, if_neg long, if_neg short]
  simp only [start, received, body, ne_eq, not_true_eq_false, if_false, List.drop_succ_cons,
    List.drop_zero, if_neg present]
  rfl

theorem getD_received {unit : UInt8} {data rest later : Bytes}
    (whole : data ++ rest = (new unit pdu).encode ++ later) {index : Nat}
    (received : index + 1 < data.length) (inside : index < pdu.length) :
    data.getD (index + 1) 0 = pdu.getD index 0 := by
  rw [← List.getD_append data rest 0 _ received, whole, encode_new, List.cons_append,
    List.getD_cons_succ, List.append_assoc, List.getD_append _ _ _ _ inside]

end

end RtuFrame

namespace RtuServer

/-- A frame, or none, and what is left in the buffer, which every error clears. -/
def tryParseFrame (buffer : Bytes) : Option RtuFrame × Bytes :=
  if buffer.length < 4 then (none, buffer)
  else
    match RtuFrame.tryDecode buffer with
    | .ok (some frame) => (some frame, buffer.drop frame.frameSize)
    | .ok none => (none, buffer)
    | .error _ => (none, [])

/-- The receive step: the read is appended to the frame buffer, and one frame is tried. -/
def receive (frameBuffer read : Bytes) : Option RtuFrame × Bytes :=
  tryParseFrame (frameBuffer ++ read)

end RtuServer

def announcedLength (function : FunctionCode) (pdu : Bytes) : Nat :=
  match function with
  | .maskWriteRegister => 7
  | .writeMultipleCoils | .writeMultipleRegisters => 6 + (pdu.getD 5 0).toNat
  | .readWriteMultipleRegisters => 10 + (pdu.getD 9 0).toNat
  | _ => 5

/-- A request that the service accepts, with no byte behind its fields. -/
structure WellFormed (function : FunctionCode) (pdu : Bytes) : Prop where
  code : pdu.head? = some function.toU8
  meant : ∃ request, requestOf pdu = .ok request
  whole : pdu.length = announcedLength function pdu

end Mabinogion.Modbus
