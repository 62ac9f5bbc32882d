import Mathlib.Data.List.Infix
import Mabinogion.Library.Transducer
import Mabinogion.Modbus.RtuFrame

/-!
# Requests over a serial line

A request frame in pieces is taken at its last byte unless the server does not guess the
length of its function code, or a read request is cut where its address passes for a byte
count.
-/

namespace Mabinogion.Modbus

open Checked ByteCursor FunctionCode WellFormed Transducer
open Or (inl)

variable {request : SemanticRequest}

section

variable {function : FunctionCode} {pdu : Bytes} {fields : Bytes}

theorem multipleRequest_count {maximum : Nat} {needed : Nat → Nat}
    {make : UInt16 → Nat → Bytes → SemanticRequest}
    (small : ∀ quantity ≤ maximum, needed quantity ≤ 246)
    (meant : multipleRequest checkSpan maximum needed make fields = .ok request) :
    (fields.getD 4 0).toNat ≤ 246 := by
  obtain ⟨_, _, _, _, byteCount, _, _, rfl, span, counted, _⟩ := multipleRequest_ok meant
  have limit := small _ (checkSpan_ok span).2.1
  rwa [← (countedData_ok counted).1] at limit

theorem readWriteRequest_count (meant : readWriteRequest checkSpan fields = .ok request) :
    (fields.getD 8 0).toNat ≤ 242 := by
  obtain ⟨_, _, _, _, _, _, _, _, byteCount, _, _, rfl, _, span, counted, _⟩ :=
    readWriteRequest_ok meant
  have limit := (checkSpan_ok span).2.1
  have count := (countedData_ok counted).1
  show byteCount.toNat ≤ 242
  omega

theorem WellFormed.exists_fields (formed : WellFormed function pdu) :
    ∃ fields request, pdu = function.toU8 :: fields ∧
      requestFor checkSpan function fields = .ok request := by
  obtain ⟨request, meant⟩ := formed.meant
  cases pdu with
  | nil => cases formed.code
  | cons code fields =>
    have same : code = function.toU8 := Option.some.inj formed.code
    subst same
    rw [requestOf, tryFrom_toU8] at meant
    exact ⟨fields, request, rfl, meant⟩

theorem WellFormed.length_le (formed : WellFormed function pdu) : pdu.length ≤ 252 := by
  obtain ⟨fields, request, rfl, meant⟩ := formed.exists_fields
  rw [formed.whole]
  cases function with
  | writeMultipleCoils =>
    rw [requestFor] at meant
    have count := multipleRequest_count (fun quantity small => by omega) meant
    show 6 + (fields.getD 4 0).toNat ≤ 252
    omega
  | writeMultipleRegisters =>
    rw [requestFor] at meant
    have count := multipleRequest_count (fun quantity small => by omega) meant
    show 6 + (fields.getD 4 0).toNat ≤ 252
    omega
  | readWriteMultipleRegisters =>
    have count := readWriteRequest_count meant
    show 10 + (fields.getD 8 0).toNat ≤ 252
    omega
  | _ => simp [announcedLength]

theorem WellFormed.five_le (formed : WellFormed function pdu) : 5 ≤ pdu.length := by
  rw [formed.whole]
  cases function <;> simp only [announcedLength] <;> omega

end

namespace RtuFrame

variable {pdu : Bytes}

section

variable {data : Bytes} {function : FunctionCode} (long : 4 ≤ data.length)
  (code : data.getD 1 0 = function.toU8)

include long

theorem estimateFrameLength_mask (code : data.getD 1 0 = maskWriteRegister.toU8) :
    estimateFrameLength data = some 10 := by
  have two : ¬data.length < 2 := by omega
  simp only [estimateFrameLength, if_neg two, code, toU8]
  rfl

theorem estimateFrameLength_readWrite (code : data.getD 1 0 = readWriteMultipleRegisters.toU8) :
    estimateFrameLength data = none := by
  have two : ¬data.length < 2 := by omega
  simp only [estimateFrameLength, if_neg two, code, toU8]
  rfl

include code

theorem estimateFrameLength_read (read : function = .readCoils ∨ function = .readDiscreteInputs ∨
      function = .readHoldingRegisters ∨ function = .readInputRegisters) :
    estimateFrameLength data = if data.length < 8 ∧ (data.getD 2 0).toNat + 5 ≤ data.length then
        some ((data.getD 2 0).toNat + 5)
      else some 8 := by
  have two : ¬data.length < 2 := by omega
  have three : data.length ≥ 3 := by omega
  have shape : estimateFrameLength data = if data.length ≥ 8 then some 8
      else if data.length ≥ 3 + (data.getD 2 0).toNat + 2 then
        some (3 + (data.getD 2 0).toNat + 2)
      else some 8 := by
    rcases read with rfl | rfl | rfl | rfl <;>
      simp only [estimateFrameLength, if_neg two, code, toU8, if_pos three] <;> rfl
  rw [shape]
  by_cases whole : data.length ≥ 8
  · rw [if_pos whole, if_neg (by omega)]
  · rw [if_neg whole]
    by_cases guessed : (data.getD 2 0).toNat + 5 ≤ data.length
    · rw [if_pos (by omega), if_pos ⟨by omega, guessed⟩]
      congr 1
      omega
    · rw [if_neg (by omega), if_neg (fun both => guessed both.2)]

theorem estimateFrameLength_single
    (single : function = .writeSingleCoil ∨ function = .writeSingleRegister) :
    estimateFrameLength data = some 8 := by
  have two : ¬data.length < 2 := by omega
  rcases single with rfl | rfl <;>
    simp only [estimateFrameLength, if_neg two, code, toU8] <;> rfl

theorem estimateFrameLength_multiple
    (multiple : function = .writeMultipleCoils ∨ function = .writeMultipleRegisters) :
    estimateFrameLength data =
      if 7 ≤ data.length then some ((data.getD 6 0).toNat + 9) else none := by
  have two : ¬data.length < 2 := by omega
  have same : 7 + (data.getD 6 0).toNat + 2 = (data.getD 6 0).toNat + 9 := by omega
  rcases multiple with rfl | rfl <;>
    simp only [estimateFrameLength, if_neg two, code, toU8, same] <;> rfl

end

/-- A cut of a read request behind which its address makes a response of what has arrived. -/
def Ambiguous (function : FunctionCode) (pdu : Bytes) (received : Nat) : Prop :=
  (function = .readCoils ∨ function = .readDiscreteInputs ∨
    function = .readHoldingRegisters ∨ function = .readInputRegisters) ∧
  (pdu.getD 1 0).toNat + 5 ≤ received ∧ received < 8

instance (function : FunctionCode) (pdu : Bytes) (received : Nat) :
    Decidable (Ambiguous function pdu received) :=
  inferInstanceAs (Decidable (_ ∧ _))

section

variable {unit : UInt8} {function : FunctionCode} {data rest : Bytes}

section

variable (formed : WellFormed function pdu) (whole : data ++ rest = (new unit pdu).encode)

include whole

theorem length_front : data.length + rest.length = pdu.length + 3 := by
  rw [← List.length_append, whole, length_encode_new]

theorem getD_front {index : Nat} (received : index + 1 < data.length)
    (inside : index < pdu.length) : data.getD (index + 1) 0 = pdu.getD index 0 := by
  have alone : data ++ rest = (new unit pdu).encode ++ [] := by rw [whole, List.append_nil]
  exact getD_received alone received inside

include formed

theorem code_front (long : 4 ≤ data.length) : data.getD 1 0 = function.toU8 := by
  obtain ⟨fields, request, rfl, _⟩ := formed.exists_fields
  exact getD_front whole (by omega) (Nat.zero_lt_succ _)

theorem estimateFrameLength_front (guessed : function ≠ .readWriteMultipleRegisters)
    (long : 4 ≤ data.length) (clear : ¬Ambiguous function pdu data.length) :
    estimateFrameLength data = some (pdu.length + 3) ∨
      estimateFrameLength data = none ∧ data.length < 7 := by
  have code := code_front formed whole long
  have five := formed.five_le
  have size := formed.whole
  have third : data.getD 2 0 = pdu.getD 1 0 := getD_front whole (by omega) (by omega)
  have read (kind : function = .readCoils ∨ function = .readDiscreteInputs ∨
      function = .readHoldingRegisters ∨ function = .readInputRegisters)
      (fixed : pdu.length = 5) : estimateFrameLength data = some (pdu.length + 3) := by
    have settled : ¬(data.length < 8 ∧ (data.getD 2 0).toNat + 5 ≤ data.length) := by
      rw [third]
      exact fun both => clear ⟨kind, both.2, both.1⟩
    rw [estimateFrameLength_read long code kind, if_neg settled, fixed]
  have multiple (kind : function = .writeMultipleCoils ∨ function = .writeMultipleRegisters)
      (counted : pdu.length = 6 + (pdu.getD 5 0).toNat) :
      estimateFrameLength data = some (pdu.length + 3) ∨
        estimateFrameLength data = none ∧ data.length < 7 := by
    rw [estimateFrameLength_multiple long code kind]
    by_cases enough : 7 ≤ data.length
    · have count : data.getD 6 0 = pdu.getD 5 0 := getD_front whole (by omega) (by omega)
      rw [if_pos enough, count, counted]
      exact inl (congrArg some (by omega))
    · rw [if_neg enough]
      exact Or.inr ⟨rfl, Nat.not_le.mp enough⟩
  cases function with
  | readCoils | readDiscreteInputs | readHoldingRegisters | readInputRegisters =>
    exact inl (read (by simp) size)
  | writeSingleCoil | writeSingleRegister =>
    rw [estimateFrameLength_single long code (by simp), size]
    exact inl rfl
  | writeMultipleCoils | writeMultipleRegisters => exact multiple (by simp) size
  | maskWriteRegister =>
    rw [estimateFrameLength_mask long code, size]
    exact inl rfl
  | readWriteMultipleRegisters => exact absurd rfl guessed

theorem tryDecode_front (missing : rest ≠ []) (clear : ¬Ambiguous function pdu data.length) :
    tryDecode data = .ok none := by
  have behind : 0 < rest.length := List.length_pos_iff.mpr missing
  have size := length_front whole
  by_cases short : data.length < rtuMinFrameSize
  · rw [tryDecode, if_pos short]
  · have long : 4 ≤ data.length := Nat.not_lt.mp short
    rw [tryDecode, if_neg short]
    by_cases guessed : function = .readWriteMultipleRegisters
    · subst guessed
      rw [estimateFrameLength_readWrite long (code_front formed whole long)]
    · rcases estimateFrameLength_front formed whole guessed long clear with known | ⟨unknown, _⟩
      · rw [known]
        exact if_pos (by omega)
      · rw [unknown]

theorem tryDecode_ambiguous (cut : Ambiguous function pdu data.length) :
    tryDecode data = (decode (data.take ((pdu.getD 1 0).toNat + 5))).map some := by
  obtain ⟨kind, enough, short⟩ := cut
  have five := formed.five_le
  have long : 4 ≤ data.length := by omega
  have third : data.getD 2 0 = pdu.getD 1 0 := getD_front whole (by omega) (by omega)
  have guess := estimateFrameLength_read long (code_front formed whole long) kind
  rw [third, if_pos ⟨short, enough⟩] at guess
  have notShort : ¬data.length < rtuMinFrameSize := Nat.not_lt.mpr long
  rw [tryDecode, if_neg notShort, guess]
  exact if_neg (Nat.not_lt.mpr enough)

end

theorem tryDecode_whole (formed : WellFormed function pdu) : tryDecode (new unit pdu).encode =
      if function = .readWriteMultipleRegisters then .ok none else .ok (some (new unit pdu)) := by
  have five := formed.five_le
  have small := formed.length_le
  have size := length_encode_new unit pdu
  have long : 4 ≤ (new unit pdu).encode.length := by omega
  have whole : (new unit pdu).encode ++ [] = (new unit pdu).encode := List.append_nil _
  have notShort : ¬(new unit pdu).encode.length < rtuMinFrameSize := Nat.not_lt.mpr long
  rw [tryDecode, if_neg notShort]
  by_cases guessed : function = .readWriteMultipleRegisters
  · rw [if_pos guessed]
    subst guessed
    rw [estimateFrameLength_readWrite long (code_front formed whole long)]
  · have clear : ¬Ambiguous function pdu (new unit pdu).encode.length := by
      rintro ⟨_, _, short⟩
      omega
    rw [if_neg guessed]
    rcases estimateFrameLength_front formed whole guessed long clear with known | ⟨_, short⟩
    · have filled : pdu ≠ [] := by
        rintro rfl
        simp at five
      have decoded := decode_encode_new unit filled (small.trans (by decide))
      rw [known]
      simp only [size, lt_irrefl, if_false, List.take_of_length_le size.le, decoded]
      rfl
    · omega

end

end RtuFrame

open RtuFrame

namespace RtuServer

open RtuFrame

variable {unit : UInt8} {function : FunctionCode} {pdu : Bytes}

/-- The step of the server on one read: what it returns, and the buffer. -/
def serve (frameBuffer read : Bytes) : (Option RtuFrame × Bytes) × Bytes :=
  (receive frameBuffer read, (receive frameBuffer read).2)

/-- Nothing is returned or dropped before the last read, which returns the frame. -/
def ReceivedWhole (frame : RtuFrame) (before : List Bytes) (last : Bytes) : Prop :=
  outputs serve [] (before ++ [last]) =
    before.inits.tail.map (fun reads => (none, reads.flatten)) ++ [(some frame, [])]

theorem tryParseFrame_front {data rest : Bytes} (formed : WellFormed function pdu)
    (whole : data ++ rest = (new unit pdu).encode) (missing : rest ≠ []) :
    tryParseFrame data = (none, data) ↔ ¬Ambiguous function pdu data.length := by
  constructor
  · rintro kept cut
    have long : ¬data.length < 4 := by
      have enough := cut.2.1
      omega
    rw [tryParseFrame, if_neg long, tryDecode_ambiguous formed whole cut] at kept
    cases decoded : decode (data.take ((pdu.getD 1 0).toNat + 5)) with
    | error =>
      rw [decoded] at kept
      have empty : data = [] := (Prod.mk.inj kept).2.symm
      rw [empty] at long
      exact long (by decide)
    | ok =>
      rw [decoded] at kept
      cases (Prod.mk.inj kept).1
  · intro clear
    rw [tryParseFrame, tryDecode_front formed whole missing clear]
    exact ite_self _

theorem tryParseFrame_whole (formed : WellFormed function pdu) :
    tryParseFrame (new unit pdu).encode = (some (new unit pdu), []) ↔
      function ≠ .readWriteMultipleRegisters := by
  have five := formed.five_le
  have size := length_encode_new unit pdu
  have long : ¬(new unit pdu).encode.length < 4 := by omega
  rw [tryParseFrame, if_neg long, tryDecode_whole formed]
  by_cases guessed : function = .readWriteMultipleRegisters
  · rw [if_pos guessed]
    exact iff_of_false (fun same => nomatch (Prod.mk.inj same).1) (fun other => other guessed)
  · have taken : (new unit pdu).encode.drop (new unit pdu).frameSize = [] := by
      apply List.drop_of_length_le
      rw [size, frameSize]
      show pdu.length + 3 ≤ 1 + pdu.length + 2
      omega
    rw [if_neg guessed]
    simp only [taken, ne_eq, guessed, not_false_eq_true]

/-- A run returns a frame at the end exactly if each front of the reads is kept and the whole is
taken. -/
theorem outputs_eq_iff (frame : RtuFrame) (buffer : Bytes) (before : List Bytes) (last : Bytes) :
    outputs serve buffer (before ++ [last]) =
        before.inits.tail.map (fun reads => (none, buffer ++ reads.flatten)) ++ [(some frame, [])] ↔
      (∀ reads ∈ before.inits.tail,
        tryParseFrame (buffer ++ reads.flatten) = (none, buffer ++ reads.flatten)) ∧
      tryParseFrame (buffer ++ (before ++ [last]).flatten) = (some frame, []) := by
  induction before generalizing buffer with
  | nil => simp [serve, receive]
  | cons read before ih =>
    have fronts : (read :: before).inits.tail =
        [read] :: before.inits.tail.map (fun reads => read :: reads) := by
      cases before <;> simp
    have later := ih (buffer ++ read)
    rw [fronts, List.cons_append, outputs_cons, List.map_cons, List.cons_append,
      List.cons.injEq, List.forall_mem_cons, and_assoc]
    simp only [serve, receive, List.flatten_cons, List.flatten_nil, List.append_nil,
      List.map_map, Function.comp_def, List.forall_mem_map, ← List.append_assoc] at later ⊢
    apply and_congr_right
    intro kept
    rw [kept]
    exact later

/-- Received exactly if the server guesses the length of the function and no cut is ambiguous. -/
theorem request_received_iff (unit : UInt8) (function : FunctionCode) (pdu : Bytes)
    (formed : WellFormed function pdu) (before : List Bytes) (last : Bytes)
    (sent : (before ++ [last]).flatten = (new unit pdu).encode)
    (filled : ∀ read ∈ before ++ [last], read ≠ []) :
    ReceivedWhole (new unit pdu) before last ↔ function ≠ .readWriteMultipleRegisters ∧
        ∀ reads ∈ before.inits, ¬Ambiguous function pdu reads.flatten.length := by
  have remaining : last ≠ [] := filled last (by simp)
  have front (reads : List Bytes) (listed : reads ∈ before.inits) :
      tryParseFrame reads.flatten = (none, reads.flatten) ↔
        ¬Ambiguous function pdu reads.flatten.length := by
    obtain ⟨later, rfl⟩ := (List.mem_inits reads before).mp listed
    have whole : reads.flatten ++ (later.flatten ++ last) = (new unit pdu).encode := by
      rw [← sent]
      simp
    exact tryParseFrame_front formed whole (by simp [remaining])
  have run := outputs_eq_iff (new unit pdu) [] before last
  simp only [List.nil_append, sent] at run
  rw [ReceivedWhole, run, tryParseFrame_whole formed, and_comm]
  apply and_congr_right
  intro _
  constructor
  · intro kept reads listed
    cases reads with
    | nil =>
      rintro ⟨_, enough, _⟩
      simp at enough
    | cons =>
      apply (front _ listed).mp
      apply kept
      cases before <;> simp_all
  · intro clear reads listed
    exact (front reads (List.mem_of_mem_tail listed)).mpr (clear reads (List.mem_of_mem_tail listed))

/-- A read of ten registers in two reads of four bytes. -/
theorem request_received_in_halves : WellFormed .readHoldingRegisters [3, 0, 0, 0, 10] ∧
      ReceivedWhole (new 1 [3, 0, 0, 0, 10]) [[1, 3, 0, 0]] [0, 10, 0xC5, 0xCD] := by
  have formed : WellFormed .readHoldingRegisters [3, 0, 0, 0, 10] := ⟨rfl, ⟨_, rfl⟩, rfl⟩
  refine ⟨formed, (request_received_iff 1 _ _ formed _ _ ?_ ?_).mpr ⟨?_, ?_⟩⟩
  · decide +kernel
  · decide
  · decide
  · decide

/-- The address passes for a byte count, or no length is guessed. -/
theorem requests_not_received : (WellFormed .readHoldingRegisters [3, 0, 0, 0, 10] ∧
      [[1, 3, 0, 0, 0], [10, 0xC5, 0xCD]].flatten = (new 1 [3, 0, 0, 0, 10]).encode ∧
      outputs serve [] [[1, 3, 0, 0, 0], [10, 0xC5, 0xCD]] =
        [(none, []), (none, [10, 0xC5, 0xCD])]) ∧
    WellFormed .readWriteMultipleRegisters [0x17, 0, 0, 0, 1, 0, 0, 0, 1, 2, 0, 7] ∧
      outputs serve [] [(new 1 [0x17, 0, 0, 0, 1, 0, 0, 0, 1, 2, 0, 7]).encode] =
        [(none, (new 1 [0x17, 0, 0, 0, 1, 0, 0, 0, 1, 2, 0, 7]).encode)] := by
  refine ⟨⟨⟨rfl, ⟨_, rfl⟩, rfl⟩, ?_, ?_⟩, ⟨rfl, ⟨_, rfl⟩, rfl⟩, ?_⟩
  · decide +kernel
  · decide +kernel
  · decide +kernel

end RtuServer

end Mabinogion.Modbus
