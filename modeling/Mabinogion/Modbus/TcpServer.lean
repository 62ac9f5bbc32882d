import Mabinogion.Modbus.ArrayModel
import Mathlib.Data.List.ReduceOption

/-!
# The TCP server

A connection from bytes to bytes, without injected faults and custom functions, where broadcasts
go to given units. However the bytes are cut, a client sees one set of arrays for each unit.
-/

namespace Mabinogion.Modbus

open Checked Function Transducer MbapCodec SparseRegisterStore StreamDecoder RegisterBank
  StandardModbusService
open List (cons_ne_nil)

def ExceptionCode.asU8 : ExceptionCode → UInt8
  | illegalFunction => 0x01
  | illegalDataAddress => 0x02
  | illegalDataValue => 0x03
  | slaveDeviceFailure => 0x04

def buildExceptionPdu (functionCode exceptionCode : UInt8) : Bytes :=
  [functionCode ||| 0x80, exceptionCode]

namespace MbapFrame

variable (request : MbapFrame)

def response (responsePdu : Bytes) : MbapFrame :=
  .new request.header.transactionId request.header.unitId responsePdu

def exception (code : UInt8) : MbapFrame :=
  request.response (buildExceptionPdu (request.pdu.headD 0) code)

def replyWith : Reply → MbapFrame
  | .ok bytes => request.response bytes
  | .error code => request.exception code.asU8

end MbapFrame

def executeBuiltinWriteOnly {Store : Type} (space : AddressSpace Store) :
    SemanticRequest → Checked Store SemanticFailure Unit
  | .writeSingleCoil address value => onStore (space.writeCoil address value)
  | .writeSingleRegister address value => onStore (space.writeHoldingRegister address value)
  | .writeMultipleCoils address values => onStore (space.writeCoils address values)
  | .writeMultipleRegisters address values => onStore (space.writeHoldingRegisters address values)
  | .maskWriteRegister address andMask orMask =>
    onStore (space.maskWriteHoldingRegister address andMask orMask)
  | _ => fail .illegalFunction

namespace TcpServer

abbrev Stores : Type := UInt8 → SparseRegisterStore

/-- The loop ends at the first failure. What it returns is not sent. -/
def executeBroadcast (nanos : Nat) (request : SemanticRequest) : Bytes → Stores → Stores
  | [], stores => stores
  | unit :: targets, stores =>
    match executeBuiltinWriteOnly (space nanos) request (stores unit) with
    | .ok _ after => executeBroadcast nanos request targets (update stores unit after)
    | outcome => update stores unit (outcome.final (stores unit))

section

variable (units : Finset UInt8) (targets : Bytes)

/-- `execute_transport_request`, with the response of `handle_connection` if there is one. -/
def respond (stores : Stores) (request : Nat × MbapFrame) : Option MbapFrame × Stores :=
  let (nanos, frame) := request
  let unit := frame.header.unitId
  if unit = 0 then
    (none, match parseSemanticRequest frame.pdu true stores with
    | .ok semantic _ => executeBroadcast nanos semantic targets stores
    | _ => stores)
  else if unit ∈ units then
    let served := serve .standard (stores unit) (nanos, frame.pdu)
    (served.1.map frame.replyWith, update stores unit served.2)
  else (some (frame.exception 0x0B), stores)

def handleConnection (stores : Stores) (clock : Nat → Nat) (pieces : List Bytes) : Bytes :=
  let frames := (codec.feed (.waitingForHeader, []) pieces).frames
  let replies := outputs (respond units targets) stores
    (frames.mapIdx fun place frame => (clock place, frame))
  (replies.reduceOption.map MbapFrame.encode).flatten

variable (configs : UInt8 → RegisterStoreConfig)

/-- The targets carry out the request one after the other until one refuses. -/
def broadcast (pdu : Bytes) : Bytes → (UInt8 → RegisterBank) → UInt8 → RegisterBank
  | [], banks => banks
  | unit :: targets, banks =>
    let stepped := step (configs unit).getRange (banks unit) pdu
    match stepped.1 with
    | .ok _ => broadcast pdu targets (update banks unit stepped.2)
    | .error _ => update banks unit stepped.2

/-- What a client expects of units that are arrays. -/
def expected (banks : UInt8 → RegisterBank) (frame : MbapFrame) :
    Option MbapFrame × (UInt8 → RegisterBank) :=
  let unit := frame.header.unitId
  if unit = 0 then
    (none, match requestOf frame.pdu with
    | .ok request =>
      if request.allowsBroadcast then broadcast configs frame.pdu targets banks else banks
    | .error _ => banks)
  else if unit ∈ units then
    let stepped := step (configs unit).getRange (banks unit) frame.pdu
    (some (frame.replyWith stepped.1), update banks unit stepped.2)
  else (some (frame.exception 0x0B), banks)

end

/-- A frame that the codec reads back. -/
def Framed (frame : MbapFrame) : Prop :=
  Built frame ∧ frame.pdu ≠ [] ∧ frame.pdu.length < maxPduSize

variable {units : Finset UInt8} {targets : Bytes} {configs : UInt8 → RegisterStoreConfig}
  {request : SemanticRequest} {pdu : Bytes}

def Stand (configs : UInt8 → RegisterStoreConfig) (stores : Stores)
    (banks : UInt8 → RegisterBank) : Prop :=
  ∀ unit, StandsFor (configs unit) (stores unit) (banks unit)

theorem Stand.update {stores : Stores} {banks : UInt8 → RegisterBank} {unit : UInt8}
    {store : SparseRegisterStore} {bank : RegisterBank} (stand : Stand configs stores banks)
    (stands : StandsFor (configs unit) store bank) :
    Stand configs (update stores unit store) (update banks unit bank) := by
  intro other
  rcases eq_or_ne other unit with rfl | different
  · simpa only [update_self] using stands
  · simpa only [update_of_ne different] using stand other

theorem executeBuiltin_writeOnly {Store : Type} (space : AddressSpace Store)
    (allowed : request.allowsBroadcast) :
    ∃ acknowledgement, executeBuiltin space request =
      executeBuiltinWriteOnly space request >>= fun _ => pure acknowledgement := by
  cases request with
  | writeSingleCoil | writeSingleRegister | writeMultipleCoils | writeMultipleRegisters
  | maskWriteRegister => exact ⟨_, rfl⟩
  | _ => cases allowed

/-- A target does what it does with the request if it is sent to the target alone. -/
theorem serve_writeOnly (meant : requestOf pdu = .ok request) (allowed : request.allowsBroadcast)
    (nanos : Nat) (store : SparseRegisterStore) :
    ∃ bytes, serve .standard store (nanos, pdu) =
      match executeBuiltinWriteOnly (space nanos) request store with
      | .ok _ after => (some (.ok bytes), after)
      | .err error after => (some (.error error.exceptionCode), after)
      | .fault _ => (none, store) := by
  obtain ⟨acknowledgement, executed⟩ := executeBuiltin_writeOnly (space nanos) allowed
  refine ⟨responseBytes acknowledgement, ?_⟩
  rw [serve, dispatchRequest_eq standard_builtinOnly, meant, ofExcept_ok, return_bind, answer,
    executed]
  simp only [bind_apply, andThen, mapErr]
  cases executeBuiltinWriteOnly (space nanos) request store <;> rfl

theorem executeBroadcast_stand (meant : requestOf pdu = .ok request)
    (allowed : request.allowsBroadcast) (fixed : ∀ unit, (configs unit).FixedDefaults) (nanos : Nat)
    {stores : Stores} {banks : UInt8 → RegisterBank} (stand : Stand configs stores banks) :
    Stand configs (executeBroadcast nanos request targets stores)
      (broadcast configs pdu targets banks) := by
  induction targets generalizing stores banks with
  | nil => exact stand
  | cons unit targets ih =>
    obtain ⟨replied, stands⟩ :=
      serve_standsFor standard_builtinOnly (fixed unit) _ _ (nanos, pdu) (stand unit)
    obtain ⟨bytes, served⟩ := serve_writeOnly meant allowed nanos (stores unit)
    rw [served] at replied stands
    rw [executeBroadcast, broadcast]
    cases ran : executeBuiltinWriteOnly (space nanos) request (stores unit) with
    | ok =>
      simp only [ran] at replied stands
      simp only [← Option.some.inj replied]
      exact ih (stand.update stands)
    | err =>
      simp only [ran] at replied stands
      simp only [← Option.some.inj replied]
      exact stand.update stands
    | fault => simp [ran] at replied

theorem parseSemanticRequest_broadcast {State : Type} (state : State) :
    parseSemanticRequest pdu true state = match requestOf pdu with
      | .ok request =>
        if request.allowsBroadcast then .ok request state else .err .illegalFunction state
      | .error code => .err code state := by
  cases pdu with
  | nil => rfl
  | cons code fields =>
    show (parseFunction code (code :: fields) >>= _) state = _
    rw [parseFunction_eq]
    cases requestOf (code :: fields) with
    | error => rfl
    | ok request =>
      cases allowed : request.allowsBroadcast <;>
        simp [bind_apply, andThen, ofExcept_ok, allowed, failIf]

theorem respond_expected (fixed : ∀ unit, (configs unit).FixedDefaults) (stores : Stores)
    (banks : UInt8 → RegisterBank) (request : Nat × MbapFrame)
    (stand : Stand configs stores banks) :
    (respond units targets stores request).1 = (expected units targets configs banks request.2).1 ∧
      Stand configs (respond units targets stores request).2
        (expected units targets configs banks request.2).2 := by
  obtain ⟨nanos, frame⟩ := request
  simp only [respond, expected]
  split_ifs with everyone known
  · refine ⟨rfl, ?_⟩
    rw [parseSemanticRequest_broadcast]
    cases meant : requestOf frame.pdu with
    | error => exact stand
    | ok =>
      simp only
      split_ifs with allowed
      · exact executeBroadcast_stand meant allowed fixed nanos stand
      · exact stand
  · obtain ⟨replied, stands⟩ :=
      serve_standsFor standard_builtinOnly (fixed _) _ _ (nanos, frame.pdu) (stand _)
    exact ⟨by simp only [replied, Option.map_some], stand.update stands⟩
  · exact ⟨rfl, stand⟩

theorem counted_short {code count : UInt8} {payload : Bytes} (short : payload.length ≤ 250) :
    code :: count :: payload ≠ [] ∧ (code :: count :: payload).length < maxPduSize :=
  ⟨cons_ne_nil _ _, by simp only [List.length_cons, maxPduSize]; omega⟩

theorem respond_short {ranges : RegisterType → AddressRange} {bank : RegisterBank}
    {request : SemanticRequest} (fits : request.Fits) {bytes : Bytes}
    (answered : (bank.respond ranges request).1 = .ok bytes) :
    bytes ≠ [] ∧ bytes.length < maxPduSize := by
  cases request with
  | readCoils | readDiscreteInputs =>
    cases guarded_ok answered
    have few := fits.2.1
    exact counted_short (by rw [BitPacking.length_pack, length_slice]; omega)
  | readHoldingRegisters | readInputRegisters =>
    cases guarded_ok answered
    have few := fits.2.1
    exact counted_short (by rw [length_flatMap_putU16, length_slice]; omega)
  | writeSingleCoil | writeSingleRegister | writeMultipleCoils | writeMultipleRegisters
  | maskWriteRegister =>
    cases guarded_ok answered
    exact ⟨cons_ne_nil _ _, by simp [length_putU16, maxPduSize]⟩
  | readWriteMultipleRegisters =>
    cases guarded_ok (guarded_ok answered)
    have few := fits.1.2.1
    exact counted_short (by rw [length_flatMap_putU16, length_slice]; omega)
  | custom => cases answered

theorem framed_expected (banks : UInt8 → RegisterBank) (frame : MbapFrame) :
    ∀ reply ∈ (expected units targets configs banks frame).1, Framed reply := by
  have exception (code : UInt8) : Framed (frame.exception code) :=
    ⟨rfl, cons_ne_nil _ _, show 2 < 253 by decide⟩
  rw [expected]
  split_ifs
  · exact nofun
  · rintro _ ⟨⟩
    cases meant : requestOf frame.pdu with
    | error =>
      simp only [step, meant]
      exact exception _
    | ok request =>
      simp only [step, meant]
      cases replied : (RegisterBank.respond _ _ request).1 with
      | error => exact exception _
      | ok => exact ⟨rfl, respond_short (requestOf_fits meant) replied⟩
  · rintro _ ⟨⟩
    exact exception _

theorem feed_framed {frames : List MbapFrame} {pieces : List Bytes}
    (framed : ∀ frame ∈ frames, Framed frame)
    (whole : pieces.flatten = (frames.map MbapFrame.encode).flatten) :
    codec.feed (.waitingForHeader, []) pieces = ⟨frames, .ok (.waitingForHeader, [])⟩ := by
  rw [codec_incremental.feed_eq pieces drain_nil, List.nil_append, whole]
  exact drain_frames (fun frame listed => (framed frame listed).1)
    (fun frame listed => (framed frame listed).2.1) fun frame listed => (framed frame listed).2.2

/-- The answers come in the order of the requests, with their transactions and units. -/
theorem client_sees_arrays (fixed : ∀ unit, (configs unit).FixedDefaults) (callbacks : Bool)
    (clock : Nat → Nat) {requests : List MbapFrame} (framed : ∀ frame ∈ requests, Framed frame)
    {sent received : List Bytes}
    (requested : sent.flatten = (requests.map MbapFrame.encode).flatten)
    (answered : received.flatten =
      handleConnection units targets (fun unit => new (configs unit) callbacks) clock sent) :
    codec.feed (.waitingForHeader, []) received =
      ⟨(outputs (expected units targets configs) (fun unit => initial (configs unit))
        requests).reduceOption, .ok (.waitingForHeader, [])⟩ := by
  apply feed_framed
  · intro frame listed
    exact @outputs_hold _ _ _ (expected units targets configs)
      (fun reply => ∀ frame ∈ reply, Framed frame) framed_expected _ _ _
      (List.reduceOption_mem_iff.mp listed) frame rfl
  · have replies := (@outputs_simulation _ _ _ (respond units targets) _ _ _
      (expected units targets configs) Prod.snd id (Stand configs) (respond_expected fixed) _ _
      (requests.mapIdx fun place frame => (clock place, frame))
      fun unit => new_standsFor (fixed unit) callbacks).1
    have unclocked : (requests.mapIdx fun place frame => (clock place, frame)).map Prod.snd =
        requests := by
      apply List.ext_getElem <;> simp
    rw [answered, handleConnection, feed_framed framed requested, replies, List.map_id, unclocked]

/-- A register is written in all units, and one unit reads it. -/
theorem broadcast_read_over_tcp : codec.feed (.waitingForHeader, []) [handleConnection {1, 2} [1, 2]
        (fun _ => new everything false) id
        [[0, 6, 0, 0, 0, 6, 0, 6, 0, 7, 0, 9, 0, 7, 0], [0, 0, 6, 2, 3, 0, 7, 0, 1]]] =
      ⟨[.new 7 2 [3, 2, 0, 9]], .ok (.waitingForHeader, [])⟩ := by
  refine (@client_sees_arrays {1, 2} [1, 2] (fun _ => everything) (fun _ => everything_fixed) false
    id [.new 6 0 [6, 0, 7, 0, 9], .new 7 2 [3, 0, 7, 0, 1]] ?_ [[0, 6, 0, 0, 0, 6, 0, 6, 0, 7, 0, 9,
    0, 7, 0], [0, 0, 6, 2, 3, 0, 7, 0, 1]] _ (by decide) (List.append_nil _)).trans rfl
  rintro _ (_ | ⟨_, _ | ⟨_, ⟨⟩⟩⟩) <;> exact ⟨rfl, cons_ne_nil _ _, by decide⟩

end TcpServer

end Mabinogion.Modbus
