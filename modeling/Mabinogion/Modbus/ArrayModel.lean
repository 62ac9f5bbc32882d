import Mabinogion.Library.Transducer
import Mabinogion.Modbus.SparseStore

/-!
# The service as four arrays

A client of the service sees a value at every address for each kind of registers, and a range
of addresses. The service with a sparse store answers as such arrays do.
-/

namespace Mabinogion.Modbus

open Checked ByteCursor BitPacking ShardedRegisterMap UInt16 Transducer

structure RegisterBank where
  coils : UInt16 → Bool
  discreteInputs : UInt16 → Bool
  holdingRegisters : UInt16 → UInt16
  inputRegisters : UInt16 → UInt16

abbrev Reply : Type := Except ExceptionCode Bytes

variable {address : UInt16} {next : Reply × RegisterBank}

namespace RegisterBank

section

variable {Cell : Type} (array : UInt16 → Cell) (address : UInt16)

def slice (quantity : Nat) : List Cell :=
  (List.range quantity).map fun index => array (UInt16.ofNat (address.toNat + index))

def overlay (values : List Cell) : UInt16 → Cell := fun place =>
  if address ≤ place then values.getD (place.toNat - address.toNat) (array place)
  else array place

end

theorem overlay_eq_self_iff {Cell : Type} {array : UInt16 → Cell}
    {values : List Cell} (room : address.toNat + values.length ≤ 65536) :
    overlay array address values = array ↔ ∀ index value, values[index]? = some value →
      array (ofNat (address.toNat + index)) = value := by
  constructor
  · intro same index value listed
    have inside : index < values.length := (List.getElem?_eq_some_iff.mp listed).1
    have place : (ofNat (address.toNat + index)).toNat = address.toNat + index :=
      toNat_ofNat_of_lt' (Nat.lt_of_lt_of_le (by omega) room)
    have behind : address ≤ ofNat (address.toNat + index) := by
      rw [le_iff_toNat_le, place]
      omega
    have here := congrFun same (ofNat (address.toNat + index))
    rw [overlay, if_pos behind, place, Nat.add_sub_cancel_left, List.getD_eq_getElem?_getD,
      listed] at here
    exact here.symm
  · intro there
    funext place
    rw [overlay]
    by_cases behind : address ≤ place
    · have reached : address.toNat ≤ place.toNat := le_iff_toNat_le.mp behind
      rw [if_pos behind, List.getD_eq_getElem?_getD]
      cases listed : values[place.toNat - address.toNat]? with
      | none => rfl
      | some =>
        have here := there _ _ listed
        rw [Nat.add_sub_cancel' reached, UInt16.ofNat_toNat] at here
        exact here.symm
    · rw [if_neg behind]

def bitsReply (code : UInt8) (values : List Bool) : Reply :=
  .ok (code :: UInt8.ofNat ((values.length + 7) / 8) :: pack values)

def wordsReply (code : UInt8) (values : List UInt16) : Reply :=
  .ok (code :: UInt8.ofNat (values.length * 2) :: values.flatMap putU16)

variable (ranges : RegisterType → AddressRange)

/-- A request outside of the range is an exception. -/
def guarded (kind : RegisterType) (address : UInt16) (quantity : Nat) (bank : RegisterBank)
    (next : Reply × RegisterBank) : Reply × RegisterBank :=
  if (ranges kind).Covers address quantity then next else (.error .illegalDataAddress, bank)

def respond (bank : RegisterBank) : SemanticRequest → Reply × RegisterBank
  | .readCoils address quantity =>
    guarded ranges .coil address quantity.toNat bank
      (bitsReply 0x01 (slice bank.coils address quantity.toNat), bank)
  | .readDiscreteInputs address quantity =>
    guarded ranges .discreteInput address quantity.toNat bank
      (bitsReply 0x02 (slice bank.discreteInputs address quantity.toNat), bank)
  | .readHoldingRegisters address quantity =>
    guarded ranges .holdingRegister address quantity.toNat bank
      (wordsReply 0x03 (slice bank.holdingRegisters address quantity.toNat), bank)
  | .readInputRegisters address quantity =>
    guarded ranges .inputRegister address quantity.toNat bank
      (wordsReply 0x04 (slice bank.inputRegisters address quantity.toNat), bank)
  | .writeSingleCoil address value =>
    guarded ranges .coil address 1 bank
      (.ok (0x05 :: (putU16 address ++ putU16 (if value then 0xFF00 else 0x0000))),
        { bank with coils := overlay bank.coils address [value] })
  | .writeSingleRegister address value =>
    guarded ranges .holdingRegister address 1 bank
      (.ok (0x06 :: (putU16 address ++ putU16 value)),
        { bank with holdingRegisters := overlay bank.holdingRegisters address [value] })
  | .writeMultipleCoils address values =>
    guarded ranges .coil address values.length bank
      (.ok (0x0F :: (putU16 address ++ putU16 (UInt16.ofNat values.length))),
        { bank with coils := overlay bank.coils address values })
  | .writeMultipleRegisters address values =>
    guarded ranges .holdingRegister address values.length bank
      (.ok (0x10 :: (putU16 address ++ putU16 (UInt16.ofNat values.length))),
        { bank with holdingRegisters := overlay bank.holdingRegisters address values })
  | .maskWriteRegister address andMask orMask =>
    guarded ranges .holdingRegister address 1 bank
      (.ok (0x16 :: (putU16 address ++ putU16 andMask ++ putU16 orMask)), { bank with
          holdingRegisters := overlay bank.holdingRegisters address
            [maskFormula (bank.holdingRegisters address) andMask orMask] })
  | .readWriteMultipleRegisters readAddress readQuantity writeAddress values =>
    let written :=
      { bank with holdingRegisters := overlay bank.holdingRegisters writeAddress values }
    guarded ranges .holdingRegister writeAddress values.length bank
      (guarded ranges .holdingRegister readAddress readQuantity.toNat written
        (wordsReply 0x17 (slice written.holdingRegisters readAddress readQuantity.toNat), written))
  | .custom _ _ => (.error .illegalFunction, bank)

def step (bank : RegisterBank) (pdu : Bytes) : Reply × RegisterBank :=
  match requestOf pdu with
  | .error code => (.error code, bank)
  | .ok request => respond ranges bank request

/-- Short enough for a frame and, where a byte count follows the function code, as long as it
says. -/
def WellSized (bytes : Bytes) : Prop :=
  bytes.length ≤ 253 ∧ ∀ code count payload, bytes = code :: count :: payload →
      code ∈ [0x01, 0x02, 0x03, 0x04, 0x17] → count.toNat = payload.length

def initial (config : RegisterStoreConfig) : RegisterBank where
  coils _ := config.coils.defaultValue.getBool 0
  discreteInputs _ := config.discreteInputs.defaultValue.getBool 0
  holdingRegisters _ := config.holdingRegisters.defaultValue.getWord 0
  inputRegisters _ := config.inputRegisters.defaultValue.getWord 0

section

variable {ranges : RegisterType → AddressRange}

theorem length_slice {Cell : Type} (array : UInt16 → Cell) (address : UInt16) (quantity : Nat) :
    (slice array address quantity).length = quantity := by
  simp [slice]

theorem length_putU16 (value : UInt16) : (putU16 value).length = 2 := rfl

theorem length_flatMap_putU16 (values : List UInt16) :
    (values.flatMap putU16).length = values.length * 2 := by
  induction values with
  | nil => rfl
  | cons value values ih =>
    rw [List.flatMap_cons, List.length_append, ih, length_putU16, List.length_cons]
    omega

variable (bank : RegisterBank) {code : UInt8}

theorem wellSized_counted {count : Nat} {payload : Bytes} (length : payload.length = count)
    (short : count ≤ 251) : WellSized (code :: UInt8.ofNat count :: payload) := by
  refine ⟨by simp only [List.length_cons]; omega, ?_⟩
  rintro _ _ _ same _
  cases same
  have small : count < 256 := by omega
  rw [UInt8.toNat_ofNat_of_lt' small, length]

theorem wellSized_bits {values : List Bool} (few : values.length ≤ 2000) :
    WellSized (code :: UInt8.ofNat ((values.length + 7) / 8) :: pack values) :=
  wellSized_counted (length_pack values) (by omega)

theorem wellSized_words {values : List UInt16} (few : values.length ≤ 125) :
    WellSized (code :: UInt8.ofNat (values.length * 2) :: values.flatMap putU16) :=
  wellSized_counted (length_flatMap_putU16 values) (by omega)

theorem wellSized_ack {fields : Bytes} (short : fields.length ≤ 252)
    (other : code ∉ [0x01, 0x02, 0x03, 0x04, 0x17]) : WellSized (code :: fields) := by
  refine ⟨by simp only [List.length_cons]; omega, ?_⟩
  rintro _ _ _ same counted
  cases same
  exact absurd counted other

theorem guarded_ok {kind : RegisterType} {quantity : Nat} {bank : RegisterBank} {bytes : Bytes}
    (answered : (guarded ranges kind address quantity bank next).1 = .ok bytes) :
    next.1 = .ok bytes := by
  rw [guarded] at answered
  split_ifs at answered
  exact answered

theorem respond_wellSized {request : SemanticRequest} (fits : request.Fits) {bytes : Bytes}
    (answered : (respond ranges bank request).1 = .ok bytes) : WellSized bytes := by
  cases request with
  | readCoils | readDiscreteInputs =>
    cases guarded_ok answered
    exact wellSized_bits (by rw [length_slice]; exact fits.2.1)
  | readHoldingRegisters | readInputRegisters =>
    cases guarded_ok answered
    exact wellSized_words (by rw [length_slice]; exact fits.2.1)
  | writeSingleCoil | writeSingleRegister | writeMultipleCoils | writeMultipleRegisters
  | maskWriteRegister =>
    cases guarded_ok answered
    exact wellSized_ack (by simp [length_putU16]) (by decide)
  | readWriteMultipleRegisters =>
    cases guarded_ok (guarded_ok answered)
    exact wellSized_words (by rw [length_slice]; exact fits.1.2.1)
  | custom => cases answered

theorem step_wellSized {pdu : Bytes} :
    ∀ bytes, (step ranges bank pdu).1 = .ok bytes → WellSized bytes := by
  intro bytes answered
  cases meant : requestOf pdu with
  | error =>
    rw [step, meant] at answered
    cases answered
  | ok =>
    rw [step, meant] at answered
    exact respond_wellSized bank (requestOf_fits meant) answered

end

end RegisterBank

variable {config : RegisterStoreConfig}

namespace SparseRegisterStore

open RegisterBank

def array {Cell : Type} (map : ShardedRegisterMap Cell) (default : Cell) : UInt16 → Cell :=
  fun place => (map.cell place).getD default

def contents (nanos : Nat) (store : SparseRegisterStore) : RegisterBank where
  coils := array store.coils (store.config.coils.defaultValue.getBool nanos)
  discreteInputs :=
    array store.discreteInputs (store.config.discreteInputs.defaultValue.getBool nanos)
  holdingRegisters :=
    array store.holdingRegisters (store.config.holdingRegisters.defaultValue.getWord nanos)
  inputRegisters :=
    array store.inputRegisters (store.config.inputRegisters.defaultValue.getWord nanos)

theorem array_insertAll {Cell : Type} [Inhabited Cell] {values : List Cell}
    (room : address.toNat + values.length ≤ 65536) (map : ShardedRegisterMap Cell)
    (default : Cell) :
    array (insertAll address.toNat values map) default =
      overlay (array map default) address values := by
  funext place
  rw [array, cell_insertAll room, overlay]
  by_cases behind : address ≤ place
  · have reached : address.toNat ≤ place.toNat := le_iff_toNat_le.mp behind
    by_cases inside : place.toNat < address.toNat + values.length
    · have listed : place.toNat - address.toNat < values.length := by omega
      rw [if_pos ⟨reached, inside⟩, if_pos behind, List.getD_eq_getElem _ _ listed,
        List.getElem?_eq_getElem listed]
      rfl
    · have past : values.length ≤ place.toNat - address.toNat := by omega
      rw [if_neg (fun both => inside both.2), if_pos behind, List.getD_eq_default _ _ past]
      rfl
  · have before : ¬address.toNat ≤ place.toNat := fun reached =>
      behind (le_iff_toNat_le.mpr reached)
    rw [if_neg (fun both => before both.1), if_neg behind]
    rfl

section

variable {nanos : Nat} {store : SparseRegisterStore}

theorem contents_withCoils {values : List Bool} (room : address.toNat + values.length ≤ 65536) :
    contents nanos (store.withCoils (insertAll address.toNat values store.coils)) =
        { contents nanos store with
          coils := overlay (contents nanos store).coils address values } := by
  simp only [contents, withCoils, array_insertAll room]

theorem contents_withHoldingRegisters {values : List UInt16}
    (room : address.toNat + values.length ≤ 65536) :
    contents nanos (store.withHoldingRegisters
      (insertAll address.toNat values store.holdingRegisters)) = { contents nanos store with
          holdingRegisters := overlay (contents nanos store).holdingRegisters address values } := by
  simp only [contents, withHoldingRegisters, array_insertAll room]

/-- With fixed defaults the clock does not matter. -/
theorem contents_eq (fixed : store.config.FixedDefaults) (first second : Nat) :
    contents first store = contents second store := by
  have coils : store.config.coils.defaultValue.Fixed := fixed .coil
  have discrete : store.config.discreteInputs.defaultValue.Fixed := fixed .discreteInput
  have holding : store.config.holdingRegisters.defaultValue.Fixed := fixed .holdingRegister
  have inputs : store.config.inputRegisters.defaultValue.Fixed := fixed .inputRegister
  simp only [contents, coils.getBool_eq first second, discrete.getBool_eq first second,
    holding.getWord_eq first second, inputs.getWord_eq first second]

end

section

variable {nanos : Nat} {store : SparseRegisterStore}

/-- An outcome is the answer of the arrays, and leaves a store that stands for the arrays. -/
def Answers (nanos : Nat) (config : RegisterStoreConfig)
    (outcome : Outcome SparseRegisterStore ExceptionCode Bytes)
    (model : Reply × RegisterBank) : Prop :=
  ∃ after, outcome = ofExcept model.1 after ∧ contents nanos after = model.2 ∧ after.config = config

variable {outcome : Outcome SparseRegisterStore ExceptionCode Bytes}

theorem answers_guarded {kind : RegisterType} {quantity : Nat}
    (inside : (store.config.getRange kind).Covers address quantity →
      Answers nanos store.config outcome next)
    (outside : ¬(store.config.getRange kind).Covers address quantity →
      outcome = .err .illegalDataAddress store) :
    Answers nanos store.config outcome
      (guarded store.config.getRange kind address quantity (contents nanos store) next) := by
  rw [guarded]
  by_cases covers : (store.config.getRange kind).Covers address quantity
  · rw [if_pos covers]
    exact inside covers
  · rw [if_neg covers]
    exact ⟨store, outside covers, rfl, rfl⟩

theorem reported_refused {Value : Type} {operation : Fallible SparseRegisterStore Value}
    {respond : Value → SemanticResponse}
    (refused : ∃ error, SemanticFailure.fromModbusError error = .illegalDataAddress ∧
      operation store = .err error store) :
    reported operation respond store = .err .illegalDataAddress store := by
  obtain ⟨error, wrong, failed⟩ := refused
  rw [reported_err failed, wrong]
  rfl

theorem answer_refines (nanos : Nat) (store : SparseRegisterStore) {request : SemanticRequest}
    (fits : request.Fits) :
    Answers nanos store.config (answer (space nanos) request store)
      (respond store.config.getRange (contents nanos store) request) := by
  cases request with
  | readCoils | readDiscreteInputs | readHoldingRegisters | readInputRegisters =>
    refine answers_guarded ?_ fun outside => reported_refused (read_uncovered outside)
    intro covers
    exact ⟨store, reported_ok (read_covered covers), rfl, rfl⟩
  | writeSingleCoil address value =>
    refine answers_guarded ?_ fun outside => reported_refused (write_uncovered value outside)
    intro covers
    exact ⟨_, reported_ok (write_covered value covers), contents_withCoils covers.small, rfl⟩
  | writeSingleRegister address value =>
    refine answers_guarded ?_ fun outside => reported_refused (write_uncovered value outside)
    intro covers
    exact ⟨_, reported_ok (write_covered value covers),
      contents_withHoldingRegisters covers.small, rfl⟩
  | writeMultipleCoils address values =>
    have short : values.length < 65536 := lt_of_le_of_lt fits.2.1 (by decide)
    refine answers_guarded ?_ fun outside => reported_refused (writeAll_uncovered short outside)
    intro covers
    exact ⟨_, reported_ok (writeAll_covered short covers), contents_withCoils covers.small, rfl⟩
  | writeMultipleRegisters address values =>
    have short : values.length < 65536 := lt_of_le_of_lt fits.2.1 (by decide)
    refine answers_guarded ?_ fun outside => reported_refused (writeAll_uncovered short outside)
    intro covers
    exact ⟨_, reported_ok (writeAll_covered short covers),
      contents_withHoldingRegisters covers.small, rfl⟩
  | maskWriteRegister address andMask orMask =>
    refine answers_guarded ?_ fun outside => reported_refused (maskWrite_uncovered outside)
    intro covers
    have room : address.toNat + [maskFormula (store.holding nanos address) andMask
        orMask].length ≤ 65536 := covers.small
    exact ⟨_, reported_ok (maskWrite_covered covers), contents_withHoldingRegisters room, rfl⟩
  | readWriteMultipleRegisters readAddress readQuantity writeAddress values =>
    have short : values.length < 65536 := lt_of_le_of_lt fits.2.2.1 (by decide)
    refine answers_guarded ?_ ?_
    · intro covers
      rw [answer_readWrite_written (writeAll_covered short covers),
        ← contents_withHoldingRegisters covers.small]
      -- The read is a request to the store that has been written.
      refine answers_guarded ?_ fun outside => reported_refused (read_uncovered outside)
      intro readable
      exact ⟨_, reported_ok (read_covered readable), rfl, rfl⟩
    · intro outside
      obtain ⟨error, wrong, failed⟩ := writeAll_uncovered short outside
      rw [answer_readWrite_refused failed, wrong]
      rfl
  | custom => exact ⟨store, rfl, rfl, rfl⟩

variable {service : StandardModbusService SparseRegisterStore}

theorem dispatch_refines (builtin : service.BuiltinOnly) (nanos : Nat) (store : SparseRegisterStore)
    (pdu : Bytes) :
    Answers nanos store.config (service.dispatchRequest (space nanos) pdu store)
      (step store.config.getRange (contents nanos store) pdu) := by
  rw [dispatchRequest_eq builtin, step]
  cases meant : requestOf pdu with
  | error => exact ⟨store, rfl, rfl, rfl⟩
  | ok => exact answer_refines nanos store (requestOf_fits meant)

/-- A request as it arrives, with the reading of the clock. -/
def serve (service : StandardModbusService SparseRegisterStore) (store : SparseRegisterStore)
    (request : Nat × Bytes) : Option Reply × SparseRegisterStore :=
  let outcome := service.dispatchRequest (space request.1) request.2 store
  (outcome.returned, outcome.final store)

theorem Answers.served {model : Reply × RegisterBank} (answers : Answers nanos config outcome model)
    (before : SparseRegisterStore) :
    outcome.returned = some model.1 ∧ contents nanos (outcome.final before) =
      model.2 ∧ (outcome.final before).config = config := by
  obtain ⟨after, rfl, stands, kept⟩ := answers
  obtain ⟨reply, bank⟩ := model
  cases reply with
  | ok | error => exact ⟨rfl, stands, kept⟩

/-- A store stands for arrays whatever the clock says. -/
def StandsFor (config : RegisterStoreConfig) (store : SparseRegisterStore)
    (bank : RegisterBank) : Prop :=
  store.config = config ∧ ∀ nanos, contents nanos store = bank

theorem new_standsFor (fixed : config.FixedDefaults) (callbacks : Bool) :
    StandsFor config (new config callbacks) (initial config) := by
  refine ⟨rfl, ?_⟩
  intro nanos
  exact (@contents_eq (new config callbacks) fixed nanos 0).trans rfl

theorem serve_standsFor
    (builtin : service.BuiltinOnly) (fixed : config.FixedDefaults) (store : SparseRegisterStore)
    (bank : RegisterBank) (request : Nat × Bytes) (stands : StandsFor config store bank) :
    (serve service store request).1 = some (step config.getRange bank request.2).1 ∧
      StandsFor config (serve service store request).2 (step config.getRange bank request.2).2 := by
  obtain ⟨rfl, same⟩ := stands
  have refined := dispatch_refines builtin request.1 store request.2
  rw [same request.1] at refined
  obtain ⟨replied, kept, configured⟩ := refined.served store
  refine ⟨replied, configured, ?_⟩
  intro nanos
  rw [← kept]
  exact contents_eq (configured.symm ▸ fixed) _ _

/-- Every sequence of requests is answered as the arrays answer it. -/
theorem requests_answered_as_arrays {service : StandardModbusService SparseRegisterStore}
    (builtin : service.BuiltinOnly) {config : RegisterStoreConfig} (fixed : config.FixedDefaults)
    (callbacks : Bool) (requests : List (Nat × Bytes)) :
    outputs (serve service) (new config callbacks) requests =
        (outputs (step config.getRange) (initial config) (requests.map Prod.snd)).map some ∧
      ∀ bytes, some (Except.ok bytes) ∈ outputs (serve service) (new config callbacks) requests →
        WellSized bytes := by
  have replies := (outputs_simulation _ (serve_standsFor builtin fixed)
    (new config callbacks) (initial config) requests (new_standsFor fixed callbacks)).1
  refine ⟨replies, ?_⟩
  intro bytes replied
  rw [replies, List.mem_map_of_injective (Option.some_injective _)] at replied
  have sized := @outputs_hold _ _ _ (step config.getRange)
    (fun reply => ∀ bytes, reply = .ok bytes → WellSized bytes) step_wellSized
  exact sized _ _ _ replied bytes rfl

def everything : RegisterStoreConfig :=
  ⟨⟨⟨0, 65535⟩, .zero⟩, ⟨⟨0, 65535⟩, .zero⟩, ⟨⟨0, 65535⟩, .zero⟩, ⟨⟨0, 65535⟩, .value 9⟩⟩

theorem everything_fixed : everything.FixedDefaults := by
  intro kind
  cases kind <;> trivial

theorem requests_answered_across_segments : outputs (serve .standard) (new everything false)
        [(3, [0x17, 0x00, 0x3F, 0x00, 0x02, 0x00, 0x40, 0x00, 0x01, 0x02, 0xAB, 0xCD]),
          (8, [0x04, 0x00, 0x07, 0x00, 0x01])] =
      [some (.ok [0x17, 0x04, 0x00, 0x00, 0xAB, 0xCD]), some (.ok [0x04, 0x02, 0x00, 0x09])] :=
  (requests_answered_as_arrays StandardModbusService.standard_builtinOnly everything_fixed false
    _).1.trans (by decide +kernel)

end

end SparseRegisterStore

end Mabinogion.Modbus
