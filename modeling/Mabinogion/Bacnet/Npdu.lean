import Mabinogion.Library.ByteCursor

/-!
# Network protocol data units

The network header in front of an APDU. The encoder writes the fields that are
present, the decoder reads the fields whose flags are set, and each has a table
of its own for the types of network messages.
-/

namespace Mabinogion.Bacnet

open Checked ByteCursor

def npduVersion : UInt8 := 0x01

inductive Priority where
  | normal | urgent | criticalEquipment | lifeSafety
deriving DecidableEq

def Priority.code : Priority → UInt8
  | .normal => 0 | .urgent => 1 | .criticalEquipment => 2 | .lifeSafety => 3

def Priority.fromBits (bits : UInt8) : Priority :=
  match bits &&& 0x03 with
  | 0 => .normal
  | 1 => .urgent
  | 2 => .criticalEquipment
  | 3 => .lifeSafety
  | _ => .normal

inductive NetworkMessageType where
  | whoIsRouterToNetwork | iAmRouterToNetwork | iCouldBeRouterToNetwork | rejectMessageToNetwork
  | routerBusyToNetwork | routerAvailableToNetwork | initializeRoutingTable
  | initializeRoutingTableAck | establishConnectionToNetwork | disconnectConnectionToNetwork
  | challengeRequest | securityPayload | securityResponse | requestKeyUpdate | updateKeySet
  | updateDistributionKey | requestMasterKey | setMasterKey | whatIsNetworkNumber
  | networkNumberIs
deriving DecidableEq

namespace NetworkMessageType

def code : NetworkMessageType → UInt8
  | whoIsRouterToNetwork => 0x00 | iAmRouterToNetwork => 0x01 | iCouldBeRouterToNetwork => 0x02
  | rejectMessageToNetwork => 0x03 | routerBusyToNetwork => 0x04
  | routerAvailableToNetwork => 0x05 | initializeRoutingTable => 0x06
  | initializeRoutingTableAck => 0x07 | establishConnectionToNetwork => 0x08
  | disconnectConnectionToNetwork => 0x09 | challengeRequest => 0x0A | securityPayload => 0x0B
  | securityResponse => 0x0C | requestKeyUpdate => 0x0D | updateKeySet => 0x0E
  | updateDistributionKey => 0x0F | requestMasterKey => 0x10 | setMasterKey => 0x11
  | whatIsNetworkNumber => 0x12 | networkNumberIs => 0x13

/-- The codes from `0x0A` to `0x11` are not in the table. -/
def fromU8 : UInt8 → Option NetworkMessageType
  | 0x00 => some whoIsRouterToNetwork
  | 0x01 => some iAmRouterToNetwork
  | 0x02 => some iCouldBeRouterToNetwork
  | 0x03 => some rejectMessageToNetwork
  | 0x04 => some routerBusyToNetwork
  | 0x05 => some routerAvailableToNetwork
  | 0x06 => some initializeRoutingTable
  | 0x07 => some initializeRoutingTableAck
  | 0x08 => some establishConnectionToNetwork
  | 0x09 => some disconnectConnectionToNetwork
  | 0x12 => some whatIsNetworkNumber
  | 0x13 => some networkNumberIs
  | _ => none

end NetworkMessageType

open NetworkMessageType

structure NpduControl where
  networkLayerMessage : Bool
  destinationSpecifier : Bool
  sourceSpecifier : Bool
  expectingReply : Bool
  priority : Priority
deriving DecidableEq

namespace NpduControl

def encode (control : NpduControl) : UInt8 :=
  (if control.networkLayerMessage then 0x80 else 0) |||
    (if control.destinationSpecifier then 0x20 else 0) |||
    (if control.sourceSpecifier then 0x08 else 0) |||
    (if control.expectingReply then 0x04 else 0) |||
    (control.priority.code &&& 0x03)

def decode (byte : UInt8) : NpduControl where
  networkLayerMessage := byte &&& 0x80 != 0
  destinationSpecifier := byte &&& 0x20 != 0
  sourceSpecifier := byte &&& 0x08 != 0
  expectingReply := byte &&& 0x04 != 0
  priority := .fromBits byte

theorem decode_encode (control : NpduControl) : decode control.encode = control := by
  obtain ⟨message, destination, source, reply, priority⟩ := control
  cases priority <;> revert message destination source reply <;> decide

end NpduControl

inductive NpduError where
  | tooShort
  | invalidVersion (version : UInt8)
  | invalidControl
  | invalidAddress

structure BACnetAddress where
  network : UInt16
  address : Bytes

namespace BACnetAddress

/-- The length is written as one byte. -/
def encode (address : BACnetAddress) : Bytes :=
  putU16 address.network ++ UInt8.ofNat address.address.length :: address.address

def decode : Cursor NpduError BACnetAddress := do
  atLeast 3 .tooShort
  let network ← getU16
  let len ← getU8
  atLeast len.toNat .tooShort
  let address ← copyToSlice len.toNat
  pure ⟨network, address⟩

end BACnetAddress

open BACnetAddress

structure Npdu where
  control : NpduControl
  destination : Option BACnetAddress
  source : Option BACnetAddress
  hopCount : Option UInt8
  networkMessageType : Option NetworkMessageType
  vendorId : Option UInt16
  data : Bytes

namespace Npdu

/-- The type of a network message, with the vendor behind a type from `0x80` on. -/
def encodeMessageType (vendorId : Option UInt16) (messageType : NetworkMessageType) : Bytes :=
  messageType.code :: if messageType.code ≥ 0x80 then written putU16 vendorId else []

def encode (npdu : Npdu) : Bytes :=
  npduVersion :: npdu.control.encode :: (written BACnetAddress.encode npdu.destination ++
      (written BACnetAddress.encode npdu.source ++
        ((if npdu.control.destinationSpecifier then [npdu.hopCount.getD 255] else []) ++
          ((if npdu.control.networkLayerMessage then
              written (encodeMessageType npdu.vendorId) npdu.networkMessageType
            else []) ++ npdu.data))))

def decodeHopCount : Cursor NpduError UInt8 := do
  atLeast 1 .tooShort
  getU8

def decodeMessageType : Cursor NpduError (Option NetworkMessageType × Option UInt16) := do
  atLeast 1 .tooShort
  let byte ← getU8
  let remaining ← rest
  let vendor ← optionally (byte ≥ 0x80 && remaining.length ≥ 2) getU16
  pure (fromU8 byte, vendor)

def decodeFields : Cursor NpduError Npdu := do
  atLeast 2 .tooShort
  let version ← getU8
  failIf (version != npduVersion) (.invalidVersion version)
  let byte ← getU8
  let control := NpduControl.decode byte
  let destination ← optionally control.destinationSpecifier decode
  let source ← optionally control.sourceSpecifier decode
  let hopCount ← optionally control.destinationSpecifier decodeHopCount
  let message ← optionally control.networkLayerMessage decodeMessageType
  let data ← rest
  pure ⟨control, destination, source, hopCount, message.bind Prod.fst, message.bind Prod.snd, data⟩

def decode (data : Bytes) : Option (Except NpduError Npdu) := (decodeFields data).returned

end Npdu

theorem BACnetAddress.decode_encode (address : BACnetAddress) (data : Bytes)
    (short : address.address.length ≤ 255) :
    decode (address.encode ++ data) = .ok address data := by
  have size : (UInt8.ofNat address.address.length).toNat = address.address.length := by
    apply UInt8.toNat_ofNat_of_lt'
    exact Nat.lt_succ_of_le short
  have enough : 3 ≤ (putU16 address.network ++
      UInt8.ofNat address.address.length :: (address.address ++ data)).length := by
    rw [List.length_append, putU16, BigEndian.bytes_length, List.length_cons]
    omega
  have enoughBehind : address.address.length ≤ (address.address ++ data).length := by
    rw [List.length_append]
    exact Nat.le_add_right _ _
  rw [encode, List.append_assoc, List.cons_append, decode, bind_ok (atLeast_ok _ _ enough),
    bind_ok (getU16_putU16 _ _), bind_ok (getU8_cons _ _), size,
    bind_ok (atLeast_ok _ _ enoughBehind), bind_ok (copyToSlice_append _ _)]
  rfl

namespace Npdu

theorem decodeHopCount_cons (hopCount : UInt8) (data : Bytes) :
    decodeHopCount ([hopCount] ++ data) = .ok hopCount data := by
  rw [decodeHopCount, List.singleton_append,
    bind_ok (atLeast_ok _ _ (Nat.succ_le_succ (Nat.zero_le _))), getU8_cons]

variable (vendorId : Option UInt16) {npdu : Npdu} (messageType : NetworkMessageType)

theorem encodeMessageType_eq : encodeMessageType vendorId messageType = [messageType.code] := by
  have standard : ¬messageType.code ≥ 0x80 := by
    cases messageType <;> decide
  rw [encodeMessageType, if_neg standard]

theorem decodeMessageType_encode (data : Bytes) :
    decodeMessageType (encodeMessageType vendorId messageType ++ data) =
      .ok (fromU8 messageType.code, none) data := by
  have standard : decide (messageType.code ≥ 0x80) = false := by
    cases messageType <;> decide
  rw [encodeMessageType_eq, decodeMessageType, List.singleton_append,
    bind_ok (atLeast_ok _ _ (Nat.succ_le_succ (Nat.zero_le _))),
    bind_ok (getU8_cons _ _)]
  simp only [standard, Bool.false_and]
  rfl

/-- The flags say which fields are present, and the addresses fit their length byte. -/
structure WellFormed (npdu : Npdu) : Prop where
  destination : npdu.destination.isSome = npdu.control.destinationSpecifier
  hopCount : npdu.hopCount.isSome = npdu.control.destinationSpecifier
  source : npdu.source.isSome = npdu.control.sourceSpecifier
  messageType : npdu.networkMessageType.isSome = npdu.control.networkLayerMessage
  vendorId : npdu.vendorId = none
  destinationShort : ∀ address ∈ npdu.destination, address.address.length ≤ 255
  sourceShort : ∀ address ∈ npdu.source, address.address.length ≤ 255

theorem WellFormed.encode_eq (wellFormed : npdu.WellFormed) :
    npdu.encode = npduVersion :: npdu.control.encode ::
      (written BACnetAddress.encode npdu.destination ++ (written BACnetAddress.encode npdu.source ++
          (written (fun hops => [hops]) npdu.hopCount ++
            (written (encodeMessageType npdu.vendorId) npdu.networkMessageType ++ npdu.data)))) := by
  have hops : (if npdu.hopCount.isSome then [npdu.hopCount.getD 255] else []) =
      written (fun hops => [hops]) npdu.hopCount := by
    cases npdu.hopCount with
    | none | some => rfl
  rw [encode, ← wellFormed.hopCount, hops, ← wellFormed.messageType, if_isSome_written]

theorem optionally_address {flag : Bool} {field : Option BACnetAddress}
    (announced : field.isSome = flag) (short : ∀ address ∈ field, address.address.length ≤ 255)
    (data : Bytes) :
    optionally flag BACnetAddress.decode (written BACnetAddress.encode field ++ data) =
      .ok field data := by
  rw [← announced]
  apply optionally_written_self
  intro address present
  exact address.decode_encode data (short address present)

theorem WellFormed.decodeFields_encode (wellFormed : npdu.WellFormed) :
    decodeFields npdu.encode = .ok { npdu with
      networkMessageType := npdu.networkMessageType.bind fun messageType =>
        fromU8 messageType.code } npdu.data := by
  have hopCount (data : Bytes) : optionally npdu.control.destinationSpecifier decodeHopCount
        (written (fun hops => [hops]) npdu.hopCount ++ data) = .ok npdu.hopCount data := by
    rw [← wellFormed.hopCount]
    apply optionally_written_self
    intro hops _
    exact decodeHopCount_cons hops data
  have message (data : Bytes) : optionally npdu.control.networkLayerMessage decodeMessageType
        (written (encodeMessageType npdu.vendorId) npdu.networkMessageType ++ data) =
        .ok (npdu.networkMessageType.map fun messageType =>
          (fromU8 messageType.code, none)) data := by
    rw [← wellFormed.messageType]
    apply optionally_written
    intro messageType _
    exact decodeMessageType_encode npdu.vendorId messageType data
  have version (data : Bytes) :
      failIf (npduVersion != npduVersion) (NpduError.invalidVersion npduVersion) data =
        .ok () data := rfl
  rw [wellFormed.encode_eq, decodeFields,
    bind_ok (atLeast_ok _ _ (Nat.succ_le_succ (Nat.succ_le_succ (Nat.zero_le _)))),
    bind_ok (getU8_cons _ _), bind_ok (version _), bind_ok (getU8_cons _ _)]
  simp only [NpduControl.decode_encode]
  rw [bind_ok (optionally_address wellFormed.destination wellFormed.destinationShort _),
    bind_ok (optionally_address wellFormed.source wellFormed.sourceShort _),
    bind_ok (hopCount _), bind_ok (message _)]
  cases kind : npdu.networkMessageType with
  | none | some =>
    rw [wellFormed.vendorId]
    rfl

def unlistedTypes : List NetworkMessageType :=
  [.challengeRequest, .securityPayload, .securityResponse, .requestKeyUpdate, .updateKeySet,
    .updateDistributionKey, .requestMasterKey, .setMasterKey]

theorem fromU8_code : fromU8 messageType.code =
      if messageType ∈ unlistedTypes then none else some messageType := by
  cases messageType <;> decide

/-- Read back exactly if the decoder knows the type of the network message that the unit carries. -/
theorem decode_encode_iff (npdu : Npdu) (wellFormed : npdu.WellFormed) :
    (∃ decoded, decode npdu.encode = some (.ok decoded) ∧ decoded.control = npdu.control ∧
      decoded.destination = npdu.destination ∧ decoded.source = npdu.source ∧
      decoded.hopCount = npdu.hopCount ∧
      decoded.networkMessageType = npdu.networkMessageType ∧ decoded.data = npdu.data) ↔
    ∀ messageType ∈ npdu.networkMessageType, messageType ∉ unlistedTypes := by
  have kept : (npdu.networkMessageType.bind fun messageType =>
      fromU8 messageType.code) = npdu.networkMessageType ↔
      ∀ messageType ∈ npdu.networkMessageType, messageType ∉ unlistedTypes := by
    cases npdu.networkMessageType with
    | none => exact iff_of_true rfl (fun _ present => nomatch present)
    | some messageType =>
      rw [Option.bind_some, fromU8_code]
      by_cases unlisted : messageType ∈ unlistedTypes
      · rw [if_pos unlisted]
        exact iff_of_false (fun equal => nomatch equal) (fun listed => listed _ rfl unlisted)
      · rw [if_neg unlisted]
        refine iff_of_true rfl ?_
        intro other present
        rw [← Option.some.inj present]
        exact unlisted
  rw [← kept, decode, wellFormed.decodeFields_encode]
  constructor
  · intro readBack
    obtain ⟨decoded, returned, _, _, _, _, types, _⟩ := readBack
    have fields := Except.ok.inj (Option.some.inj returned)
    exact (congrArg Npdu.networkMessageType fields).trans types
  · intro same
    exact ⟨_, rfl, rfl, rfl, rfl, rfl, same, rfl⟩

/-- A network message with a destination and a source. -/
theorem routed_message_read_back :
    ∃ decoded, decode (encode ⟨⟨true, true, true, false, .urgent⟩, some ⟨5, [1, 2]⟩, some ⟨6, [3]⟩,
        some 254, some .whoIsRouterToNetwork, none, [9]⟩) = some (.ok decoded) ∧
      decoded.networkMessageType = some .whoIsRouterToNetwork := by
  have wellFormed : WellFormed ⟨⟨true, true, true, false, .urgent⟩, some ⟨5, [1, 2]⟩,
      some ⟨6, [3]⟩, some 254, some .whoIsRouterToNetwork, none, [9]⟩ :=
    ⟨rfl, rfl, rfl, rfl, rfl, by decide, by decide⟩
  obtain ⟨decoded, returned, _, _, _, _, types, _⟩ :=
    (decode_encode_iff _ wellFormed).mpr (by decide)
  exact ⟨decoded, returned, types⟩

/-- A challenge request comes back without its type. -/
theorem security_type_lost :
    WellFormed ⟨⟨true, false, false, false, .normal⟩, none, none, none, some .challengeRequest,
        none, []⟩ ∧
      decode (encode ⟨⟨true, false, false, false, .normal⟩, none, none, none,
        some .challengeRequest, none, []⟩) =
      some (.ok ⟨⟨true, false, false, false, .normal⟩, none, none, none, none, none, []⟩) :=
  ⟨⟨rfl, rfl, rfl, rfl, rfl, by decide, by decide⟩, rfl⟩

end Npdu

end Mabinogion.Bacnet
