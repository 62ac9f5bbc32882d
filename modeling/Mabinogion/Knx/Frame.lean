import Mabinogion.Knx.Cemi

/-!
# KNXnet/IP frames

The header with its service type and total length, and the bodies of the services
that the server receives. What is read from a datagram is checked against lengths
of different parts of it.
-/

namespace Mabinogion.Knx

open Checked ByteCursor

def headerSize : UInt8 := 0x06

def protocolVersion : UInt8 := 0x10

inductive ServiceType where
  | searchRequest | searchResponse | descriptionRequest | descriptionResponse | connectRequest
  | connectResponse | connectionStateRequest | connectionStateResponse | disconnectRequest
  | disconnectResponse | searchRequestExtended | searchResponseExtended
  | deviceConfigurationRequest | deviceConfigurationAck | tunnellingRequest | tunnellingAck
  | tunnellingFeatureGet | tunnellingFeatureResponse | tunnellingFeatureSet | tunnellingFeatureInfo
  | routingIndication | routingLostMessage | routingBusy | routingSystemBroadcast
  | remoteDiagnosticRequest | remoteDiagnosticResponse | remoteBasicConfigRequest
  | remoteResetRequest | objectServerRequest

namespace ServiceType

def code : ServiceType → UInt16
  | searchRequest => 0x0201 | searchResponse => 0x0202 | descriptionRequest => 0x0203
  | descriptionResponse => 0x0204 | connectRequest => 0x0205 | connectResponse => 0x0206
  | connectionStateRequest => 0x0207 | connectionStateResponse => 0x0208
  | disconnectRequest => 0x0209 | disconnectResponse => 0x020A | searchRequestExtended => 0x020B
  | searchResponseExtended => 0x020C | deviceConfigurationRequest => 0x0310
  | deviceConfigurationAck => 0x0311 | tunnellingRequest => 0x0420 | tunnellingAck => 0x0421
  | tunnellingFeatureGet => 0x0422 | tunnellingFeatureResponse => 0x0423
  | tunnellingFeatureSet => 0x0424 | tunnellingFeatureInfo => 0x0425 | routingIndication => 0x0530
  | routingLostMessage => 0x0531 | routingBusy => 0x0532 | routingSystemBroadcast => 0x0533
  | remoteDiagnosticRequest => 0x0740 | remoteDiagnosticResponse => 0x0741
  | remoteBasicConfigRequest => 0x0742 | remoteResetRequest => 0x0743
  | objectServerRequest => 0x0800

def fromValue : UInt16 → Option ServiceType
  | 0x0201 => some searchRequest
  | 0x0202 => some searchResponse
  | 0x0203 => some descriptionRequest
  | 0x0204 => some descriptionResponse
  | 0x0205 => some connectRequest
  | 0x0206 => some connectResponse
  | 0x0207 => some connectionStateRequest
  | 0x0208 => some connectionStateResponse
  | 0x0209 => some disconnectRequest
  | 0x020A => some disconnectResponse
  | 0x020B => some searchRequestExtended
  | 0x020C => some searchResponseExtended
  | 0x0310 => some deviceConfigurationRequest
  | 0x0311 => some deviceConfigurationAck
  | 0x0420 => some tunnellingRequest
  | 0x0421 => some tunnellingAck
  | 0x0422 => some tunnellingFeatureGet
  | 0x0423 => some tunnellingFeatureResponse
  | 0x0424 => some tunnellingFeatureSet
  | 0x0425 => some tunnellingFeatureInfo
  | 0x0530 => some routingIndication
  | 0x0531 => some routingLostMessage
  | 0x0532 => some routingBusy
  | 0x0533 => some routingSystemBroadcast
  | 0x0740 => some remoteDiagnosticRequest
  | 0x0741 => some remoteDiagnosticResponse
  | 0x0742 => some remoteBasicConfigRequest
  | 0x0743 => some remoteResetRequest
  | 0x0800 => some objectServerRequest
  | _ => none

def tryFrom (value : UInt16) : Cursor KnxError ServiceType :=
  liftOption (.unknownServiceType value) (fromValue value)

theorem fromValue_code (serviceType : ServiceType) :
    fromValue serviceType.code = some serviceType := by
  cases serviceType <;> rfl

end ServiceType

structure KnxFrame where
  serviceType : ServiceType
  body : Bytes

namespace KnxFrame

def decode : Cursor KnxError KnxFrame := do
  let data ← rest
  requireBytes headerSize.toNat
  let size ← getU8
  failIf (size != headerSize)
    (.invalidHeader ("Expected header size " ++ toString headerSize ++ ", got " ++ toString size))
  let version ← getU8
  failIf (version != protocolVersion) (.invalidProtocolVersion protocolVersion version)
  let value ← getU16
  let serviceType ← ServiceType.tryFrom value
  let length ← getU16
  let totalLength := length.toNat
  failIf (data.length < totalLength) (.frameLengthMismatch totalLength data.length)
  let bodyLength ← checkedSub totalLength headerSize.toNat
  let body ← copyToSlice bodyLength
  pure ⟨serviceType, body⟩

end KnxFrame

inductive HostProtocol where
  | udp4 | tcp4

def HostProtocol.fromU8 : UInt8 → Option HostProtocol
  | 0x01 => some .udp4
  | 0x02 => some .tcp4
  | _ => none

structure Ipv4Addr where
  a : UInt8
  b : UInt8
  c : UInt8
  d : UInt8
deriving DecidableEq

structure SocketAddr where
  ip : Ipv4Addr
  port : UInt16
deriving DecidableEq

structure Hpai where
  protocol : HostProtocol
  ipAddress : Ipv4Addr
  port : UInt16

def hexByte (byte : UInt8) : String :=
  "0x" ++ (if byte < 16 then "0" else "") ++ String.ofList (Nat.toDigits 16 byte.toNat)

namespace Hpai

def size : UInt8 := 8

def decode : Cursor KnxError Hpai := do
  requireBytes size.toNat
  let length ← getU8
  failIf (length != size)
    (.invalidHpai ("Invalid HPAI length: expected " ++ toString size ++ ", got " ++ toString length))
  let protocolCode ← getU8
  let protocol ← liftOption (.invalidHpai ("Unknown protocol code: " ++ hexByte protocolCode))
    (HostProtocol.fromU8 protocolCode)
  let a ← getU8
  let b ← getU8
  let c ← getU8
  let d ← getU8
  let port ← getU16
  pure ⟨protocol, ⟨a, b, c, d⟩, port⟩

def isNat (hpai : Hpai) : Bool := hpai.ipAddress = ⟨0, 0, 0, 0⟩ && hpai.port == 0

def toSocketAddr (hpai : Hpai) : SocketAddr := ⟨hpai.ipAddress, hpai.port⟩

end Hpai

inductive ConnectionType where
  | deviceManagement | tunnel | remoteLogging | remoteConfiguration | objectServer

def ConnectionType.fromU8 : UInt8 → Option ConnectionType
  | 0x03 => some .deviceManagement
  | 0x04 => some .tunnel
  | 0x06 => some .remoteLogging
  | 0x07 => some .remoteConfiguration
  | 0x08 => some .objectServer
  | _ => none

inductive KnxLayer where
  | linkLayer | raw | busMonitor

def KnxLayer.fromU8 : UInt8 → Option KnxLayer
  | 0x02 => some .linkLayer
  | 0x04 => some .raw
  | 0x80 => some .busMonitor
  | _ => none

structure ConnectionRequestInfo where
  connectionType : ConnectionType
  knxLayer : KnxLayer

def ConnectionRequestInfo.decode : Cursor KnxError ConnectionRequestInfo := do
  requireBytes 4
  let length ← getU8
  failIf (length != 4) (.invalidHeader ("Invalid CRI length: " ++ toString length))
  let type ← getU8
  let connectionType ← liftOption (.invalidHeader "Unknown connection type")
    (ConnectionType.fromU8 type)
  let layer ← getU8
  let _reserved ← getU8
  pure ⟨connectionType, (KnxLayer.fromU8 layer).getD .linkLayer⟩

structure ConnectRequest where
  controlEndpoint : Hpai
  dataEndpoint : Hpai
  cri : ConnectionRequestInfo

def ConnectRequest.decode : Cursor KnxError ConnectRequest := do
  requireBytes 20
  let data ← rest
  let controlEndpoint ← onSlice data Hpai.decode
  let behindControl ← sliceFrom 8
  let dataEndpoint ← onSlice behindControl Hpai.decode
  let behindData ← sliceFrom 16
  let cri ← onSlice behindData ConnectionRequestInfo.decode
  pure ⟨controlEndpoint, dataEndpoint, cri⟩

structure ChannelRequest where
  channelId : UInt8
  controlEndpoint : Hpai

def ChannelRequest.decode : Cursor KnxError ChannelRequest := do
  requireBytes 10
  let channelId ← getU8
  let _reserved ← getU8
  let behind ← rest
  let controlEndpoint ← onSlice behind Hpai.decode
  pure ⟨channelId, controlEndpoint⟩

def ConnectionStateRequest.decode : Cursor KnxError ChannelRequest := ChannelRequest.decode

def DisconnectRequest.decode : Cursor KnxError ChannelRequest := ChannelRequest.decode

structure TunnellingRequest where
  channelId : UInt8
  sequenceCounter : UInt8
  cemi : CemiFrame

def TunnellingRequest.decode : Cursor KnxError TunnellingRequest := do
  requireBytes 4
  let _headerLength ← getU8
  let channelId ← getU8
  let sequenceCounter ← getU8
  let _reserved ← getU8
  let cemi ← CemiFrame.decodeFrame
  pure ⟨channelId, sequenceCounter, cemi⟩

structure TunnellingAck where
  channelId : UInt8
  sequenceCounter : UInt8
  status : UInt8

def TunnellingAck.decode : Cursor KnxError TunnellingAck := do
  requireBytes 4
  let _headerLength ← getU8
  let channelId ← getU8
  let sequenceCounter ← getU8
  let status ← getU8
  pure ⟨channelId, sequenceCounter, status⟩

inductive Packet where
  | searchRequest
  | descriptionRequest
  | connectRequest (request : ConnectRequest)
  | connectionStateRequest (request : ChannelRequest)
  | disconnectRequest (request : ChannelRequest)
  | tunnellingRequest (request : TunnellingRequest)
  | tunnellingAck (ack : TunnellingAck)
  | unhandled (serviceType : ServiceType)

namespace Packet

/-- The decoder that the handler of the service starts with. -/
def decodeBody (frame : KnxFrame) : Cursor KnxError Packet :=
  match frame.serviceType with
  | .searchRequest => pure searchRequest
  | .descriptionRequest => pure descriptionRequest
  | .connectRequest => do
    let request ← onSlice frame.body ConnectRequest.decode
    pure (connectRequest request)
  | .connectionStateRequest => do
    let request ← onSlice frame.body ConnectionStateRequest.decode
    pure (connectionStateRequest request)
  | .disconnectRequest => do
    let request ← onSlice frame.body DisconnectRequest.decode
    pure (disconnectRequest request)
  | .tunnellingRequest => do
    let request ← onSlice frame.body TunnellingRequest.decode
    pure (tunnellingRequest request)
  | .tunnellingAck => do
    let ack ← onSlice frame.body TunnellingAck.decode
    pure (tunnellingAck ack)
  | serviceType => pure (unhandled serviceType)

def decode : Cursor KnxError Packet := do
  let frame ← KnxFrame.decode
  decodeBody frame

/-- What `handle_packet` makes of a datagram, `none` if it panics. -/
def receive (data : Bytes) : Option (Except KnxError Packet) := (decode data).returned

end Packet

end Mabinogion.Knx
