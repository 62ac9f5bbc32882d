import Mabinogion.Library.Triple
import Mabinogion.Knx.Connections
import Mabinogion.Knx.GroupValues
import Mabinogion.Knx.TunnelDelivery

/-!
# The KNXnet/IP server

The handlers of the packets, one after the other. What the network does with a datagram is
part of the input; a record of the tunnelling requests and of what ends the wait for their
acknowledgement is part of the state.
-/

namespace Mabinogion.Knx

open Checked KeyedTable

/-- `confirmation_success_rate`: at least one, at most zero, or between. -/
inductive SuccessRate where
  | always | never | sometimes

structure ServerConfig where
  maxConnections : Nat
  sequenceValidationEnabled : Bool
  flowControl : FilterChainConfig
  groupValueCache : GroupValueCacheConfig
  individualAddress : IndividualAddress
  bindIp : Ipv4Addr
  serialNumber : Bytes
  macAddress : Bytes
  deviceName : Bytes
  ldataConEnabled : Bool
  confirmationSuccessRate : SuccessRate
  busDeliveryDelayMs : Nat
  busMonitorEnabled : Bool
  ldataIndBroadcastEnabled : Bool
  propertyServiceEnabled : Bool
  resetServiceEnabled : Bool

def ServerConfig.default : ServerConfig where
  maxConnections := 256
  sequenceValidationEnabled := true
  flowControl := .default
  groupValueCache := .default
  individualAddress := ⟨1, 1, 1, by decide, by decide⟩
  bindIp := ⟨0, 0, 0, 0⟩
  serialNumber := [0x00, 0x00, 0x00, 0x00, 0x00, 0x01]
  macAddress := [0x00, 0x00, 0x00, 0x00, 0x00, 0x01]
  deviceName := "OTSim KNX Simulator".toUTF8.toList
  ldataConEnabled := true
  confirmationSuccessRate := .always
  busDeliveryDelayMs := 0
  busMonitorEnabled := false
  ldataIndBroadcastEnabled := true
  propertyServiceEnabled := true
  resetServiceEnabled := true

structure Server where
  config : ServerConfig
  connections : ConnectionManager
  filterChain : FilterChain
  groupObjects : GroupObjectTable
  groupValueCache : GroupValueCache

/-- A threshold of 255 stands for no check of the sequence. -/
def Server.new (config : ServerConfig) (groupObjects : GroupObjectTable) : Server where
  config
  connections := .new config.maxConnections config.individualAddress
    (if config.sequenceValidationEnabled then 5 else 255)
  filterChain := .new config.flowControl
  groupObjects
  groupValueCache := .new config.groupValueCache

structure SendOutcome where
  delivered : Bool
  elapsed : Nat

inductive LinkEvent where
  | transmitted (request : TunnellingRequest) (target : SocketAddr) (delivered : Bool)
  | acknowledged (channelId : UInt8)
  | closed (channelId : UInt8)

/-- The server with the time, the fates of datagrams and the random draws to come, and the record.
-/
structure World where
  server : Server
  clock : Nat
  outcomes : List SendOutcome
  draws : List Bool
  history : List LinkEvent

inductive ServerError where
  | io
  | flowControlDrop (reason : String)

abbrev Handler (Value : Type) := Checked World ServerError Value

namespace World

variable (world : World)

def updateServer (change : Server → Server) : World :=
  { world with server := change world.server }

def updateChain (change : FilterChain → FilterChain) : World :=
  world.updateServer fun server => { server with filterChain := change server.filterChain }

def updateCache (change : GroupValueCache → GroupValueCache) : World :=
  world.updateServer fun server => { server with groupValueCache := change server.groupValueCache }

def record (event : LinkEvent) : World :=
  { world with history := event :: world.history }

/-- A datagram beyond the given outcomes is delivered at once. -/
def sendTo : Bool × World :=
  match world.outcomes with
  | [] => (true, world)
  | outcome :: outcomes =>
    (outcome.delivered, { world with outcomes, clock := world.clock + outcome.elapsed })

end World

def sleep (duration : Nat) : Handler Unit :=
  modify fun world => { world with clock := world.clock + duration }

/-- `socket.send_to(..).await?` for all but the tunnelling requests. -/
def sendDatagram : Handler Unit := do
  let delivered ← modifyGet World.sendTo
  if delivered then pure () else fail .io

variable (connection : TunnelConnection)

/-- The counter of the connection that stands under the channel. -/
def nextSendSequence : Handler UInt8 :=
  modifyGet fun world =>
    match world.server.connections.connections.lookup connection.channelId with
    | some connection =>
      let (sequenceCounter, sequence) := connection.sequence.nextSno
      (sequenceCounter, world.updateServer fun server =>
        { server with connections := { server.connections with
            connections := server.connections.connections.insert connection.channelId
              { connection with sequence } } })
    | none => (connection.sequence.nextSno.1, world)

def transmit (request : TunnellingRequest) (target : SocketAddr) : Handler Unit := do
  let delivered ← modifyGet fun world =>
    let (delivered, world) := world.sendTo
    (delivered, world.record (.transmitted request target delivered))
  if delivered then pure () else fail .io

variable (clientAddr : SocketAddr) (connection : TunnelConnection) (cemi : CemiFrame)

/-- The flag is set before the request is sent. -/
def sendTunnellingRequestRaw : Handler Unit := do
  let sequenceCounter ← nextSendSequence connection
  modify fun world => world.updateChain fun chain =>
    if chain.enabled then
      { chain with queueFilter := chain.queueFilter.setWaitingForAck connection.channelId true }
    else chain
  transmit ⟨connection.channelId, sequenceCounter, cemi⟩ clientAddr

def onSendSuccess (channelId : UInt8) : Handler Unit :=
  modify fun world => world.updateChain fun chain => chain.onSendSuccess world.clock channelId

def onSendFailure : Handler Unit :=
  modify fun world => world.updateChain fun chain => chain.onSendFailure world.clock

def filterSend (envelope : FrameEnvelope) : Handler FilterResult :=
  modifyGet fun world =>
    let (result, _, chain) := world.server.filterChain.send world.clock envelope
    (result, world.updateChain fun _ => chain)

/-- The event of a delay reads the state of the pace filter, which may move it on. -/
def waitFor (delay : Nat) : Handler Unit :=
  onlyIf (delay > 0) do
    modify fun world => world.updateChain fun chain =>
      { chain with paceFilter := (chain.paceFilter.currentState world.clock).2 }
    sleep delay

/-- A frame that passed the filters is sent after its delay. -/
def sendPassed (delay : Nat) : Handler Unit := do
  waitFor delay
  let sent ← attempt (sendTunnellingRequestRaw clientAddr connection cemi)
  match sent with
  | .ok () => onSendSuccess connection.channelId
  | .error error => do
    onSendFailure
    fail error

def sendTunnellingRequest : Handler Unit := do
  let enabled ← gets fun world => world.server.filterChain.enabled
  if enabled then do
    let result ← filterSend (.new cemi connection.channelId clientAddr)
    match result with
    | .pass delay => sendPassed clientAddr connection cemi delay
    | .queued => pure ()
    | .dropped _ => pure ()
    | .error message => fail (.flowControlDrop message)
  else sendTunnellingRequestRaw clientAddr connection cemi

/-- Where the pace filter refuses the frame, there is no delay. -/
def paceDrained (envelope : FrameEnvelope) : Handler Unit := do
  let paced ← modifyGet fun world =>
    let (result, paceFilter) :=
      world.server.filterChain.paceFilter.processSend world.clock envelope
    (result, world.updateChain fun chain => { chain with paceFilter })
  match paced with
  | .pass delay => sleep delay
  | _ => pure ()

/-- The loop of `drain_queued_frames`, which ends with the first error. -/
def sendDrained (connection : TunnelConnection) : List FrameEnvelope → Handler Unit
  | [] => pure ()
  | envelope :: envelopes => do
    paceDrained envelope
    let sent ← attempt (sendTunnellingRequestRaw envelope.targetAddr connection envelope.cemi)
    match sent with
    | .ok () => do
      onSendSuccess connection.channelId
      sendDrained connection envelopes
    | .error _ => onSendFailure

def drainQueuedFrames : Handler Unit := do
  let envelopes ← modifyGet fun world =>
    let (envelopes, chain) := world.server.filterChain.drainPending connection.channelId 16
    (envelopes, world.updateChain fun _ => chain)
  sendDrained connection envelopes

variable (original : CemiFrame)

def relay (messageCode : MessageCode) (confirm : Bool) : CemiFrame :=
  { original with messageCode, confirm, additionalInfo := [], ackRequest := false }

def sendLdataCon (connection : TunnelConnection)
    (original : CemiFrame) (success : Bool) : Handler Unit :=
  let messageCode := original.messageCode.toConfirmation.getD .lDataCon
  sendTunnellingRequest clientAddr connection (relay original messageCode (!success))

def writeGroupObject (address : GroupAddress) (data : Bytes) : Handler Bool :=
  modifyGet fun world =>
    match world.server.groupObjects.write address data with
    | .ok groupObjects => (true, world.updateServer fun server => { server with groupObjects })
    | .error _ => (false, world)

variable (cemi : CemiFrame) (connection : TunnelConnection)

def handleLdataData : Handler Bool :=
  if !cemi.apci.isGroupValue then pure true
  else
    match cemi.destinationGroup with
    | none => pure true
    | some address =>
      match cemi.apci with
      | .groupValueWrite => do
        let written ← writeGroupObject address cemi.data
        modify fun world => world.updateCache fun cache =>
          cache.onWrite address cemi.data world.clock
        pure written
      | .groupValueRead => do
        let response ← gets fun world =>
          let data :=
            match world.server.groupObjects.read address with
            | .ok data => data
            | .error _ => [0]
          CemiFrame.groupValueResponse world.server.config.individualAddress address data
        sendTunnellingRequest clientAddr connection response
        pure true
      | .groupValueResponse => do
        let _ ← writeGroupObject address cemi.data
        pure true
      | _ => pure true

/-- `rand_simple() < rate` is drawn only for a rate between. -/
def computeConfirmationSuccess (busSuccess : Bool) : Handler Bool :=
  modifyGet fun world =>
    match world.server.config.confirmationSuccessRate with
    | .always => (busSuccess, world)
    | .never => (false, world)
    | .sometimes =>
      if busSuccess then (world.draws.headD false, { world with draws := world.draws.tail })
      else (false, world)

def broadcastTo (source connection : TunnelConnection) : Handler Bool :=
  if connection.channelId = source.channelId then pure false
  else do
    let sent ← attempt (sendTunnellingRequest connection.dataEndpoint connection
      (relay original .lDataInd false))
    match sent with
    | .ok () => pure true
    | .error _ => pure false

def allConnections : Handler (List TunnelConnection) :=
  gets fun world => values world.server.connections.connections

def broadcastLdataInd (source : TunnelConnection) (address : GroupAddress) : Handler Unit := do
  let connections ← allConnections
  let reached ← visitAll (broadcastTo original source) connections
  onlyIf (reached.count true > 0)
    (modify fun world => world.updateCache fun cache =>
      cache.onIndication address original.data world.clock)

def confirmLdata (busSuccess : Bool) : Handler Unit := do
  let success ← computeConfirmationSuccess busSuccess
  let delay ← gets fun world => world.server.config.busDeliveryDelayMs * nanosPerMilli
  sleep delay
  sendLdataCon clientAddr connection cemi success

def handleLdataReq : Handler Unit := do
  let busSuccess ← handleLdataData clientAddr cemi connection
  let config ← gets fun world => world.server.config
  onlyIf config.ldataConEnabled (confirmLdata clientAddr cemi connection busSuccess)
  onlyIf config.ldataIndBroadcastEnabled
    (match cemi.destinationGroup with
    | some address => broadcastLdataInd cemi connection address
    | none => pure ())

def readProperty (config : ServerConfig) (objectIndex propertyId : UInt16) : Bytes :=
  match objectIndex, propertyId with
  | 0, 1 => [0x00, 0x00]
  | 0, 11 => config.serialNumber
  | 0, 12 => [0x00, 0x00]
  | 0, 14 => [0x00]
  | 0, 15 => List.replicate 10 0x00
  | 0, 9 => [0x01]
  | 0, 7 => List.replicate 6 0x00
  | 0, 57 => [config.individualAddress.area]
  | 0, 58 => [config.individualAddress.device]
  | 0, 56 => [0x00, 0xFE]
  | 11, 52 => ByteCursor.putU16 config.individualAddress.encode
  | 11, 55 => [config.bindIp.a, config.bindIp.b, config.bindIp.c, config.bindIp.d]
  | 11, 7 => config.deviceName.take 30
  | 11, 8 => config.macAddress
  | _, _ => [0x00, 0x00]

def handlePropReadReq : Handler Unit :=
  match cemi.parsePropertyRequest with
  | none => pure ()
  | some request => do
    let config ← gets fun world => world.server.config
    let value := readProperty config request.objectIndex request.propertyId
    sendTunnellingRequest clientAddr connection (.propReadCon request value)

def handlePropWriteReq : Handler Unit :=
  match cemi.parsePropertyRequest with
  | none => pure ()
  | some request => sendTunnellingRequest clientAddr connection (.propWriteCon request true)

def handleResetReq : Handler Unit :=
  sendTunnellingRequest clientAddr connection .resetInd

/-- An error of one connection does not keep the frame from the others. -/
def emitBusMonitorFrame : Handler Unit := do
  let status : UInt8 := if original.confirm then 0x80 else 0x00
  let frame := CemiFrame.busMonitorIndication original.encode status 0
  let connections ← allConnections
  let _ ← visitAll (fun connection : TunnelConnection =>
    (attempt (sendTunnellingRequest connection.dataEndpoint connection frame) :
      Handler (Except ServerError Unit))) connections
  pure ()

/-- The service of the message code, in front of the bus monitor. -/
def dispatchCemi : Handler Unit := do
  let config ← gets fun world => world.server.config
  match cemi.messageCode with
  | .lDataReq => handleLdataReq clientAddr cemi connection
  | .lDataInd => do
    let _ ← handleLdataData clientAddr cemi connection
    pure ()
  | .mPropReadReq =>
    onlyIf config.propertyServiceEnabled (handlePropReadReq clientAddr cemi connection)
  | .mPropWriteReq =>
    onlyIf config.propertyServiceEnabled (handlePropWriteReq clientAddr cemi connection)
  | .mResetReq => onlyIf config.resetServiceEnabled (handleResetReq clientAddr connection)
  | .lRawReq => sendLdataCon clientAddr connection cemi true
  | _ => pure ()

def processCemi : Handler Unit := do
  dispatchCemi clientAddr cemi connection
  let config ← gets fun world => world.server.config
  onlyIf config.busMonitorEnabled (emitBusMonitorFrame cemi)

/-- The queues of the channel go with the connection. -/
def closeChannel (channelId : UInt8) : Handler Unit :=
  modify fun world =>
    let world := world.updateServer fun server =>
      { server with connections := server.connections.remove channelId }
    let world := world.updateChain fun chain =>
      if chain.enabled then
        { chain with queueFilter := chain.queueFilter.clearChannel channelId }
      else chain
    world.record (.closed channelId)

def handleConnectRequest (request : ConnectRequest) (addr : SocketAddr) : Handler Unit := do
  let channelId ← modifyGet fun world =>
    let (channelId, connections) := world.server.connections.allocateChannel
    (channelId, world.updateServer fun server => { server with connections })
  match channelId with
  | none => sendDatagram
  | some channelId => do
    let dataEndpoint :=
      if request.dataEndpoint.isNat then addr else request.dataEndpoint.toSocketAddr
    modify fun world => world.updateServer fun server =>
      { server with
        connections := server.connections.createConnection channelId addr dataEndpoint }
    sendDatagram

def handleDisconnectRequest (request : ChannelRequest) : Handler Unit := do
  closeChannel request.channelId
  sendDatagram

def findConnection (channelId : UInt8) : Handler (Option TunnelConnection) :=
  gets fun world => world.server.connections.connections.lookup channelId

def setSequence (sequence : SequenceTracker) : Handler Unit :=
  modify fun world => world.updateServer fun server =>
    { server with connections := { server.connections with
        connections := server.connections.connections.insert connection.channelId
          { connection with sequence } } }

def handleTunnelling (request : TunnellingRequest) (addr : SocketAddr) : Handler Unit := do
  let found ← findConnection request.channelId
  match found with
  | none => sendDatagram
  | some connection => do
    let answered := handleTunnellingRequest (some connection.sequence) request.sequenceCounter
    setSequence connection (answered.2.getD connection.sequence)
    onlyIf answered.1.ack.isSome sendDatagram
    onlyIf answered.1.processes (processCemi addr request.cemi connection)
    onlyIf answered.2.isNone (closeChannel request.channelId)

/-- Where the filter chain is on, this is the version that also drains the queues. -/
def handleTunnellingAck (ack : TunnellingAck) : Handler Unit := do
  modify fun world => world.record (.acknowledged ack.channelId)
  let found ← findConnection ack.channelId
  match found with
  | none => pure ()
  | some connection => do
    let enabled ← gets fun world => world.server.filterChain.enabled
    onlyIf enabled
      (if ack.status = 0 then do
        onSendSuccess connection.channelId
        drainQueuedFrames connection
      else onSendFailure)

/-- The searches, descriptions and heartbeats are answered from data that nothing here changes. -/
def handlePacket (packet : Packet) (addr : SocketAddr) : Handler Unit :=
  match packet with
  | .connectRequest request => handleConnectRequest request addr
  | .disconnectRequest request => handleDisconnectRequest request
  | .tunnellingRequest request => handleTunnelling request addr
  | .tunnellingAck ack => handleTunnellingAck ack
  | _ => pure ()

/-- A packet after a time without one, or a look into the cache. -/
inductive ServerInput where
  | packet (wait : Nat) (packet : Packet) (addr : SocketAddr) (outcomes : List SendOutcome)
      (draws : List Bool)
  | cacheGet (wait : Nat) (address : GroupAddress)

namespace World

def start (server : Server) : World := ⟨server, 0, [], [], []⟩

/-- An error of a handler is logged and the loop goes on. -/
def step (world : World) : ServerInput → Option Bytes × World
  | .packet wait packet addr outcomes draws =>
    let world := { world with clock := world.clock + wait, outcomes, draws }
    (none, (handlePacket packet addr world).final world)
  | .cacheGet wait address =>
    let world := { world with clock := world.clock + wait }
    let (value, cache) := world.server.groupValueCache.get address world.clock
    (value, world.updateCache fun _ => cache)

/-- The packet is for a known channel and goes on to `process_cemi`. -/
def Processes (world : World) (request : TunnellingRequest) : Prop :=
  ∃ connection, world.server.connections.connections.lookup request.channelId = some connection ∧
    (handleTunnellingRequest (some connection.sequence) request.sequenceCounter).1.processes = true

instance (world : World) (request : TunnellingRequest) : Decidable (world.Processes request) :=
  match found : world.server.connections.connections.lookup request.channelId with
  | none => isFalse fun processes => by
    rcases processes with ⟨connection, present, _⟩
    rw [found] at present
    cases present
  | some connection =>
    if processed : (handleTunnellingRequest (some connection.sequence)
        request.sequenceCounter).1.processes = true then
      isTrue ⟨connection, found, processed⟩
    else isFalse fun processes => by
      rcases processes with ⟨other, present, accepted⟩
      rw [found] at present
      rw [← Option.some.inj present] at accepted
      exact processed accepted

end World

end Mabinogion.Knx
