import Mabinogion.Bacnet.Encoding
import Mabinogion.Bacnet.Segmentation
import Mabinogion.Bacnet.Tsm
import Mabinogion.Bacnet.Types

/-!
# Confirmed requests

A confirmed request goes through the transaction table to the handler of its service and is
answered with one APDU or a segmented one. Handlers are arbitrary functions on a world.
Metrics are left out.
-/

namespace Mabinogion.Bacnet.Server

open Segmentation Tsm ApduEncoder
open KeyedTable (Table)

inductive ServiceResult where
  | simpleAck
  | complexAck (data : Bytes)
  | error (errorClass : ErrorClass) (errorCode : ErrorCode)
  | reject (reason : UInt8)
  | abort (reason : AbortReason)
  | noResponse
  | broadcast (data : Bytes)

def ServiceResult.unrecognizedService : ServiceResult :=
  .reject RejectReason.unrecognizedService.code

def ServiceResult.missingRequiredParameter : ServiceResult :=
  .reject RejectReason.missingRequiredParameter.code

structure ServiceContext where
  deviceInstance : UInt32
  invokeId : Option UInt8
  maxApduLength : UInt16
  sourceAddress : Option SocketAddr

structure ConfirmedServiceHandler (World : Type) where
  minDataLength : Nat
  handle : Bytes → ServiceContext → World → ServiceResult × World

structure ServiceRegistry (World : Type) where
  confirmedHandlers : Table UInt8 (ConfirmedServiceHandler World)

def ServiceRegistry.dispatchConfirmed {World : Type} (registry : ServiceRegistry World)
    (service : UInt8) (data : Bytes) (ctx : ServiceContext) (world : World) :
    ServiceResult × World :=
  match registry.confirmedHandlers.lookup service with
  | some handler =>
    if data.length < handler.minDataLength then (.missingRequiredParameter, world)
    else handler.handle data ctx world
  | none => (.unrecognizedService, world)

def buildErrorApdu (invokeId serviceChoice : UInt8) (errorClass : ErrorClass)
    (errorCode : ErrorCode) : Bytes :=
  encodeErrorPdu invokeId serviceChoice errorClass.code errorCode.code

def buildRejectApdu (invokeId rejectReason : UInt8) : Bytes :=
  encodeRejectPdu invokeId rejectReason

def buildAbortApdu (invokeId : UInt8) (abortReason : AbortReason) : Bytes :=
  encodeAbortPdu invokeId abortReason.code true

inductive ProcessedResponse where
  | single (apdu : Bytes) (dest : SocketAddr)
  | segmented (segments : List Bytes) (dest : SocketAddr) (invokeId serviceChoice : UInt8)
  | none

structure ServerConfig where
  deviceInstance : UInt32
  maxApduLength : UInt16

structure BACnetServer (World : Type) where
  config : ServerConfig
  services : ServiceRegistry World
  tsm : ServerTsm
  segmentTransmitter : SegmentTransmitter
  world : World

/-- A segment leaves room for the five bytes of the segmented ComplexACK header. -/
def BACnetServer.new {World : Type} (config : ServerConfig) (tsmConfig : TsmConfig)
    (services : ServiceRegistry World) (world : World) : BACnetServer World where
  config
  services
  tsm := ServerTsm.withConfig tsmConfig
  segmentTransmitter := ⟨config.maxApduLength.toNat - 5⟩
  world

structure Request where
  source : SocketAddr
  invokeId : UInt8
  serviceChoice : UInt8
  data : Bytes

def Request.key (request : Request) : TransactionKey := ⟨request.source, request.invokeId⟩

section

variable {World : Type} (server : BACnetServer World) (request : Request)

def BACnetServer.context : ServiceContext where
  deviceInstance := server.config.deviceInstance
  invokeId := some request.invokeId
  maxApduLength := 1476
  sourceAddress := some request.source

/-- Caches the response and sends it, unless it is dropped on purpose. -/
def BACnetServer.complete (cached : Bytes) (response : ProcessedResponse) :
    Option ProcessedResponse × BACnetServer World :=
  let completed := server.tsm.completeTransaction request.key cached
  (some (if completed.1 then response else .none), { server with tsm := completed.2 })

def complexAckApdu (data : Bytes) : Bytes :=
  [0x30, request.invokeId, request.serviceChoice] ++ data

/-- `none` stands for a segmentation that does not come to an end. -/
def BACnetServer.respond : ServiceResult → Option ProcessedResponse × BACnetServer World
  | .simpleAck =>
    let apdu := [0x20, request.invokeId, request.serviceChoice]
    server.complete request apdu (.single apdu request.source)
  | .complexAck data =>
    let apdu := complexAckApdu request data
    if 3 + data.length ≤ server.config.maxApduLength.toNat then
      server.complete request apdu (.single apdu request.source)
    else if server.segmentTransmitter.needsSegmentation data.length then
      match server.segmentTransmitter.segment data request.invokeId with
      | some segments =>
        server.complete request apdu (.segmented (segments.map Segment.data) request.source
          request.invokeId request.serviceChoice)
      | none => (none, server)
    else server.complete request apdu (.single apdu request.source)
  | .error errorClass errorCode =>
    let apdu := buildErrorApdu request.invokeId request.serviceChoice errorClass errorCode
    server.complete request apdu (.single apdu request.source)
  | .reject reason =>
    let apdu := buildRejectApdu request.invokeId reason
    server.complete request apdu (.single apdu request.source)
  | .abort reason =>
    let apdu := buildAbortApdu request.invokeId reason
    server.complete request apdu (.single apdu request.source)
  | .noResponse | .broadcast _ => (some .none, server)

/-- What the handler of the request's service answers, and the world after it. -/
def BACnetServer.handled : ServiceResult × World :=
  server.services.dispatchConfirmed request.serviceChoice request.data (server.context request)
    server.world

def BACnetServer.dispatchAndRespond (now : Nat) : Option ProcessedResponse × BACnetServer World :=
  match server.tsm.beginTransaction now request.key request.serviceChoice with
  | (.ok (some cachedResponse), tsm) =>
    (some (.single cachedResponse request.source), { server with tsm })
  | (.ok none, tsm) =>
    let handled := server.handled request
    ({ server with tsm, world := handled.2 } : BACnetServer World).respond request
      handled.1
  | (.error .duplicateInProgress, tsm) => (some .none, { server with tsm })
  | (.error .atCapacity, tsm) =>
    (some (.single (buildAbortApdu request.invokeId .outOfResources) request.source),
      { server with tsm })

end

/-- The APDUs that `send_segmented_response` builds, one per segment. -/
def segmentApdus (segments : List Bytes) (invokeId serviceChoice : UInt8) : List Bytes :=
  segments.mapIdx fun index segmentData =>
    encodeSegmentedComplexAckHeader invokeId (UInt8.ofNat index) defaultWindowSize
      (decide (index < segments.length - 1)) serviceChoice ++ segmentData

def ProcessedResponse.apdus : ProcessedResponse → List Bytes
  | .single apdu _ => [apdu]
  | .segmented segments _ invokeId serviceChoice => segmentApdus segments invokeId serviceChoice
  | .none => []

/-- One confirmed request at a time, with the APDUs sent for it. -/
def BACnetServer.step {World : Type} (server : BACnetServer World) (timed : Nat × Request) :
    Option (List Bytes) × BACnetServer World :=
  let processed := server.dispatchAndRespond timed.2 timed.1
  (processed.1.map ProcessedResponse.apdus, processed.2)

end Mabinogion.Bacnet.Server
