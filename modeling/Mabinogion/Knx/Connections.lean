import Mabinogion.Library.KeyedTable
import Mabinogion.Knx.Frame
import Mabinogion.Knx.Sequence

/-!
# Tunnel connections

The connection manager gives each connection a channel id from a counter of eight bits
and an individual address that is made of this id.
-/

namespace Mabinogion.Knx

open KeyedTable

structure TunnelConnection where
  channelId : UInt8
  clientAddr : SocketAddr
  dataEndpoint : SocketAddr
  individualAddress : IndividualAddress
  sequence : SequenceTracker

structure ConnectionManager where
  connections : Table UInt8 TunnelConnection
  nextChannelId : UInt8
  maxConnections : Nat
  individualAddressBase : IndividualAddress
  desyncThreshold : UInt8

namespace ConnectionManager

def new (maxConnections : Nat) (individualAddressBase : IndividualAddress)
    (desyncThreshold : UInt8) : ConnectionManager :=
  ⟨∅, 1, maxConnections, individualAddressBase, desyncThreshold⟩

/-- The loop of `allocate_channel` for a number of rounds, with the counter it leaves. -/
def scanChannels (connections : Table UInt8 TunnelConnection) : Nat → UInt8 → Option UInt8 × UInt8
  | 0, next => (none, next)
  | rounds + 1, next =>
    if next ≠ 0 ∧ connections.lookup next = none then (some next, next + 1)
    else scanChannels connections rounds (next + 1)

variable (manager : ConnectionManager)

def allocateChannel : Option UInt8 × ConnectionManager :=
  if size manager.connections ≥ manager.maxConnections then (none, manager)
  else
    let (channelId, nextChannelId) :=
      scanChannels manager.connections 255 manager.nextChannelId
    (channelId, { manager with nextChannelId })

/-- `100 + channel_id` in eight bits; with overflow checks the addition may panic instead. -/
def individualAddress (base : IndividualAddress) (channelId : UInt8) : IndividualAddress :=
  { base with device := 100 + channelId }

def createConnection (channelId : UInt8)
    (clientAddr dataEndpoint : SocketAddr) : ConnectionManager :=
  let connection : TunnelConnection := {
    channelId, clientAddr, dataEndpoint
    individualAddress := individualAddress manager.individualAddressBase channelId
    sequence := .withDesyncThreshold manager.desyncThreshold }
  { manager with connections := manager.connections.insert channelId connection }

def remove (channelId : UInt8) : ConnectionManager :=
  { manager with connections := manager.connections.erase channelId }

inductive Request where
  | connect (clientAddr dataEndpoint : SocketAddr)
  | disconnect (channelId : UInt8)

/-- The channel of a new connection, and the manager. -/
def step : Request → Option UInt8 × ConnectionManager
  | .connect clientAddr dataEndpoint =>
    match manager.allocateChannel with
    | (some channelId, manager) =>
      (some channelId, manager.createConnection channelId clientAddr dataEndpoint)
    | (none, manager) => (none, manager)
  | .disconnect channelId => (none, manager.remove channelId)

end ConnectionManager

end Mabinogion.Knx
