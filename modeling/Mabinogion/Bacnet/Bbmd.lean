import Mabinogion.Bacnet.Bvlc
import Mabinogion.Library.KeyedTable
import Mabinogion.Library.Transducer

/-!
# Broadcast management

The tables of peers and of foreign devices that broadcasts are forwarded to, and
the messages that manage them. Iteration over a table is in the order of its
entries, which nothing depends on.
-/

namespace Mabinogion.Bacnet

open ByteCursor KeyedTable

inductive BbmdError where
  | tableFull | invalidFormat | notFound

structure BdtEntry where
  address : SocketAddrV4
  broadcastMask : Ipv4Addr
  addedAt : Nat

structure BroadcastDistributionTable where
  entries : Table SocketAddrV4 BdtEntry
  maxEntries : Nat

namespace BroadcastDistributionTable

def new (maxEntries : Nat) : BroadcastDistributionTable := ⟨∅, maxEntries⟩

variable (bdt : BroadcastDistributionTable)

def len : Nat := size bdt.entries

def listEntries : List BdtEntry := values bdt.entries

def encode : Bytes :=
  bdt.listEntries.flatMap fun entry =>
    entry.address.ip.octets ++ putU16 entry.address.port ++ entry.broadcastMask.octets

def decodeEntries (now : Nat) : Bytes → List BdtEntry
  | a :: b :: c :: d :: p0 :: p1 :: m0 :: m1 :: m2 :: m3 :: rest =>
    ⟨⟨⟨a, b, c, d⟩, u16FromBeBytes p0 p1⟩, ⟨m0, m1, m2, m3⟩, now⟩ :: decodeEntries now rest
  | _ => []

/-- The size of the table is not checked here, as it is when a single entry is added. -/
def decodeAndReplace (now : Nat) (data : Bytes) :
    Except BbmdError Unit × BroadcastDistributionTable :=
  if data.length % 10 ≠ 0 then (.error .invalidFormat, bdt)
  else
    (.ok (), { bdt with
      entries := insertAll BdtEntry.address (decodeEntries now data) ∅ })

end BroadcastDistributionTable

structure FdtEntry where
  address : SocketAddrV4
  ttlSeconds : UInt16
  timeRemaining : Nat
  registeredAt : Nat

namespace FdtEntry

variable (now : Nat)

def new (address : SocketAddrV4) (ttlSeconds : UInt16) : FdtEntry :=
  ⟨address, ttlSeconds, ttlSeconds.toNat * 10 ^ 9, now⟩

def isExpired (entry : FdtEntry) : Bool :=
  decide (now - entry.registeredAt > entry.ttlSeconds.toNat * 10 ^ 9)

def remainingTime (entry : FdtEntry) : Nat :=
  entry.ttlSeconds.toNat * 10 ^ 9 - (now - entry.registeredAt)

def refresh (ttlSeconds : UInt16) (entry : FdtEntry) : FdtEntry :=
  ⟨entry.address, ttlSeconds, ttlSeconds.toNat * 10 ^ 9, now⟩

end FdtEntry

structure ForeignDeviceTable where
  entries : Table SocketAddrV4 FdtEntry
  maxEntries : Nat

namespace ForeignDeviceTable

def new (maxEntries : Nat) : ForeignDeviceTable := ⟨∅, maxEntries⟩

variable (fdt : ForeignDeviceTable)

def len : Nat := size fdt.entries

variable (now : Nat)

def register (address : SocketAddrV4)
    (ttlSeconds : UInt16) : Except BbmdError Unit × ForeignDeviceTable :=
  match fdt.entries.lookup address with
  | some entry =>
    (.ok (), { fdt with entries := fdt.entries.insert address (entry.refresh now ttlSeconds) })
  | none =>
    if fdt.len ≥ fdt.maxEntries then (.error .tableFull, fdt)
    else (.ok (), { fdt with
      entries := fdt.entries.insert address (.new now address ttlSeconds) })

def remove (address : SocketAddrV4) : Option FdtEntry × ForeignDeviceTable :=
  (fdt.entries.lookup address, { fdt with entries := fdt.entries.erase address })

def activeEntries : List FdtEntry :=
  (values fdt.entries).filter fun entry => !entry.isExpired now

def cleanupExpired : Nat × ForeignDeviceTable :=
  ((values fdt.entries).countP fun entry => entry.isExpired now,
    { fdt with entries := retain (fun _ entry => !entry.isExpired now) fdt.entries })

def encode : Bytes :=
  (fdt.activeEntries now).flatMap fun entry =>
    entry.address.ip.octets ++ putU16 entry.address.port ++ putU16 entry.ttlSeconds ++
      putU16 (UInt16.ofNat (min (entry.remainingTime now / 10 ^ 9) 65535))

end ForeignDeviceTable

structure BbmdConfig where
  enabled : Bool
  maxBdtEntries : Nat
  maxFdtEntries : Nat
  cleanupInterval : Nat
  acceptForeignDevices : Bool

structure Bbmd where
  config : BbmdConfig
  bdt : BroadcastDistributionTable
  fdt : ForeignDeviceTable

def BvlcMessage.result (code : BvlcResultCode) : BvlcMessage :=
  ⟨⟨.result, 6⟩, [], none, some code⟩

namespace Bbmd

def new (config : BbmdConfig) : Bbmd :=
  ⟨config, .new config.maxBdtEntries, .new config.maxFdtEntries⟩

variable (bbmd : Bbmd) (now : Nat)

def handleRegisterForeignDevice (source : SocketAddrV4)
    (data : Bytes) : Option BvlcMessage × Bbmd :=
  if !bbmd.config.acceptForeignDevices then
    (some (.result .registerForeignDeviceNak), bbmd)
  else
    match data with
    | high :: low :: _ =>
      match bbmd.fdt.register now source (u16FromBeBytes high low) with
      | (.ok (), fdt) => (some (.result .success), { bbmd with fdt })
      | (.error _, fdt) => (some (.result .registerForeignDeviceNak), { bbmd with fdt })
    | _ => (some (.result .registerForeignDeviceNak), bbmd)

def handleReadFdt : Option BvlcMessage × Bbmd :=
  let data := bbmd.fdt.encode now
  (some ⟨⟨.readForeignDeviceTableAck, UInt16.ofNat (4 + data.length)⟩, data, none, none⟩, bbmd)

def handleDeleteFdtEntry (data : Bytes) : Option BvlcMessage × Bbmd :=
  match data with
  | a :: b :: c :: d :: high :: low :: _ =>
    match bbmd.fdt.remove ⟨⟨a, b, c, d⟩, u16FromBeBytes high low⟩ with
    | (some _, fdt) => (some (.result .success), { bbmd with fdt })
    | (none, fdt) => (some (.result .deleteFdtEntryNak), { bbmd with fdt })
  | _ => (some (.result .deleteFdtEntryNak), bbmd)

def handleReadBdt : Option BvlcMessage × Bbmd :=
  let data := bbmd.bdt.encode
  (some ⟨⟨.readBroadcastDistributionTableAck, UInt16.ofNat (4 + data.length)⟩, data, none, none⟩,
    bbmd)

def handleWriteBdt (data : Bytes) : Option BvlcMessage × Bbmd :=
  match bbmd.bdt.decodeAndReplace now data with
  | (.ok (), bdt) => (some (.result .success), { bbmd with bdt })
  | (.error _, bdt) => (some (.result .writeBdtNak), { bbmd with bdt })

def handleMessage (msg : BvlcMessage) (source : SocketAddrV4) : Option BvlcMessage × Bbmd :=
  if !bbmd.config.enabled then (none, bbmd)
  else
    match msg.header.function with
    | .registerForeignDevice => bbmd.handleRegisterForeignDevice now source msg.npdu
    | .readForeignDeviceTable => bbmd.handleReadFdt now
    | .deleteForeignDeviceTableEntry => bbmd.handleDeleteFdtEntry msg.npdu
    | .readBroadcastDistributionTable => bbmd.handleReadBdt
    | .writeBroadcastDistributionTable => bbmd.handleWriteBdt now msg.npdu
    | _ => (none, bbmd)

def getForwardAddresses (exclude : Option SocketAddrV4) : List SocketAddrV4 :=
  let kept (address : SocketAddrV4) : Bool :=
    match exclude with
    | some excluded => excluded ≠ address
    | none => true
  (bbmd.bdt.listEntries.map BdtEntry.address).filter kept ++
    ((bbmd.fdt.activeEntries now).map FdtEntry.address).filter kept

def cleanup : Nat × Bbmd :=
  let cleaned := bbmd.fdt.cleanupExpired now
  (cleaned.1, { bbmd with fdt := cleaned.2 })

inductive Call where
  | message (msg : BvlcMessage) (source : SocketAddrV4)
  | cleanup

def step (call : Nat × Call) : Option BvlcMessage × Bbmd :=
  match call.2 with
  | .message msg source => bbmd.handleMessage call.1 msg source
  | .cleanup => (none, (bbmd.cleanup call.1).2)

end Bbmd

end Mabinogion.Bacnet
