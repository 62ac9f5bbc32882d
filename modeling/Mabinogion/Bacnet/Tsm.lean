import Mabinogion.Library.BigEndian
import Mabinogion.Library.KeyedTable
import Mabinogion.Library.Transducer

/-!
# Server transaction state machine

One entry per source and invoke id for the length of the duplicate window. A request that
finds an entry is told to wait, or gets the cached response. Times are nanoseconds, one
reading per call.
-/

namespace Mabinogion.Bacnet.Tsm

open KeyedTable (Table)

inductive SocketAddr where
  | v4 (ip : UInt32) (port : UInt16)
  | v6 (ip : BitVec 128) (port : UInt16) (flowinfo scopeId : UInt32)
deriving DecidableEq

structure TransactionKey where
  source : SocketAddr
  invokeId : UInt8
deriving DecidableEq

inductive TransactionState where
  | awaitingResponse
  | responseReady
  | completed

structure TransactionEntry where
  createdAt : Nat
  serviceChoice : UInt8
  cachedResponse : Option Bytes
  duplicateCount : UInt32
  state : TransactionState

/-- Read as `> 0.0` and `(p * 1000.0) as u64` only: `none`, or the threshold. -/
structure TsmConfig where
  duplicateWindow : Nat
  maxTransactions : Nat
  chaosDropThreshold : Option UInt64

def TsmConfig.default : TsmConfig where
  duplicateWindow := 10 * 10 ^ 9
  maxTransactions := 256
  chaosDropThreshold := none

inductive TsmError where
  | duplicateInProgress
  | atCapacity

structure ServerTsm where
  config : TsmConfig
  transactions : Table TransactionKey TransactionEntry
  totalTransactions : UInt64
  duplicateCount : UInt64
  droppedCount : UInt64
  timeoutCount : UInt64

def ServerTsm.withConfig (config : TsmConfig) : ServerTsm where
  config
  transactions := ∅
  totalTransactions := 0
  duplicateCount := 0
  droppedCount := 0
  timeoutCount := 0

def TsmConfig.isLive (config : TsmConfig) (now : Nat) (entry : TransactionEntry) : Bool :=
  decide (now - entry.createdAt ≤ config.duplicateWindow)

variable (tsm : ServerTsm) (now : Nat)

/-- In `begin_transaction` when the table is full, and in `cleanup_expired`. -/
def ServerTsm.evictExpired : ServerTsm :=
  let kept := KeyedTable.retain (fun _ entry => tsm.config.isLive now entry) tsm.transactions
  { tsm with
    transactions := kept
    timeoutCount := tsm.timeoutCount +
      UInt64.ofNat (KeyedTable.size tsm.transactions - KeyedTable.size kept) }

variable (key : TransactionKey)

def ServerTsm.insertEntry (serviceChoice : UInt8) : ServerTsm :=
  { tsm with
    transactions := tsm.transactions.insert key
      { createdAt := now
        serviceChoice
        cachedResponse := none
        duplicateCount := 0
        state := .awaitingResponse }
    totalTransactions := tsm.totalTransactions + 1 }

/-- `begin_transaction` from the capacity check on. -/
def ServerTsm.admitNew
    (serviceChoice : UInt8) : Except TsmError (Option Bytes) × ServerTsm :=
  if KeyedTable.size tsm.transactions ≥ tsm.config.maxTransactions then
    let evicted := tsm.evictExpired now
    if KeyedTable.size evicted.transactions ≥ tsm.config.maxTransactions then
      (.error .atCapacity, evicted)
    else (.ok none, evicted.insertEntry now key serviceChoice)
  else (.ok none, tsm.insertEntry now key serviceChoice)

def TransactionEntry.duplicateReply (entry : TransactionEntry) :
    Except TsmError (Option Bytes) :=
  match entry.state with
  | .awaitingResponse => .error .duplicateInProgress
  | .responseReady | .completed => .ok entry.cachedResponse

def ServerTsm.beginTransaction
    (serviceChoice : UInt8) : Except TsmError (Option Bytes) × ServerTsm :=
  match tsm.transactions.lookup key with
  | some entry =>
    if tsm.config.isLive now entry then
      (entry.duplicateReply, { tsm with
        transactions := tsm.transactions.insert key
          { entry with duplicateCount := entry.duplicateCount + 1 }
        duplicateCount := tsm.duplicateCount + 1 })
    else
      ({ tsm with transactions := tsm.transactions.erase key } : ServerTsm).admitNew now key
        serviceChoice
  | none => tsm.admitNew now key serviceChoice

def ServerTsm.cacheResponse (response : Bytes) : ServerTsm :=
  match tsm.transactions.lookup key with
  | some entry => { tsm with
      transactions := tsm.transactions.insert key
        { entry with cachedResponse := some response, state := .completed } }
  | none => tsm

/-- Returns whether the response is to be sent, `false` when it is dropped. -/
def ServerTsm.completeTransaction (response : Bytes) : Bool × ServerTsm :=
  let cached := tsm.cacheResponse key response
  match tsm.config.chaosDropThreshold with
  | none => (true, cached)
  | some threshold =>
    if (tsm.totalTransactions * 7 + 13) % 1000 < threshold then
      (false, { cached with droppedCount := cached.droppedCount + 1 })
    else (true, cached)

def ServerTsm.cleanupExpired : Nat × ServerTsm :=
  let cleaned := tsm.evictExpired now
  (KeyedTable.size tsm.transactions - KeyedTable.size cleaned.transactions, cleaned)

inductive Call where
  | beginTransaction (key : TransactionKey) (serviceChoice : UInt8)
  | completeTransaction (key : TransactionKey) (response : Bytes)
  | cleanupExpired

inductive Reply where
  | begun (result : Except TsmError (Option Bytes))
  | completed (send : Bool)
  | cleaned (removed : Nat)

def ServerTsm.step (timed : Nat × Call) : Reply × ServerTsm :=
  match timed.2 with
  | .beginTransaction key serviceChoice =>
    let begun := tsm.beginTransaction timed.1 key serviceChoice
    (.begun begun.1, begun.2)
  | .completeTransaction key response =>
    let completed := tsm.completeTransaction key response
    (.completed completed.1, completed.2)
  | .cleanupExpired =>
    let cleaned := tsm.cleanupExpired timed.1
    (.cleaned cleaned.1, cleaned.2)

end Mabinogion.Bacnet.Tsm
