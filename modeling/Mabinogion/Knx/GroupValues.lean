import Mabinogion.Knx.FilterChain

/-!
# Group objects and the cache of their values

The table of group objects holds the value of each group address. Beside it the server
keeps a cache of the values that it has seen, of limited size and age.
-/

namespace Mabinogion.Knx

open KeyedTable

structure GroupObjectFlags where
  communication : Bool
  read : Bool
  write : Bool
deriving DecidableEq

structure GroupObject where
  name : String
  flags : GroupObjectFlags
  value : Bytes
deriving DecidableEq

def GroupObject.canRead (object : GroupObject) : Bool :=
  object.flags.communication && object.flags.read

inductive GroupObjectError where
  | notFound (address : GroupAddress)
  | readNotAllowed (name : String)
  | writeNotAllowed (name : String)

/-- Of the flags only `write` is looked at. -/
def GroupObject.writeRaw (object : GroupObject) (data : Bytes) :
    Except GroupObjectError GroupObject :=
  if !object.flags.write then .error (.writeNotAllowed object.name)
  else .ok { object with value := data }

abbrev GroupObjectTable := Table GroupAddress GroupObject

namespace GroupObjectTable

variable (objects : GroupObjectTable)

def read (address : GroupAddress) : Except GroupObjectError Bytes :=
  match objects.lookup address with
  | some object =>
    if !object.canRead then .error (.readNotAllowed object.name) else .ok object.value
  | none => .error (.notFound address)

def write (address : GroupAddress) (data : Bytes) : Except GroupObjectError GroupObjectTable :=
  match objects.lookup address with
  | some object =>
    match object.writeRaw data with
    | .ok written => .ok (objects.insert address written)
    | .error error => .error error
  | none => .error (.notFound address)

end GroupObjectTable

structure CacheEntry where
  value : Bytes
  updatedAt : Nat
  accessedAt : Nat

/-- A time to live of zero is none. -/
def CacheEntry.isExpired (entry : CacheEntry) (ttl now : Nat) : Bool :=
  if ttl = 0 then false else now - entry.updatedAt > ttl

structure GroupValueCacheConfig where
  enabled : Bool
  maxEntries : Nat
  ttlMs : Nat
  autoUpdateOnIndication : Bool
  autoUpdateOnWrite : Bool

def GroupValueCacheConfig.default : GroupValueCacheConfig where
  enabled := true
  maxEntries := 4096
  ttlMs := 60000
  autoUpdateOnIndication := true
  autoUpdateOnWrite := true

def GroupValueCacheConfig.ttl (config : GroupValueCacheConfig) : Nat :=
  config.ttlMs * nanosPerMilli

inductive UpdateSource where
  | write | indication

structure GroupValueCache where
  config : GroupValueCacheConfig
  entries : Table GroupAddress CacheEntry

namespace GroupValueCache

def new (config : GroupValueCacheConfig) : GroupValueCache := ⟨config, ∅⟩

variable (cache : GroupValueCache) (address : GroupAddress)

def get (now : Nat) : Option Bytes × GroupValueCache :=
  if !cache.config.enabled then (none, cache)
  else
    match cache.entries.lookup address with
    | some entry =>
      if entry.isExpired cache.config.ttl now then
        (none, { cache with entries := cache.entries.erase address })
      else
        let entries := cache.entries.insert address { entry with accessedAt := now }
        (some entry.value, { cache with entries })
    | none => (none, cache)

/-- The first of the entries with the least time of access. -/
def leastRecent : List (Sigma fun _ : GroupAddress => CacheEntry) → Option GroupAddress
  | [] => none
  | entry :: entries =>
    let older (best : Sigma fun _ : GroupAddress => CacheEntry)
        (next : Sigma fun _ : GroupAddress => CacheEntry) :=
      if next.2.accessedAt < best.2.accessedAt then next else best
    some (entries.foldl older entry).1

def evictIfNeeded : GroupValueCache :=
  if size cache.entries < cache.config.maxEntries then cache
  else
    match leastRecent cache.entries.entries with
    | some address => { cache with entries := cache.entries.erase address }
    | none => cache

variable (value : Bytes)

def update (updateSource : UpdateSource) (now : Nat) : GroupValueCache :=
  let updates :=
    match updateSource with
    | .write => cache.config.autoUpdateOnWrite
    | .indication => cache.config.autoUpdateOnIndication
  let entry : CacheEntry := ⟨value, now, now⟩
  if !cache.config.enabled then cache
  else if !updates then cache
  else
    match cache.entries.lookup address with
    | some _ => { cache with entries := cache.entries.insert address entry }
    | none =>
      let cache := cache.evictIfNeeded
      { cache with entries := cache.entries.insert address entry }

def onIndication (now : Nat) : GroupValueCache := cache.update address value .indication now

def onWrite (now : Nat) : GroupValueCache := cache.update address value .write now

end GroupValueCache

end Mabinogion.Knx
