import Mabinogion.Bacnet.Bbmd

/-!
# The tables of broadcast management

What the tables keep over all messages, and which addresses a broadcast goes to.
-/

namespace Mabinogion.Bacnet.Bbmd

open KeyedTable BroadcastDistributionTable ForeignDeviceTable FdtEntry
open List (mem_filter)

variable {bbmd : Bbmd}

def IsNak (answer : Option BvlcMessage) : Prop :=
  ∃ code, code ≠ BvlcResultCode.success ∧ answer = some (.result code)

inductive Effect (bbmd : Bbmd) (now : Nat) (msg : BvlcMessage) (source : SocketAddrV4) :
    Option BvlcMessage × Bbmd → Prop where
  | unchanged (answer : Option BvlcMessage) : Effect bbmd now msg source (answer, bbmd)
  | replaced (enabled : bbmd.config.enabled = true)
      (writes : msg.header.function = .writeBroadcastDistributionTable)
      (whole : msg.npdu.length % 10 = 0) :
      Effect bbmd now msg source (some (.result .success), { bbmd with
        bdt.entries := insertAll BdtEntry.address (decodeEntries now msg.npdu) ∅ })
  | registered (entry : FdtEntry)
      (room : (bbmd.fdt.entries.lookup source).isSome ∨ bbmd.fdt.len < bbmd.fdt.maxEntries)
      (own : Keyed address bbmd.fdt.entries → entry.address = source) :
      Effect bbmd now msg source (some (.result .success), { bbmd with
        fdt.entries := bbmd.fdt.entries.insert source entry })
  | deleted (address : SocketAddrV4) :
      Effect bbmd now msg source (some (.result .success), { bbmd with
        fdt.entries := bbmd.fdt.entries.erase address })

section

variable {now : Nat} {msg : BvlcMessage} {source : SocketAddrV4}

theorem handleRegisterForeignDevice_effect (data : Bytes) :
    Effect bbmd now msg source (bbmd.handleRegisterForeignDevice now source data) := by
  unfold handleRegisterForeignDevice
  split
  · exact .unchanged _
  · split
    · rename_i high low tail
      unfold register
      cases found : bbmd.fdt.entries.lookup source with
      | some entry =>
        refine .registered _ (Or.inl (Option.isSome_of_eq_some found)) ?_
        intro keyed
        exact keyed source entry found
      | none =>
        by_cases full : bbmd.fdt.len ≥ bbmd.fdt.maxEntries
        · simp only [if_pos full]
          exact .unchanged _
        · simp only [if_neg full]
          exact .registered _ (Or.inr (Nat.not_le.mp full)) (fun _ => rfl)
    · exact .unchanged _

theorem handleDeleteFdtEntry_effect (data : Bytes) :
    Effect bbmd now msg source (bbmd.handleDeleteFdtEntry data) := by
  unfold handleDeleteFdtEntry
  split
  · rename_i a b c d high low tail
    unfold remove
    cases found : bbmd.fdt.entries.lookup ⟨⟨a, b, c, d⟩, u16FromBeBytes high low⟩ with
    | some => exact .deleted _
    | none =>
      simp only [erase_absent _ _ found]
      exact .unchanged _
  · exact .unchanged _

theorem handleWriteBdt_effect (enabled : bbmd.config.enabled = true)
    (writes : msg.header.function = .writeBroadcastDistributionTable) :
    Effect bbmd now msg source (bbmd.handleWriteBdt now msg.npdu) := by
  unfold handleWriteBdt decodeAndReplace
  by_cases cut : msg.npdu.length % 10 ≠ 0
  · simp only [if_pos cut]
    exact .unchanged _
  · simp only [if_neg cut]
    exact .replaced enabled writes (not_not.mp cut)

theorem handleMessage_effect (bbmd : Bbmd) (now : Nat) (msg : BvlcMessage)
    (source : SocketAddrV4) : Effect bbmd now msg source (bbmd.handleMessage now msg source) := by
  unfold handleMessage
  split
  · exact .unchanged _
  · rename_i enabled
    split
    · exact handleRegisterForeignDevice_effect msg.npdu
    · exact .unchanged _
    · exact handleDeleteFdtEntry_effect msg.npdu
    · exact .unchanged _
    · rename_i writes
      refine handleWriteBdt_effect ?_ writes
      simpa only [Bool.not_eq_true', Bool.not_eq_false] using enabled
    · exact .unchanged _

variable {result : Option BvlcMessage × Bbmd}

theorem Effect.of_isNak (effect : Effect bbmd now msg source result) (nak : IsNak result.1) :
    result.2 = bbmd := by
  have refused : result.1 ≠ some (.result .success) := by
    intro success
    rcases nak with ⟨code, failure, answer⟩
    rw [success] at answer
    cases answer
    exact failure rfl
  cases effect with
  | unchanged => rfl
  | replaced | registered | deleted => exact absurd rfl refused

theorem Effect.bdt_eq (effect : Effect bbmd now msg source result)
    (other : ¬(bbmd.config.enabled = true ∧
      msg.header.function = .writeBroadcastDistributionTable ∧ msg.npdu.length % 10 = 0)) :
    result.2.bdt = bbmd.bdt := by
  cases effect with
  | unchanged => rfl
  | replaced enabled writes whole => exact absurd ⟨enabled, writes, whole⟩ other
  | registered | deleted => rfl

end

structure Sound (config : BbmdConfig) (bbmd : Bbmd) : Prop where
  configured : bbmd.config = config
  bdtLimit : bbmd.bdt.maxEntries = config.maxBdtEntries
  fdtLimit : bbmd.fdt.maxEntries = config.maxFdtEntries
  bdtKeyed : Keyed BdtEntry.address bbmd.bdt.entries
  fdtKeyed : Keyed address bbmd.fdt.entries
  fdtBounded : bbmd.fdt.len ≤ config.maxFdtEntries

section

variable {config : BbmdConfig}

theorem Sound.new : Sound config (.new config) where
  configured := rfl
  bdtLimit := rfl
  fdtLimit := rfl
  bdtKeyed := Keyed.empty
  fdtKeyed := Keyed.empty
  fdtBounded := Nat.zero_le _

variable {source : SocketAddrV4}

theorem len_insert_le {fdt : ForeignDeviceTable} (entry : FdtEntry)
    (room : (fdt.entries.lookup source).isSome ∨ fdt.len < fdt.maxEntries)
    (bounded : fdt.len ≤ fdt.maxEntries) :
    size (fdt.entries.insert source entry) ≤ fdt.maxEntries := by
  cases found : fdt.entries.lookup source with
  | some old =>
    rw [size_insert_present source entry found]
    exact bounded
  | none =>
    rw [found] at room
    rw [size_insert_absent source entry fdt.entries found]
    exact room.resolve_left (fun some => nomatch some)

theorem Sound.effect {now : Nat} {msg : BvlcMessage}
    {result : Option BvlcMessage × Bbmd} (sound : Sound config bbmd)
    (effect : Effect bbmd now msg source result) : Sound config result.2 := by
  cases effect with
  | unchanged => exact sound
  | replaced =>
    exact { sound with bdtKeyed := Keyed.empty.insertAll _ }
  | registered entry room own =>
    have bounded : bbmd.fdt.len ≤ bbmd.fdt.maxEntries := by
      rw [sound.fdtLimit]
      exact sound.fdtBounded
    exact { sound with
      fdtKeyed := sound.fdtKeyed.insert (own sound.fdtKeyed)
      fdtBounded := (len_insert_le entry room bounded).trans sound.fdtLimit.le }
  | deleted address =>
    exact { sound with
      fdtKeyed := sound.fdtKeyed.erase address
      fdtBounded := (size_erase_le _ _).trans sound.fdtBounded }

theorem Sound.step (sound : Sound config bbmd) (call : Nat × Call) :
    Sound config (bbmd.step call).2 := by
  rcases call with ⟨now, call⟩
  cases call with
  | message msg source => exact sound.effect (handleMessage_effect bbmd now msg source)
  | cleanup =>
    exact { sound with
      fdtKeyed := sound.fdtKeyed.retain _
      fdtBounded := (size_retain_le _ _).trans sound.fdtBounded }

theorem step_of_isNak {call : Nat × Call} (nak : IsNak (bbmd.step call).1) :
    (bbmd.step call).2 = bbmd := by
  rcases call with ⟨now, call⟩
  cases call with
  | message msg source => exact (handleMessage_effect bbmd now msg source).of_isNak nak
  | cleanup =>
    rcases nak with ⟨code, failure, answer⟩
    cases answer

def OversizedWrite (config : BbmdConfig) (call : Nat × Call) : Prop :=
  ∃ msg source, call.2 = .message msg source ∧ config.enabled = true ∧
    msg.header.function = .writeBroadcastDistributionTable ∧ msg.npdu.length % 10 = 0 ∧
    config.maxBdtEntries < ((decodeEntries call.1 msg.npdu).map BdtEntry.address).toFinset.card

theorem handleMessage_write {now : Nat} {msg : BvlcMessage} (enabled : bbmd.config.enabled = true)
    (writes : msg.header.function = .writeBroadcastDistributionTable)
    (whole : msg.npdu.length % 10 = 0) :
    (bbmd.handleMessage now msg source).2.bdt.len =
      ((decodeEntries now msg.npdu).map BdtEntry.address).toFinset.card := by
  unfold handleMessage
  rw [enabled, writes]
  simp only [Bool.not_true, Bool.false_eq_true, if_false, handleWriteBdt, decodeAndReplace, whole,
    ne_eq, not_true_eq_false]
  exact size_insertAll _

theorem bdt_within_step_iff (sound : Sound config bbmd)
    (within : bbmd.bdt.len ≤ config.maxBdtEntries) (call : Nat × Call) :
    (bbmd.step call).2.bdt.len ≤ config.maxBdtEntries ↔ ¬OversizedWrite config call := by
  rcases call with ⟨now, call⟩
  cases call with
  | cleanup =>
    refine iff_of_true within ?_
    intro oversized
    rcases oversized with ⟨msg, source, same, _⟩
    cases same
  | message msg source =>
    rw [← sound.configured] at *
    by_cases write : bbmd.config.enabled = true ∧
        msg.header.function = .writeBroadcastDistributionTable ∧ msg.npdu.length % 10 = 0
    · show (bbmd.handleMessage now msg source).2.bdt.len ≤ _ ↔ _
      rw [handleMessage_write write.1 write.2.1 write.2.2, ← Nat.not_lt, not_iff_not]
      constructor
      · intro large
        exact ⟨msg, source, rfl, write.1, write.2.1, write.2.2, large⟩
      · intro oversized
        rcases oversized with ⟨_, _, same, _, _, _, large⟩
        cases same
        exact large
    · apply iff_of_true
      · show (bbmd.handleMessage now msg source).2.bdt.len ≤ _
        rw [(handleMessage_effect bbmd now msg source).bdt_eq write]
        exact within
      · intro oversized
        rcases oversized with ⟨_, _, same, enabled, writes, whole, _⟩
        cases same
        exact write ⟨enabled, writes, whole⟩

end

section

variable {config : BbmdConfig}

def IsPeer (bbmd : Bbmd) (address : SocketAddrV4) : Prop :=
  (bbmd.bdt.entries.lookup address).isSome

/-- The address is registered, and the registration has not expired. -/
def IsForeignDevice (bbmd : Bbmd) (now : Nat) (address : SocketAddrV4) : Prop :=
  ∃ entry, bbmd.fdt.entries.lookup address = some entry ∧ entry.isExpired now = false

def peers (bbmd : Bbmd) (source : SocketAddrV4) : List SocketAddrV4 :=
  (bbmd.bdt.listEntries.map BdtEntry.address).filter fun address => source ≠ address

def foreignDevices (bbmd : Bbmd) (now : Nat) (source : SocketAddrV4) : List SocketAddrV4 :=
  ((bbmd.fdt.activeEntries now).map address).filter fun address => source ≠ address

theorem getForwardAddresses_eq (now : Nat) (source : SocketAddrV4) :
    bbmd.getForwardAddresses now (some source) =
      bbmd.peers source ++ bbmd.foreignDevices now source := rfl

/-- A broadcast goes once to each peer and foreign device but its source, and to nothing else. -/
structure ForwardsOnce (bbmd : Bbmd) (now : Nat) (source : SocketAddrV4) : Prop where
  once : (bbmd.getForwardAddresses now (some source)).Nodup
  skipsSource : source ∉ bbmd.getForwardAddresses now (some source)
  receivers : ∀ address, address ∈ bbmd.getForwardAddresses now (some source) ↔
    address ≠ source ∧ (bbmd.IsPeer address ∨ bbmd.IsForeignDevice now address)

/-- Another address than the source is a peer and a foreign device. -/
def ListedTwice (bbmd : Bbmd) (now : Nat) (source address : SocketAddrV4) : Prop :=
  address ≠ source ∧ bbmd.IsPeer address ∧ bbmd.IsForeignDevice now address

variable (sound : Sound config bbmd) (now : Nat) (source address : SocketAddrV4)

include sound

theorem Sound.mem_peers_iff :
    address ∈ bbmd.peers source ↔ address ≠ source ∧ bbmd.IsPeer address := by
  rw [peers, listEntries, sound.bdtKeyed.map_values, mem_filter, ← AList.mem_keys,
    decide_eq_true_iff, IsPeer, AList.lookup_isSome, and_comm, ne_comm]

theorem Sound.mem_foreignDevices_iff : address ∈ bbmd.foreignDevices now source ↔
    address ≠ source ∧ bbmd.IsForeignDevice now address := by
  rw [foreignDevices, mem_filter, List.mem_map, decide_eq_true_iff, and_comm, ne_comm]
  apply and_congr_right
  intro _
  constructor
  · intro listed
    rcases listed with ⟨entry, active, same⟩
    rw [activeEntries, mem_filter, mem_values_iff] at active
    rcases active with ⟨⟨other, found⟩, live⟩
    have own := sound.fdtKeyed other entry found
    rw [← same, own]
    exact ⟨entry, found, by simpa only [Bool.not_eq_true'] using live⟩
  · intro device
    rcases device with ⟨entry, found, live⟩
    refine ⟨entry, ?_, sound.fdtKeyed address entry found⟩
    rw [activeEntries, mem_filter, mem_values_iff]
    refine ⟨⟨address, found⟩, ?_⟩
    rw [live]
    rfl

theorem Sound.nodup_peers : (bbmd.peers source).Nodup :=
  sound.bdtKeyed.nodup_values.filter _

theorem Sound.nodup_foreignDevices : (bbmd.foreignDevices now source).Nodup := by
  have part : ((bbmd.fdt.activeEntries now).map address).Sublist
      ((values bbmd.fdt.entries).map address) :=
    List.filter_sublist.map _
  exact (sound.fdtKeyed.nodup_values.sublist part).filter _

theorem Sound.mem_getForwardAddresses_iff : address ∈ bbmd.getForwardAddresses now (some source) ↔
      address ≠ source ∧ (bbmd.IsPeer address ∨ bbmd.IsForeignDevice now address) := by
  rw [getForwardAddresses_eq, List.mem_append, sound.mem_peers_iff, sound.mem_foreignDevices_iff,
    and_or_left]

theorem Sound.forwardsOnce_iff :
    bbmd.ForwardsOnce now source ↔ ∀ address, ¬bbmd.ListedTwice now source address := by
  have disjoint : (bbmd.getForwardAddresses now (some source)).Nodup ↔
      ∀ address, ¬bbmd.ListedTwice now source address := by
    rw [getForwardAddresses_eq, List.nodup_append']
    constructor
    · intro parts address twice
      apply parts.2.2 ((sound.mem_peers_iff source address).mpr ⟨twice.1, twice.2.1⟩)
      exact (sound.mem_foreignDevices_iff now source address).mpr ⟨twice.1, twice.2.2⟩
    · intro single
      refine ⟨sound.nodup_peers source, sound.nodup_foreignDevices now source, ?_⟩
      intro address peer device
      have isPeer := (sound.mem_peers_iff source address).mp peer
      have isDevice := (sound.mem_foreignDevices_iff now source address).mp device
      exact single address ⟨isPeer.1, isPeer.2, isDevice.2⟩
  constructor
  · intro forwards
    exact disjoint.mp forwards.once
  · intro single
    constructor
    · exact disjoint.mpr single
    · intro listed
      exact ((sound.mem_getForwardAddresses_iff now source source).mp listed).1 rfl
    · exact sound.mem_getForwardAddresses_iff now source

end

section

open Transducer

variable (config : BbmdConfig) (calls : List (Nat × Call))

/-- The bounds and the forwarding in all states, and no change by a message that is refused. -/
structure Consistent : Prop where
  peersBounded : ∀ visited ∈ states step (new config) calls, visited.bdt.len ≤ config.maxBdtEntries
  devicesBounded : ∀ visited ∈ states step (new config) calls,
    visited.fdt.len ≤ config.maxFdtEntries
  refusals : ∀ arrival ∈ arrivals step (new config) calls,
    IsNak (arrival.1.step arrival.2).1 → (arrival.1.step arrival.2).2 = arrival.1
  forwarding : ∀ visited ∈ states step (new config) calls,
    ∀ now source, visited.ForwardsOnce now source

theorem sound_states : ∀ visited ∈ states step (new config) calls, Sound config visited :=
  states_invariant step (fun _ call sound => sound.step call) (new config) calls Sound.new

theorem peersBounded_iff :
    (∀ visited ∈ states step (new config) calls, visited.bdt.len ≤ config.maxBdtEntries) ↔
      ∀ call ∈ calls, ¬OversizedWrite config call := by
  have preserved (bbmd : Bbmd) (call : Nat × Call) (sound : Sound config bbmd) :
      Sound config (bbmd.step call).2 :=
    sound.step call
  have kept (bbmd : Bbmd) (call : Nat × Call) (sound : Sound config bbmd)
      (within : bbmd.bdt.len ≤ config.maxBdtEntries) :
      (bbmd.step call).2.bdt.len ≤ config.maxBdtEntries ↔ ¬OversizedWrite config call :=
    bdt_within_step_iff sound within call
  rw [states_hold_iff step preserved kept (new config) calls Sound.new]
  constructor
  · intro harmless call listed
    rw [← map_snd_arrivals step (new config) calls, List.mem_map] at listed
    rcases listed with ⟨arrival, arrives, same⟩
    rw [← same]
    exact harmless.2 arrival arrives
  · intro harmless
    refine ⟨Nat.zero_le _, ?_⟩
    intro arrival arrives
    apply harmless
    rw [← map_snd_arrivals step (new config) calls]
    exact List.mem_map_of_mem arrives

/-- Consistent exactly if no call writes more peers than there may be, and in no state an address is
both a peer and a foreign device. -/
theorem tables_consistent_iff : Consistent config calls ↔
      (∀ call ∈ calls, ¬OversizedWrite config call) ∧ ∀ visited ∈ states step (new config) calls,
          ∀ now source address, ¬visited.ListedTwice now source address := by
  have sound := sound_states config calls
  constructor
  · intro consistent
    refine ⟨(peersBounded_iff config calls).mp consistent.peersBounded, ?_⟩
    intro visited listed now source
    exact ((sound visited listed).forwardsOnce_iff now source).mp
      (consistent.forwarding visited listed now source)
  · intro condition
    constructor
    · exact (peersBounded_iff config calls).mpr condition.1
    · intro visited listed
      exact (sound visited listed).fdtBounded
    · intro arrival _ nak
      exact step_of_isNak nak
    · intro visited listed now source
      exact ((sound visited listed).forwardsOnce_iff now source).mpr
        (condition.2 visited listed now source)

/-- A table of one peer takes two, and a host that is a peer and a foreign device is sent a
broadcast twice. -/
theorem peers_oversized_and_host_twice : let config : BbmdConfig := ⟨true, 1, 1, 0, true⟩
    let peer : Bytes := [10, 0, 0, 1, 0xBA, 0xC0, 255, 255, 255, 0]
    let other : Bytes := [10, 0, 0, 2, 0xBA, 0xC0, 255, 255, 255, 0]
    let host : SocketAddrV4 := ⟨⟨10, 0, 0, 1⟩, 47808⟩
    let write (entries : Bytes) : BvlcMessage :=
      ⟨⟨.writeBroadcastDistributionTable, 0⟩, entries, none, none⟩
    let register : BvlcMessage := ⟨⟨.registerForeignDevice, 6⟩, [0, 60], none, none⟩
    (final step (new config) [(0, .message (write (peer ++ other)) host)]).bdt.len = 2 ∧
      (final step (new config) [(0, .message (write peer) host),
        (1, .message register host)]).getForwardAddresses 2 (some ⟨⟨10, 0, 0, 9⟩, 47808⟩) =
          [host, host] :=
  ⟨rfl, rfl⟩

end

end Mabinogion.Bacnet.Bbmd
