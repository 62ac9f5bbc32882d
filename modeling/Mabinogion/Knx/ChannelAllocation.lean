import Mabinogion.Library.Transducer
import Mabinogion.Knx.Connections

/-!
# Allocation of channels

Ids and addresses stay distinct in every run. What fails is the addition for an id from 156
on, and the search for a free id that is the one before the counter.
-/

namespace Mabinogion.Knx.ConnectionManager

open KeyedTable ConnectionManager Transducer UInt8 Finset

section

variable (connections : Table UInt8 TunnelConnection)

def Free (channelId : UInt8) : Prop :=
  channelId ≠ 0 ∧ connections.lookup channelId = none

/-- The first free id from the counter on, by the rounds it takes to come to it. -/
def FirstFree (next : UInt8) (round : Nat) : Prop :=
  Free connections (next + UInt8.ofNat round) ∧
    ∀ earlier < round, ¬Free connections (next + UInt8.ofNat earlier)

variable (rounds : Nat) (next channelId : UInt8)

theorem add_ofNat_succ (round : Nat) : next + ofNat (round + 1) = next + 1 + ofNat round := by
  rw [Nat.add_comm, ofNat_add, ← UInt8.add_assoc]
  rfl

theorem add_ofNat_zero : next + ofNat 0 = next := add_zero next

variable {connections} in
theorem scanChannels_free {next : UInt8} (free : Free connections next) (rounds : Nat) :
    scanChannels connections (rounds + 1) next = (some next, next + 1) := if_pos free

variable {connections} in
theorem scanChannels_taken {next : UInt8} (taken : ¬Free connections next) (rounds : Nat) :
    scanChannels connections (rounds + 1) next = scanChannels connections rounds (next + 1) :=
  if_neg taken

theorem scanChannels_eq_none_iff : (scanChannels connections rounds next).1 = none ↔
      ∀ round < rounds, ¬Free connections (next + ofNat round) := by
  induction rounds generalizing next with
  | zero =>
    apply iff_of_true rfl
    intro round early
    exact absurd early (Nat.not_lt_zero _)
  | succ rounds ih =>
    rw [Nat.forall_lt_succ_left, add_ofNat_zero]
    simp only [add_ofNat_succ]
    by_cases free : Free connections next
    · rw [scanChannels_free free]
      apply iff_of_false
      · intro found
        cases found
      · intro taken
        exact taken.1 free
    · rw [scanChannels_taken free, ih]
      exact (and_iff_right free).symm

theorem scanChannels_eq_some_iff : (scanChannels connections rounds next).1 = some channelId ↔
      ∃ round < rounds, FirstFree connections next round ∧ next + ofNat round = channelId := by
  induction rounds generalizing next with
  | zero =>
    apply iff_of_false
    · intro found
      cases found
    · intro found
      rcases found with ⟨round, early, _⟩
      exact absurd early (Nat.not_lt_zero _)
  | succ rounds ih =>
    by_cases free : Free connections next
    · rw [scanChannels_free free]
      constructor
      · intro same
        refine ⟨0, Nat.succ_pos _, ⟨?_, ?_⟩, ?_⟩
        · rw [add_ofNat_zero]
          exact free
        · intro earlier early
          exact absurd early (Nat.not_lt_zero _)
        · rw [add_ofNat_zero]
          exact Option.some.inj same
      · intro found
        rcases found with ⟨round, _, first, same⟩
        cases round with
        | zero =>
          rw [add_ofNat_zero] at same
          rw [same]
        | succ =>
          have passed := first.2 0 (Nat.succ_pos _)
          rw [add_ofNat_zero] at passed
          exact absurd free passed
    · rw [scanChannels_taken free, ih]
      constructor
      · intro found
        rcases found with ⟨round, early, first, same⟩
        refine ⟨round + 1, Nat.succ_lt_succ early, ⟨?_, ?_⟩, ?_⟩
        · rw [add_ofNat_succ]
          exact first.1
        · rw [Nat.forall_lt_succ_left, add_ofNat_zero]
          simp only [add_ofNat_succ]
          exact ⟨free, first.2⟩
        · rw [add_ofNat_succ]
          exact same
      · intro found
        rcases found with ⟨round, early, first, same⟩
        cases round with
        | zero =>
          have here := first.1
          rw [add_ofNat_zero] at here
          exact absurd here free
        | succ round =>
          have later := first.2
          rw [Nat.forall_lt_succ_left] at later
          simp only [add_ofNat_succ] at later
          refine ⟨round, Nat.lt_of_succ_lt_succ early, ⟨?_, later.2⟩, ?_⟩
          · rw [← add_ofNat_succ]
            exact first.1
          · rw [← add_ofNat_succ]
            exact same

theorem exists_round_iff :
    (∃ round < 255, next + ofNat round = channelId) ↔ channelId ≠ next - 1 := by
  constructor
  · intro reached same
    rcases reached with ⟨round, early, reached⟩
    have last : ofNat round = 255 := by
      apply (add_right_inj next).mp
      rw [reached, same, sub_eq_add_neg]
      rfl
    have number := congrArg toNat last
    rw [toNat_ofNat', Nat.mod_eq_of_lt (by omega)] at number
    change round = 255 at number
    omega
  · intro other
    have back : next + (channelId - next) = channelId := by
      rw [add_comm, sub_add_cancel]
    refine ⟨(channelId - next).toNat, ?_, ?_⟩
    · have bound := (channelId - next).toNat_lt
      have differs : (channelId - next).toNat ≠ 255 := by
        intro last
        apply other
        have distance : channelId - next = 255 := UInt8.toNat_inj.mp last
        rw [← back, distance, sub_eq_add_neg]
        rfl
      omega
    · rw [UInt8.ofNat_toNat, back]

theorem scan_misses_iff : (scanChannels connections 255 next).1 = none ↔
      ∀ channelId, channelId ≠ next - 1 → ¬Free connections channelId := by
  rw [scanChannels_eq_none_iff]
  constructor
  · intro taken channelId other
    rcases (exists_round_iff next channelId).mpr other with ⟨round, early, same⟩
    rw [← same]
    exact taken round early
  · intro taken round early
    exact taken _ ((exists_round_iff next _).mp ⟨round, early, rfl⟩)

def takenNumbers : Finset Nat := connections.keys.toFinset.image UInt8.toNat

theorem card_takenNumbers : (takenNumbers connections).card = size connections := by
  rw [takenNumbers, size_eq_card]
  apply Finset.card_image_of_injective
  intro left right same
  exact UInt8.toNat_inj.mp same

theorem mem_takenNumbers_iff :
    channelId.toNat ∈ takenNumbers connections ↔ (connections.lookup channelId).isSome := by
  rw [takenNumbers, mem_image, ← mem_keys_iff]
  constructor
  · intro listed
    rcases listed with ⟨other, listed, same⟩
    rw [← UInt8.toNat_inj.mp same]
    exact listed
  · intro listed
    exact ⟨channelId, listed, rfl⟩

theorem takenNumbers_subset (zero : connections.lookup 0 = none) :
    takenNumbers connections ⊆ (Finset.range 256).erase 0 := by
  intro number listed
  rcases mem_image.mp listed with ⟨channelId, key, same⟩
  rw [← same, mem_erase, Finset.mem_range]
  constructor
  · intro isZero
    have first : channelId = 0 := UInt8.toNat_inj.mp isZero
    rw [first, mem_keys_iff, zero] at key
    cases key
  · exact channelId.toNat_lt

theorem exists_free_iff (zero : connections.lookup 0 = none) :
    (∃ channelId, Free connections channelId) ↔ size connections < 255 := by
  have subset := takenNumbers_subset connections zero
  have all : ((Finset.range 256).erase 0).card = 255 := by
    rw [Finset.card_erase_of_mem (Finset.mem_range.mpr (by decide)), Finset.card_range]
  constructor
  · intro found
    rcases found with ⟨channelId, nonzero, free⟩
    rw [← card_takenNumbers, ← all]
    apply card_lt_card
    apply ssubset_iff_of_subset subset |>.mpr
    refine ⟨channelId.toNat, ?_, ?_⟩
    · rw [mem_erase, Finset.mem_range]
      exact ⟨fun isZero => nonzero (UInt8.toNat_inj.mp isZero), channelId.toNat_lt⟩
    · rw [mem_takenNumbers_iff, free]
      exact Bool.false_ne_true
  · intro fewer
    by_contra none
    have superset : (Finset.range 256).erase 0 ⊆ takenNumbers connections := by
      intro number listed
      rw [mem_erase, Finset.mem_range] at listed
      have back : (ofNat number).toNat = number := by
        rw [toNat_ofNat']
        exact Nat.mod_eq_of_lt listed.2
      rw [← back, mem_takenNumbers_iff, Option.isSome_iff_ne_none]
      intro free
      apply none
      refine ⟨ofNat number, ?_, free⟩
      intro isZero
      rw [isZero] at back
      exact listed.1 back.symm
    have enough := card_le_card superset
    rw [card_takenNumbers, all] at enough
    omega

end

variable (manager : ConnectionManager)

/-- The only free id is the one before the counter, where the search does not come. -/
def MissesFreeId : Prop :=
  size manager.connections < manager.maxConnections ∧
    Free manager.connections (manager.nextChannelId - 1) ∧
    ∀ channelId, channelId ≠ manager.nextChannelId - 1 → ¬Free manager.connections channelId

/-- The first free id from the counter on is too large to have 100 added to it. -/
def TakesLargeId : Prop :=
  size manager.connections < manager.maxConnections ∧
    ∃ round < 255, FirstFree manager.connections manager.nextChannelId round ∧
      156 ≤ (manager.nextChannelId + UInt8.ofNat round).toNat

section

variable (manager : ConnectionManager)

theorem allocateChannel_room (room : size manager.connections < manager.maxConnections) :
    manager.allocateChannel.1 = (scanChannels manager.connections 255 manager.nextChannelId).1 := by
  rw [allocateChannel, if_neg (not_le.mpr room)]

theorem allocateChannel_eq_some_iff (channelId : UInt8) :
    manager.allocateChannel.1 = some channelId ↔ size manager.connections < manager.maxConnections ∧
      ∃ round < 255, FirstFree manager.connections manager.nextChannelId round ∧
      manager.nextChannelId + ofNat round = channelId := by
  by_cases room : size manager.connections < manager.maxConnections
  · rw [allocateChannel_room manager room, scanChannels_eq_some_iff, and_iff_right room]
  · rw [allocateChannel, if_pos (Nat.le_of_not_lt room)]
    apply iff_of_false
    · intro found
      cases found
    · intro found
      exact room found.1

theorem no_overflow_iff : (∀ channelId, manager.allocateChannel.1 = some channelId →
        100 + channelId.toNat < UInt8.size) ↔ ¬manager.TakesLargeId := by
  simp only [allocateChannel_eq_some_iff, TakesLargeId, UInt8.size]
  constructor
  · intro fits large
    rcases large with ⟨room, round, early, first, large⟩
    have small := fits _ ⟨room, round, early, first, rfl⟩
    omega
  · intro small channelId found
    rcases found with ⟨room, round, early, first, same⟩
    by_contra overflow
    apply small
    refine ⟨room, round, early, first, ?_⟩
    rw [same]
    omega

theorem allocates_iff (zero : manager.connections.lookup 0 = none) :
    (size manager.connections < min manager.maxConnections 255 →
        manager.allocateChannel.1.isSome) ↔ ¬manager.MissesFreeId := by
  rw [lt_min_iff]
  constructor
  · intro allocates misses
    have free := (exists_free_iff manager.connections zero).mp ⟨_, misses.2.1⟩
    have found := allocates ⟨misses.1, free⟩
    rw [allocateChannel_room manager misses.1, (scan_misses_iff _ _).mpr misses.2.2] at found
    cases found
  · intro reaches few
    rw [Option.isSome_iff_ne_none, allocateChannel_room manager few.1]
    intro missed
    have others := (scan_misses_iff _ _).mp missed
    apply reaches
    refine ⟨few.1, ?_, others⟩
    rcases (exists_free_iff manager.connections zero).mpr few.2 with ⟨channelId, free⟩
    by_contra last
    have same : channelId = manager.nextChannelId - 1 := by
      by_contra other
      exact others channelId other free
    rw [same] at free
    exact last free

end

structure Distinct (maxConnections : Nat) (manager : ConnectionManager) : Prop where
  count : size manager.connections ≤ maxConnections
  nonzero : ∀ connection ∈ values manager.connections, connection.channelId ≠ 0
  ids : ((values manager.connections).map TunnelConnection.channelId).Nodup
  addresses : ((values manager.connections).map TunnelConnection.individualAddress).Nodup

structure Consistent (maxConnections : Nat) (base : IndividualAddress)
    (manager : ConnectionManager) : Prop where
  limit : manager.maxConnections = maxConnections
  origin : manager.individualAddressBase = base
  count : size manager.connections ≤ maxConnections
  zero : manager.connections.lookup 0 = none
  keyed : Keyed TunnelConnection.channelId manager.connections
  addressed : ∀ connection ∈ values manager.connections,
    connection.individualAddress = individualAddress base connection.channelId

variable (maxConnections : Nat) {taken : Nat} (base : IndividualAddress) (threshold : UInt8)
variable {manager : ConnectionManager}

theorem individualAddress_injective : Function.Injective (individualAddress base) := by
  intro left right same
  have devices : 100 + left = 100 + right := congrArg IndividualAddress.device same
  exact (add_right_inj 100).mp devices

section

variable {maxConnections : Nat} {base : IndividualAddress} {manager : ConnectionManager}

theorem consistent_new (threshold : UInt8) :
    Consistent maxConnections base (new maxConnections base threshold) where
  limit := rfl
  origin := rfl
  count := Nat.zero_le _
  zero := rfl
  keyed := Keyed.empty
  addressed := by
    intro connection listed
    cases listed

theorem connections_allocateChannel :
    manager.allocateChannel.2.connections = manager.connections := by
  rw [allocateChannel]
  split_ifs <;> rfl

variable (consistent : Consistent maxConnections base manager)

include consistent

theorem Consistent.distinct : Distinct maxConnections manager := by
  constructor
  · exact consistent.count
  · intro connection listed isZero
    rcases (mem_values_iff connection).mp listed with ⟨channelId, found⟩
    rw [← consistent.keyed channelId connection found, isZero, consistent.zero] at found
    cases found
  · exact consistent.keyed.nodup_values
  · have made : (values manager.connections).map TunnelConnection.individualAddress =
        ((values manager.connections).map TunnelConnection.channelId).map
          (individualAddress base) := by
      rw [List.map_map]
      apply List.map_congr_left
      intro connection listed
      exact consistent.addressed connection listed
    rw [made]
    exact consistent.keyed.nodup_values.map (individualAddress_injective base)

theorem Consistent.remove (channelId : UInt8) :
    Consistent maxConnections base (manager.remove channelId) where
  limit := consistent.limit
  origin := consistent.origin
  count := (size_erase_le channelId _).trans consistent.count
  zero := by
    rw [ConnectionManager.remove, lookup_erase_eq]
    split
    · rfl
    · exact consistent.zero
  keyed := consistent.keyed.erase channelId
  addressed := by
    intro connection listed
    rcases (mem_values_iff connection).mp listed with ⟨other, found⟩
    rw [ConnectionManager.remove, lookup_erase_eq] at found
    split at found
    · cases found
    · exact consistent.addressed connection ((mem_values_iff connection).mpr ⟨other, found⟩)

theorem Consistent.counter (nextChannelId : UInt8) :
    Consistent maxConnections base { manager with nextChannelId } :=
  ⟨consistent.limit, consistent.origin, consistent.count, consistent.zero, consistent.keyed,
    consistent.addressed⟩

theorem Consistent.allocateChannel : Consistent maxConnections base manager.allocateChannel.2 := by
  rw [ConnectionManager.allocateChannel]
  split_ifs
  · exact consistent
  · exact consistent.counter _

theorem Consistent.createConnection {channelId : UInt8} (free : Free manager.connections channelId)
    (room : size manager.connections < maxConnections) (clientAddr dataEndpoint : SocketAddr) :
    Consistent maxConnections base
      (manager.createConnection channelId clientAddr dataEndpoint) where
  limit := consistent.limit
  origin := consistent.origin
  count := by
    rw [ConnectionManager.createConnection, size_insert_absent _ _ _ free.2]
    exact room
  zero := by
    rw [ConnectionManager.createConnection, lookup_insert_eq, if_neg free.1.symm]
    exact consistent.zero
  keyed := consistent.keyed.insert rfl
  addressed := by
    intro connection listed
    rcases (mem_values_iff connection).mp listed with ⟨other, found⟩
    rw [ConnectionManager.createConnection, lookup_insert_eq] at found
    split at found
    · rw [← Option.some.inj found, consistent.origin]
    · exact consistent.addressed connection ((mem_values_iff connection).mpr ⟨other, found⟩)

end

section

variable (manager : ConnectionManager)

theorem consistent_step (request : Request) (consistent : Consistent maxConnections base manager) :
    Consistent maxConnections base (manager.step request).2 := by
  cases request with
  | disconnect channelId => exact consistent.remove channelId
  | connect clientAddr dataEndpoint =>
    have allocated := consistent.allocateChannel
    have same := @connections_allocateChannel manager
    rw [step]
    cases outcome : manager.allocateChannel with
    | mk found =>
      rw [outcome] at allocated same
      cases found with
      | none => exact allocated
      | some channelId =>
        have chosen := (allocateChannel_eq_some_iff manager channelId).mp
          (congrArg Prod.fst outcome)
        rcases chosen with ⟨room, round, _, first, reached⟩
        rw [consistent.limit] at room
        have free := first.1
        rw [reached, ← same] at free
        rw [← same] at room
        exact allocated.createConnection free room clientAddr dataEndpoint

theorem consistent_run (requests : List Request) :
    Consistent maxConnections base (final step (new maxConnections base threshold) requests) :=
  final_invariant step (consistent_step maxConnections base) _ requests (consistent_new threshold)

/-- The address does not overflow, and where there is room an id is found. -/
def Served : Request → Prop
  | .connect _ _ =>
    (∀ channelId, manager.allocateChannel.1 = some channelId → 100 + channelId.toNat < UInt8.size) ∧
    (size manager.connections < min manager.maxConnections 255 → manager.allocateChannel.1.isSome)
  | .disconnect _ => True

def Harmless : Request → Prop
  | .connect _ _ => ¬manager.TakesLargeId ∧ ¬manager.MissesFreeId
  | .disconnect _ => True

end

theorem served_iff (zero : manager.connections.lookup 0 = none) (request : Request) :
    manager.Served request ↔ manager.Harmless request := by
  cases request with
  | connect =>
    rw [Served, Harmless, no_overflow_iff, allocates_iff manager zero]
  | disconnect => exact Iff.rfl

/-- In every run the connections are distinct and not too many; all connects are served exactly if
none meets a large first free id or a free id out of reach. -/
theorem allocation_correct_iff (maxConnections : Nat) (base : IndividualAddress)
    (threshold : UInt8) (requests : List Request) :
    ((∀ visited ∈ Transducer.states step (new maxConnections base threshold) requests,
        Distinct maxConnections visited) ∧
      ∀ arrival ∈ Transducer.arrivals step (new maxConnections base threshold) requests,
        Served arrival.1 arrival.2) ↔
      ∀ arrival ∈ Transducer.arrivals step (new maxConnections base threshold) requests,
        Harmless arrival.1 arrival.2 := by
  have initial : Consistent maxConnections base (new maxConnections base threshold) :=
    consistent_new threshold
  have visits := states_invariant step (consistent_step maxConnections base) _ requests initial
  have arrives := arrivals_invariant step (consistent_step maxConnections base) _ requests initial
  have distinct : ∀ visited ∈ states step (new maxConnections base threshold) requests,
      Distinct maxConnections visited := by
    intro visited listed
    exact (visits visited listed).distinct
  rw [and_iff_right distinct]
  apply forall₂_congr
  intro arrival listed
  exact served_iff (arrives arrival listed).zero arrival.2

/-- The ids up to a number are taken, and the counter stands behind them. -/
structure Filled (taken : Nat) (manager : ConnectionManager) : Prop where
  counter : manager.nextChannelId = UInt8.ofNat (taken + 1)
  count : size manager.connections = taken
  ids : ∀ channelId, (manager.connections.lookup channelId).isSome ↔
    0 < channelId.toNat ∧ channelId.toNat ≤ taken

theorem Filled.free (filled : Filled taken manager) (few : taken < 255) :
    Free manager.connections manager.nextChannelId := by
  have number : manager.nextChannelId.toNat = taken + 1 := by
    rw [filled.counter, toNat_ofNat']
    exact Nat.mod_eq_of_lt (by omega)
  constructor
  · intro isZero
    rw [isZero] at number
    exact absurd number (Nat.succ_ne_zero taken).symm
  · rw [← Option.not_isSome_iff_eq_none, filled.ids, number]
    omega

theorem Filled.connect (filled : Filled taken manager) (few : taken < 255)
    (room : taken < manager.maxConnections) (clientAddr dataEndpoint : SocketAddr) :
    Filled (taken + 1) (manager.step (.connect clientAddr dataEndpoint)).2 := by
  have free := filled.free few
  have number : manager.nextChannelId.toNat = taken + 1 := by
    rw [filled.counter, toNat_ofNat']
    exact Nat.mod_eq_of_lt (by omega)
  have allocated : manager.allocateChannel = (some manager.nextChannelId,
      { manager with nextChannelId := manager.nextChannelId + 1 }) := by
    rw [allocateChannel, if_neg (by rw [filled.count]; omega), scanChannels_free free]
  rw [step, allocated]
  constructor
  · show manager.nextChannelId + 1 = _
    rw [filled.counter, ofNat_add (taken + 1) 1]
    rfl
  · simp only [createConnection]
    rw [size_insert_absent _ _ _ free.2, filled.count]
  · intro channelId
    simp only [createConnection]
    rw [lookup_insert_eq]
    split_ifs with same
    · rw [same, number]
      simp
    · rw [filled.ids]
      have differs : channelId.toNat ≠ taken + 1 := by
        rw [← number]
        intro equal
        exact same (UInt8.toNat_inj.mp equal)
      omega

theorem filled_connects (clientAddr dataEndpoint : SocketAddr) {count : Nat} (few : count ≤ 255)
    (room : count ≤ maxConnections) :
    Filled count (final step (new maxConnections base threshold)
      (List.replicate count (.connect clientAddr dataEndpoint))) := by
  induction count with
  | zero =>
    constructor
    · rfl
    · rfl
    · intro channelId
      apply iff_of_false
      · intro found
        cases found
      · omega
  | succ count ih =>
    have before := ih (by omega) (by omega)
    have consistent := consistent_run maxConnections base threshold
      (List.replicate count (.connect clientAddr dataEndpoint))
    rw [List.replicate_succ', final_append, final_cons, final_nil]
    apply before.connect (by omega)
    rw [consistent.limit]
    omega

theorem Filled.misses (filled : Filled 255 manager) (room : 255 ≤ manager.maxConnections) :
    (manager.remove 255).MissesFreeId := by
  have last : (manager.remove 255).nextChannelId - 1 = 255 := by
    rw [remove, filled.counter]
    rfl
  have free : Free (manager.remove 255).connections 255 := by
    constructor
    · decide
    · rw [remove, lookup_erase_eq, if_pos rfl]
  have zero : (manager.remove 255).connections.lookup 0 = none := by
    rw [remove, lookup_erase_eq, if_neg (by decide), ← Option.not_isSome_iff_eq_none, filled.ids]
    exact fun taken => absurd taken.1 (by decide)
  constructor
  · exact ((exists_free_iff _ zero).mp ⟨255, free⟩).trans_le room
  · rw [last]
    refine ⟨free, ?_⟩
    intro channelId other both
    have taken := both.2
    rw [remove, lookup_erase_eq, if_neg other, ← Option.not_isSome_iff_eq_none, filled.ids] at taken
    have bound := channelId.toNat_lt
    have positive : channelId.toNat ≠ 0 := fun isZero => both.1 (UInt8.toNat_inj.mp isZero)
    omega

theorem Filled.not_found (filled : Filled 255 manager) (limit : manager.maxConnections = 255) :
    size (manager.remove 255).connections < 255 ∧ (manager.remove 255).allocateChannel.1 =
      none := by
  have misses := filled.misses limit.ge
  have room : size (manager.remove 255).connections < manager.maxConnections := misses.1
  rw [limit] at room
  rw [allocateChannel_room _ misses.1]
  exact ⟨room, (scan_misses_iff _ _).mpr misses.2.2⟩

/-- The id 156 does not fit, and with all ids taken and the last one given back 255 is not found. -/
theorem large_id_and_id_not_found : let base : IndividualAddress := ⟨1, 1, 0, by decide, by decide⟩
    let connect : Request := .connect ⟨⟨10, 0, 0, 1⟩, 3671⟩ ⟨⟨10, 0, 0, 1⟩, 3671⟩
    let single := Transducer.final step (new 1 base 5)
      ((List.range 155).flatMap fun round => [connect, .disconnect (UInt8.ofNat (round + 1))])
    let full := Transducer.final step (new 255 base 5) (List.replicate 255 connect)
    single.allocateChannel.1 = some 156 ∧ size (full.remove 255).connections < 255 ∧
      (full.remove 255).allocateChannel.1 = none := by
  intro base connect single full
  constructor
  · show (Transducer.final step (new 1 ⟨1, 1, 0, by decide, by decide⟩ 5)
      ((List.range 155).flatMap fun round =>
        [.connect ⟨⟨10, 0, 0, 1⟩, 3671⟩ ⟨⟨10, 0, 0, 1⟩, 3671⟩,
          .disconnect (UInt8.ofNat (round + 1))])).allocateChannel.1 = some 156
    clear full single connect base
    decide +kernel
  · have filled : Filled 255 full := filled_connects 255 base 5
      ⟨⟨10, 0, 0, 1⟩, 3671⟩ ⟨⟨10, 0, 0, 1⟩, 3671⟩ le_rfl le_rfl
    have limit : full.maxConnections = 255 :=
      (consistent_run 255 base 5 (List.replicate 255 connect)).limit
    exact filled.not_found limit

end Mabinogion.Knx.ConnectionManager
