import Mabinogion.Knx.FlowControl
import Mabinogion.Knx.Server

/-!
# Frames in flight

A channel should have one tunnelling request in flight. The flag that holds frames back is
cleared once a request has left, so what keeps the requests apart is that the server has no
second frame for the channel: a budget of frames, which each handler spends.
-/

namespace Mabinogion.Knx

open Checked KeyedTable World FilterChain
open Nat (le_add_left zero_le)

/-- A request went out on the channel, and the wait for its acknowledgement has not ended. -/
def unacknowledged (channelId : UInt8) : List LinkEvent → Bool
  | [] => false
  | .transmitted request _ delivered :: earlier =>
    (delivered && request.channelId == channelId) || unacknowledged channelId earlier
  | .acknowledged other :: earlier => other != channelId && unacknowledged channelId earlier
  | .closed other :: earlier => other != channelId && unacknowledged channelId earlier

/-- No request was sent on a channel with an unacknowledged one. -/
def NoOverrun : List LinkEvent → Prop
  | [] => True
  | .transmitted request _ _ :: earlier =>
    unacknowledged request.channelId earlier = false ∧ NoOverrun earlier
  | _ :: earlier => NoOverrun earlier

instance decidableNoOverrun : DecidablePred NoOverrun
  | [] => isTrue trivial
  | .transmitted request _ _ :: earlier =>
    match decidableNoOverrun earlier with
    | isTrue clean =>
      if free : unacknowledged request.channelId earlier = false then isTrue ⟨free, clean⟩
      else isFalse fun both => free both.1
    | isFalse overrun => isFalse fun both => overrun both.2
  | .acknowledged _ :: earlier => decidableNoOverrun earlier
  | .closed _ :: earlier => decidableNoOverrun earlier

variable {channelId : UInt8}

namespace World

def holds (world : World) (channelId : UInt8) : Bool := world.server.filterChain.holds channelId

/-- Any number of frames where the channel is held, else one where nothing is unacknowledged. -/
def Room (world : World) (channelId : UInt8) (frames : Nat) : Prop :=
  frames = 0 ∨ world.holds channelId = true ∨
    frames = 1 ∧ unacknowledged channelId world.history = false

instance (world : World) (channelId : UInt8) (frames : Nat) :
    Decidable (world.Room channelId frames) :=
  inferInstanceAs (Decidable (_ ∨ _ ∨ _))

theorem Room.mono {world : World} {fewer frames : Nat} (room : world.Room channelId frames)
    (less : fewer ≤ frames) : world.Room channelId fewer := by
  rcases room with zero | held | one
  · exact Or.inl (by omega)
  · exact Or.inr (Or.inl held)
  · by_cases none : fewer = 0
    · exact Or.inl none
    · exact Or.inr (Or.inr ⟨by omega, one.2⟩)

theorem Room.congr {before after : World} {frames : Nat}
    (room : before.Room channelId frames) (held : after.holds channelId = before.holds channelId)
    (same : unacknowledged channelId after.history = unacknowledged channelId before.history) :
    after.Room channelId frames := by
  rw [Room, held, same]
  exact room

end World

variable {change : FilterChain → FilterChain}

section

variable (config : ServerConfig) (channels : Finset UInt8)

/-- The requests so far do not overrun, and there is room for the frames of the budget. -/
structure Budgeted (budget : UInt8 → Nat) (world : World) : Prop where
  config : world.server.config = config
  controls : world.server.filterChain.Controls
  keyed : Keyed TunnelConnection.channelId world.server.connections.connections
  known : ∀ channelId, (world.server.connections.connections.lookup channelId).isSome →
    channelId ∈ channels
  clean : NoOverrun world.history
  room : ∀ channelId, world.Room channelId (budget channelId)

variable {config channels} {budget : UInt8 → Nat} {before after : World}

section

variable (budgeted : Budgeted config channels budget before)

include budgeted

theorem Budgeted.mono {less : UInt8 → Nat}
    (fewer : ∀ channelId, less channelId ≤ budget channelId) :
    Budgeted config channels less before :=
  { budgeted with room := fun channelId => (budgeted.room channelId).mono (fewer channelId) }

theorem Budgeted.touch
    (spent : budget channelId = 0) (sameConfig : after.server.config = before.server.config)
    (chain : AgreesOff channelId before.server.filterChain after.server.filterChain)
    (connections : after.server.connections.connections = before.server.connections.connections)
    (history : after.history = before.history) : Budgeted config channels budget after where
  config := sameConfig.trans budgeted.config
  controls := chain.controls budgeted.controls
  keyed := connections ▸ budgeted.keyed
  known := connections ▸ budgeted.known
  clean := history ▸ budgeted.clean
  room := by
    intro other
    by_cases same : other = channelId
    · rw [same, spent]
      exact Or.inl rfl
    · exact (budgeted.room other).congr (chain.flags other same) (by rw [history])

theorem Budgeted.withConnections (sameConfig : after.server.config = before.server.config)
    (chain : Untouched before.server.filterChain after.server.filterChain)
    (history : after.history = before.history)
    (keyed : Keyed TunnelConnection.channelId after.server.connections.connections)
    (known : ∀ channelId, (after.server.connections.connections.lookup channelId).isSome →
      channelId ∈ channels) : Budgeted config channels budget after where
  config := sameConfig.trans budgeted.config
  controls := (chain.agreesOff 0).controls budgeted.controls
  keyed
  known
  clean := history ▸ budgeted.clean
  room := fun other => (budgeted.room other).congr (chain.flags other) (by rw [history])

theorem Budgeted.congr (sameConfig : after.server.config = before.server.config)
    (chain : Untouched before.server.filterChain after.server.filterChain)
    (connections : after.server.connections.connections = before.server.connections.connections)
    (history : after.history = before.history) : Budgeted config channels budget after :=
  budgeted.withConnections sameConfig chain history (connections ▸ budgeted.keyed)
    (connections ▸ budgeted.known)

theorem Budgeted.touchChain (spent : budget channelId = 0)
    (chain : AgreesOff channelId before.server.filterChain
      (change before.server.filterChain)) :
    Budgeted config channels budget (before.updateChain change) :=
  budgeted.touch spent rfl chain rfl rfl

theorem Budgeted.keepChain
    (chain : Untouched before.server.filterChain (change before.server.filterChain)) :
    Budgeted config channels budget (before.updateChain change) :=
  budgeted.congr rfl chain rfl rfl

end

variable (config channels) in
/-- The handler keeps to a budget that leaves the cost for it. -/
def Spends {Value : Type} (cost : UInt8 → Nat) (handler : Handler Value) : Prop :=
  ∀ budget : UInt8 → Nat,
    Triple (Budgeted config channels fun channelId => cost channelId + budget channelId) handler
      (fun _ => Budgeted config channels budget) (Budgeted config channels budget)

def noFrames : UInt8 → Nat := fun _ => 0

def framesAt (channelId : UInt8) (frames : Nat) : UInt8 → Nat := fun other =>
  if other = channelId then frames else 0

namespace Spends

variable {Value Result : Type} {cost : UInt8 → Nat}
variable {first : Handler Value} {next : Value → Handler Result} {handler : Handler Value}

theorem weaken {more : UInt8 → Nat} (spends : Spends config channels cost handler)
    (fits : ∀ channelId, cost channelId ≤ more channelId) :
    Spends config channels more handler := by
  intro budget
  apply (spends budget).ofPre
  intro world budgeted
  exact budgeted.mono fun channelId => Nat.add_le_add_right (fits channelId) _

theorem pure (value : Value) :
    Spends config channels noFrames (Pure.pure value : Handler Value) := by
  intro budget
  apply Triple.pure
  intro world budgeted
  exact budgeted.mono fun channelId => le_add_left _ _

theorem bind {later : UInt8 → Nat} (head : Spends config channels cost first)
    (tail : ∀ value, Spends config channels later (next value)) :
    Spends config channels (fun channelId => cost channelId + later channelId)
      (first >>= next) := by
  intro budget
  have headTriple := head fun channelId => later channelId + budget channelId
  apply Triple.bind (headTriple.weaken ?_ (fun _ _ holds => holds) ?_)
  · intro value
    exact tail value budget
  · intro world budgeted
    exact budgeted.mono fun channelId => (add_assoc _ _ _).ge
  · intro world budgeted
    exact budgeted.mono fun channelId => le_add_left _ _

theorem afterFree (head : Spends config channels noFrames first)
    (tail : ∀ value, Spends config channels cost (next value)) :
    Spends config channels cost (first >>= next) :=
  (head.bind tail).weaken fun _ => (zero_add _).le

theorem beforeFree (head : Spends config channels cost first)
    (tail : ∀ value, Spends config channels noFrames (next value)) :
    Spends config channels cost (first >>= next) :=
  (head.bind tail).weaken fun _ => le_rfl

theorem getConfig {next : ServerConfig → Handler Result}
    (tail : Spends config channels cost (next config)) :
    Spends config channels cost ((gets fun world => world.server.config) >>= next) := by
  intro budget world budgeted
  have read : (gets fun world : World => world.server.config : Handler ServerConfig) world =
      .ok config world := by
    rw [gets_apply, budgeted.config]
  rw [bind_ok read]
  exact tail budget world budgeted

theorem attempt (spends : Spends config channels cost handler) :
    Spends config channels cost (attempt handler : Handler (Except ServerError Value)) := by
  intro budget
  apply (spends budget).attempt
  · intro value world budgeted
    exact budgeted
  · intro error world budgeted
    exact budgeted

theorem modifyGet {change : World → Value × World}
    (free : ∀ world, (change world).2.server.config = world.server.config ∧
      Untouched world.server.filterChain (change world).2.server.filterChain ∧
      (change world).2.server.connections = world.server.connections ∧
      (change world).2.history = world.history) :
    Spends config channels noFrames (modifyGet change : Handler Value) := by
  intro budget
  apply Triple.modifyGet
  intro world budgeted
  have rest := free world
  have spared : Budgeted config channels budget world :=
    budgeted.mono fun channelId => le_add_left _ _
  exact spared.congr rest.1 rest.2.1 (congrArg _ rest.2.2.1) rest.2.2.2

theorem all (spends : Spends config channels cost handler) :
    Leads (Budgeted config channels cost) handler (Budgeted config channels noFrames) :=
  spends noFrames

theorem none (spends : Spends config channels noFrames handler) :
    Triple (Budgeted config channels budget) handler (fun _ => Budgeted config channels budget)
      (Budgeted config channels noFrames) := by
  apply (spends budget).weaken
  · intro world budgeted
    exact budgeted.mono fun _ => (zero_add _).le
  · intro value world budgeted
    exact budgeted
  · intro world budgeted
    exact budgeted.mono fun _ => zero_le _

theorem gets (view : World → Value) : Spends config channels noFrames (gets view : Handler Value) :=
  @modifyGet config channels Value (fun world => (view world, world))
    fun _ => ⟨rfl, .refl _, rfl, rfl⟩

theorem modify {change : World → World}
    (free : ∀ world, (change world).server.config = world.server.config ∧
      Untouched world.server.filterChain (change world).server.filterChain ∧
      (change world).server.connections = world.server.connections ∧
      (change world).history = world.history) :
    Spends config channels noFrames (modify change : Handler Unit) :=
  @modifyGet config channels Unit (fun world => ((), change world)) free

theorem onlyIf {condition : Bool} {handler : Handler Unit}
    (spends : condition = true → Spends config channels cost handler) :
    Spends config channels cost (onlyIf condition handler) := by
  cases condition with
  | true => exact spends rfl
  | false => exact (pure ()).weaken fun _ => zero_le _

theorem visitAll {Item : Type} {visit : Item → Handler Value} {costs : Item → UInt8 → Nat}
    (visits : ∀ item, Spends config channels (costs item) (visit item)) (items : List Item) :
    Spends config channels (fun channelId => (items.map (costs · channelId)).sum)
      (Checked.visitAll visit items) := by
  induction items with
  | nil => exact pure []
  | cons item items ih =>
    have rest (value : Value) : Spends config channels
        (fun channelId => (items.map (costs · channelId)).sum)
        (Checked.visitAll visit items >>= fun values => Pure.pure (value :: values)) :=
      ih.beforeFree fun values => pure (value :: values)
    apply ((visits item).bind rest).weaken
    intro channelId
    rw [List.map_cons, List.sum_cons]

end Spends

section

variable (world : World) (clientAddr : SocketAddr) (connection : TunnelConnection)

theorem World.server_sendTo : world.sendTo.2.server = world.server := by
  rw [sendTo]
  split <;> rfl

theorem World.history_sendTo : world.sendTo.2.history = world.history := by
  rw [sendTo]
  split <;> rfl

theorem spends_sendTo : Spends config channels noFrames (modifyGet sendTo : Handler Bool) := by
  apply Spends.modifyGet
  intro world
  rw [server_sendTo, history_sendTo]
  exact ⟨rfl, .refl _, rfl, rfl⟩

theorem spends_sendDatagram : Spends config channels noFrames sendDatagram := by
  have ends (delivered : Bool) : Spends config channels noFrames
        (if delivered then Pure.pure () else fail .io : Handler Unit) := by
    intro budget
    apply Triple.ite
    · intro _
      exact Spends.pure () budget
    · intro _
      apply Triple.fail
      intro world budgeted
      exact budgeted.mono fun channelId => le_add_left _ _
  exact spends_sendTo.afterFree ends

/-- The budget of the channel is used up, and nothing on it is unacknowledged. -/
structure Ready (config : ServerConfig) (channels : Finset UInt8) (channelId : UInt8)
    (budget : UInt8 → Nat) (world : World) : Prop where
  budgeted : Budgeted config channels budget world
  spent : budget channelId = 0
  free : unacknowledged channelId world.history = false

theorem Budgeted.replace (budgeted : Budgeted config channels budget before)
    {connection : TunnelConnection} (present : channelId ∈ channels)
    (own : connection.channelId = channelId) :
    Budgeted config channels budget (before.updateServer fun server =>
      { server with connections := { server.connections with
          connections := server.connections.connections.insert channelId connection } }) := by
  refine budgeted.withConnections rfl (.refl _) rfl ?_ ?_
  · exact budgeted.keyed.insert own
  · intro other found
    have lookup := lookup_insert_eq channelId other connection before.server.connections.connections
    by_cases same : other = channelId
    · rw [same]
      exact present
    · rw [if_neg same] at lookup
      apply budgeted.known other
      rw [← lookup]
      exact found

theorem ready_nextSendSequence :
    Keeps (Ready config channels channelId budget) (nextSendSequence connection) := by
  apply Triple.modifyGet
  intro world ready
  cases found : world.server.connections.connections.lookup connection.channelId with
  | none => exact ready
  | some =>
    have own := ready.budgeted.keyed _ _ found
    have present : connection.channelId ∈ channels :=
      ready.budgeted.known _ (by rw [found]; rfl)
    rw [← own] at present
    exact ⟨ready.budgeted.replace present rfl, ready.spent, ready.free⟩

variable {request : TunnellingRequest}

theorem Ready.transmitted {world : World} (ready : Ready config channels channelId budget world)
    (own : request.channelId = channelId) (target : SocketAddr)
    (delivered : Bool) :
    Budgeted config channels budget (world.record (.transmitted request target delivered)) where
  config := ready.budgeted.config
  controls := ready.budgeted.controls
  keyed := ready.budgeted.keyed
  known := ready.budgeted.known
  clean := by
    constructor
    · rw [own]
      exact ready.free
    · exact ready.budgeted.clean
  room := by
    intro other
    by_cases same : other = channelId
    · rw [same, ready.spent]
      exact Or.inl rfl
    · have differs : (request.channelId == other) = false := by
        rw [own]
        exact beq_false_of_ne (Ne.symm same)
      have still : unacknowledged other
          (world.record (.transmitted request target delivered)).history =
            unacknowledged other world.history := by
        rw [record, unacknowledged, differs, Bool.and_false, Bool.false_or]
      exact (ready.budgeted.room other).congr rfl still

theorem ready_transmit (own : request.channelId = channelId) (target : SocketAddr) :
    Leads (Ready config channels channelId budget) (transmit request target)
      (Budgeted config channels budget) := by
  apply @Triple.bind _ _ _ _ _ _ (fun _ => Budgeted config channels budget)
  · apply Triple.modifyGet
    intro world ready
    have sent : Ready config channels channelId budget world.sendTo.2 := by
      constructor
      · apply ready.budgeted.congr
        · rw [server_sendTo]
        · rw [server_sendTo]
          exact .refl _
        · rw [server_sendTo]
        · exact world.history_sendTo
      · exact ready.spent
      · rw [history_sendTo]
        exact ready.free
    exact sent.transmitted own target world.sendTo.1
  · intro delivered
    apply Triple.ite
    · intro _
      exact Triple.pure fun _ budgeted => budgeted
    · intro _
      exact Triple.fail fun _ budgeted => budgeted

section

variable {connection : TunnelConnection}

theorem ready_sendTunnellingRequestRaw (own : connection.channelId = channelId) (cemi : CemiFrame) :
    Leads (Ready config channels channelId budget)
      (sendTunnellingRequestRaw clientAddr connection cemi) (Budgeted config channels budget) := by
  apply Triple.bind ((ready_nextSendSequence connection).weaken (fun _ holds => holds)
    (fun _ _ holds => holds) (fun _ holds => holds.budgeted))
  intro sequenceCounter
  apply @Triple.bind _ _ _ _ _ _ (fun _ => Ready config channels channelId budget)
  · apply Triple.modify
    intro world ready
    have chain := ready.budgeted.controls.agreesOff_setWaitingForAck connection.channelId true
    rw [own] at chain
    have on := ready.budgeted.controls.enabled
    constructor
    · apply ready.budgeted.touchChain ready.spent
      rw [if_pos on, own]
      exact chain
    · exact ready.spent
    · exact ready.free
  · intro _
    exact ready_transmit own clientAddr

theorem budgeted_onSendSuccess (spent : budget channelId = 0) :
    Keeps (Budgeted config channels budget) (onSendSuccess channelId) := by
  apply Triple.modify
  intro world budgeted
  apply budgeted.touchChain spent
  exact budgeted.controls.agreesOff_onSendSuccess world.clock channelId

theorem budgeted_onSendFailure : Keeps (Budgeted config channels budget) onSendFailure := by
  apply Triple.modify
  intro world budgeted
  apply budgeted.keepChain
  exact untouched_onSendFailure world.server.filterChain world.clock

theorem ready_sleep (duration : Nat) :
    Keeps (Ready config channels channelId budget) (sleep duration) := by
  apply Triple.modify
  intro world ready
  exact ⟨ready.budgeted.congr rfl (.refl _) rfl rfl, ready.spent, ready.free⟩

theorem Ready.keepChain {world : World} (ready : Ready config channels channelId budget world)
    (chain : Untouched world.server.filterChain (change world.server.filterChain)) :
    Ready config channels channelId budget (world.updateChain change) :=
  ⟨ready.budgeted.keepChain chain, ready.spent, ready.free⟩

theorem ready_sendPassed (own : connection.channelId = channelId) (cemi : CemiFrame) (delay : Nat)
    (spent : budget channelId = 0) :
    Leads (Ready config channels channelId budget) (sendPassed clientAddr connection cemi delay)
      (Budgeted config channels budget) := by
  apply @Triple.bind _ _ _ _ _ _ (fun _ => Ready config channels channelId budget)
  · apply Triple.ite
    · intro _
      apply @Triple.bind _ _ _ _ _ _ (fun _ => Ready config channels channelId budget)
      · apply Triple.modify
        intro world ready
        apply ready.keepChain
        exact untouched_paceFilter _ _
      · intro _
        exact (ready_sleep delay).weaken (fun _ holds => holds) (fun _ _ holds => holds)
          (fun _ holds => holds.budgeted)
    · intro _
      exact Triple.pure fun _ ready => ready
  · intro _
    apply @Triple.bind _ _ _ _ _ _ (fun _ => Budgeted config channels budget)
    · apply (ready_sendTunnellingRequestRaw clientAddr own cemi).attempt
      · intro value world budgeted
        exact budgeted
      · intro error world budgeted
        exact budgeted
    · intro sent
      cases sent with
      | ok =>
        rw [own]
        exact budgeted_onSendSuccess spent
      | error =>
        apply Triple.bind budgeted_onSendFailure
        intro _
        exact Triple.fail fun _ budgeted => budgeted

end

theorem spends_sendTunnellingRequest (cemi : CemiFrame) :
    Spends config channels (framesAt connection.channelId 1)
      (sendTunnellingRequest clientAddr connection cemi) := by
  intro budget world budgeted
  have controls := budgeted.controls
  have spared : Budgeted config channels budget world :=
    budgeted.mono fun channelId => le_add_left _ _
  have read : (gets fun world : World => world.server.filterChain.enabled : Handler Bool) world =
      .ok true world := by
    rw [gets_apply, controls.enabled]
  let envelope := FrameEnvelope.new cemi connection.channelId clientAddr
  let filtered := world.server.filterChain.send world.clock envelope
  have after : Budgeted config channels budget (world.updateChain fun _ => filtered.2.2) :=
    spared.keepChain (untouched_send world.server.filterChain world.clock envelope)
  have passes : filterSend envelope world =
      .ok filtered.1 (world.updateChain fun _ => filtered.2.2) := rfl
  rw [sendTunnellingRequest, bind_ok read, if_pos rfl, bind_ok passes]
  cases result : filtered.1 with
  | queued | dropped | error => exact after
  | pass delay =>
    -- Only a channel that is not held gets here, and there the room was for one frame.
    have room := budgeted.room connection.channelId
    rw [framesAt, if_pos rfl] at room
    rcases room with none | held | one
    · exact absurd none (by omega)
    · have kept := @FilterChain.Controls.send_held _ world.clock controls envelope held
      rw [show (world.server.filterChain.send world.clock envelope).1 = .pass delay from result] at kept
      rcases kept with queued | ⟨⟨_, dropped⟩, _⟩ <;> contradiction
    · have spent : budget connection.channelId = 0 := by omega
      exact ready_sendPassed clientAddr rfl cemi delay spent _ ⟨after, spent, one.2⟩

end

section

variable (clientAddr : SocketAddr) (cemi : CemiFrame) (connection : TunnelConnection)

def responseFrames (cemi : CemiFrame) : Nat :=
  if cemi.apci = .groupValueRead ∧ cemi.destinationGroup.isSome then 1 else 0

variable (source : TunnelConnection) (address : GroupAddress) (busSuccess : Bool)

theorem spends_writeGroupObject (data : Bytes) :
    Spends config channels noFrames (writeGroupObject address data) := by
  apply Spends.modifyGet
  intro world
  cases world.server.groupObjects.write address data with
  | ok | error => exact ⟨rfl, .refl _, rfl, rfl⟩

theorem spends_updateCache (change : World → GroupValueCache → GroupValueCache) :
    Spends config channels noFrames
      (modify fun world => world.updateCache (change world) : Handler Unit) :=
  Spends.modify fun _ => ⟨rfl, .refl _, rfl, rfl⟩

theorem spends_sleep (duration : Nat) : Spends config channels noFrames (sleep duration) :=
  Spends.modify fun _ => ⟨rfl, .refl _, rfl, rfl⟩

theorem spends_handleLdataData :
    Spends config channels (framesAt connection.channelId (responseFrames cemi))
      (handleLdataData clientAddr cemi connection) := by
  have free {handler : Handler Bool} (spends : Spends config channels noFrames handler) :
      Spends config channels (framesAt connection.channelId (responseFrames cemi)) handler :=
    spends.weaken fun _ => zero_le _
  rw [handleLdataData]
  split_ifs
  · exact free (Spends.pure true)
  · cases destination : cemi.destinationGroup with
    | none => exact free (Spends.pure true)
    | some address =>
      cases service : cemi.apci
      case groupValueWrite =>
        apply free
        apply (spends_writeGroupObject address cemi.data).afterFree
        intro written
        apply (spends_updateCache _).afterFree
        intro _
        exact Spends.pure written
      case groupValueRead =>
        have one : responseFrames cemi = 1 := by
          rw [responseFrames, if_pos ⟨service, by rw [destination]; rfl⟩]
        rw [one]
        apply (Spends.gets _).afterFree
        intro response
        apply (spends_sendTunnellingRequest clientAddr connection response).beforeFree
        intro _
        exact Spends.pure true
      case groupValueResponse =>
        apply free
        apply (spends_writeGroupObject address cemi.data).afterFree
        intro _
        exact Spends.pure true
      all_goals exact free (Spends.pure true)

theorem spends_computeConfirmationSuccess :
    Spends config channels noFrames (computeConfirmationSuccess busSuccess) := by
  apply Spends.modifyGet
  intro world
  cases world.server.config.confirmationSuccessRate with
  | sometimes => cases busSuccess <;> exact ⟨rfl, .refl _, rfl, rfl⟩
  | _ => exact ⟨rfl, .refl _, rfl, rfl⟩

theorem spends_confirmLdata : Spends config channels (framesAt connection.channelId 1)
      (confirmLdata clientAddr cemi connection busSuccess) := by
  apply (spends_computeConfirmationSuccess busSuccess).afterFree
  intro success
  apply (Spends.gets _).afterFree
  intro delay
  apply (spends_sleep delay).afterFree
  intro _
  exact spends_sendTunnellingRequest clientAddr connection _

theorem spends_broadcastTo : Spends config channels
      (fun other => if other = source.channelId then 0 else framesAt connection.channelId 1 other)
      (broadcastTo cemi source connection) := by
  rw [broadcastTo]
  split_ifs with isSource
  · exact (Spends.pure false).weaken fun _ => zero_le _
  · have sends : Spends config channels (framesAt connection.channelId 1)
        (sendTunnellingRequest connection.dataEndpoint connection (relay cemi .lDataInd false)) :=
      spends_sendTunnellingRequest _ _ _
    apply (sends.attempt.beforeFree _).weaken
    · intro other
      split_ifs with same
      · rw [framesAt, if_neg (by rw [same]; exact Ne.symm isSource)]
      · exact le_rfl
    · intro sent
      cases sent with
      | ok => exact Spends.pure true
      | error => exact Spends.pure false

theorem sum_framesAt (connections : List TunnelConnection) (other : UInt8) :
    (connections.map fun connection => framesAt connection.channelId 1 other).sum =
      (connections.map TunnelConnection.channelId).count other := by
  induction connections with
  | nil => rfl
  | cons connection connections ih =>
    rw [List.map_cons, List.sum_cons, ih, List.map_cons, List.count_cons, framesAt, add_comm]
    by_cases same : other = connection.channelId
    · rw [if_pos same, if_pos (beq_iff_eq.mpr same.symm)]
    · rw [if_neg same, if_neg (fun equal => same (beq_iff_eq.mp equal).symm)]

def frameForAll (channels : Finset UInt8) : UInt8 → Nat := fun other =>
  if other ∈ channels then 1 else 0

theorem Budgeted.sum_le {world : World} (budgeted : Budgeted config channels budget world)
    (other : UInt8) :
    ((values world.server.connections.connections).map fun connection =>
      framesAt connection.channelId 1 other).sum ≤ frameForAll channels other := by
  rw [sum_framesAt, frameForAll]
  split_ifs with known
  · exact List.nodup_iff_count_le_one.mp budgeted.keyed.nodup_values other
  · rw [Nat.le_zero, List.count_eq_zero]
    intro listed
    apply known
    rw [budgeted.keyed.map_values] at listed
    exact budgeted.known other ((mem_keys_iff other _).mp (List.mem_toFinset.mpr listed))

theorem spends_allConnections {Result : Type} {costs : TunnelConnection → UInt8 → Nat}
    {cost : UInt8 → Nat} {next : List TunnelConnection → Handler Result}
    (tail : ∀ connections, Spends config channels
      (fun other => (connections.map (costs · other)).sum) (next connections))
    (fits : ∀ budget world, Budgeted config channels budget world → ∀ other,
      ((values world.server.connections.connections).map (costs · other)).sum ≤ cost other) :
    Spends config channels cost (allConnections >>= next) := by
  intro budget world budgeted
  have read : allConnections world = .ok (values world.server.connections.connections) world := rfl
  rw [bind_ok read]
  apply tail _ budget world
  apply budgeted.mono
  intro other
  exact Nat.add_le_add_right (fits _ world budgeted other) _

theorem spends_broadcastLdataInd : Spends config channels
      (fun other => if other = source.channelId then 0 else frameForAll channels other)
      (broadcastLdataInd cemi source address) := by
  apply @spends_allConnections config channels Unit fun connection other =>
    if other = source.channelId then 0 else framesAt connection.channelId 1 other
  · intro connections
    apply (Spends.visitAll (fun connection => spends_broadcastTo cemi connection source)
      connections).beforeFree
    intro reached
    apply Spends.onlyIf
    intro _
    exact spends_updateCache _
  · intro budget world budgeted other
    split_ifs with isSource
    · rw [List.map_const', List.sum_replicate_nat, mul_zero]
    · exact budgeted.sum_le other

theorem spends_emitBusMonitorFrame :
    Spends config channels (frameForAll channels) (emitBusMonitorFrame cemi) := by
  apply @spends_allConnections config channels Unit fun connection =>
    framesAt connection.channelId 1
  · intro connections
    have visits (connection : TunnelConnection) :
        Spends config channels (framesAt connection.channelId 1)
          (attempt (sendTunnellingRequest connection.dataEndpoint connection
            (CemiFrame.busMonitorIndication cemi.encode (if cemi.confirm then 0x80 else 0x00) 0)) :
              Handler (Except ServerError Unit)) :=
      (spends_sendTunnellingRequest _ _ _).attempt
    apply (Spends.visitAll visits connections).beforeFree
    intro _
    exact Spends.pure ()
  · intro budget world budgeted other
    exact budgeted.sum_le other

section

variable (config : ServerConfig) (cemi : CemiFrame)

/-- The frames for the client that sent the frame, without the bus monitor. -/
def servedFrames : Nat :=
  match cemi.messageCode with
  | .lDataReq => responseFrames cemi + if config.ldataConEnabled then 1 else 0
  | .lDataInd => responseFrames cemi
  | .mPropReadReq | .mPropWriteReq =>
    if config.propertyServiceEnabled ∧ cemi.parsePropertyRequest.isSome then 1 else 0
  | .mResetReq => if config.resetServiceEnabled then 1 else 0
  | .lRawReq => 1
  | _ => 0

def indicationFrames : Nat :=
  if cemi.messageCode = .lDataReq ∧ config.ldataIndBroadcastEnabled ∧
    cemi.destinationGroup.isSome then 1 else 0

/-- The frames that a client gets for a frame from a source. -/
def framesFor (source other : UInt8) : Nat :=
  (if other = source then servedFrames config cemi else indicationFrames config cemi) +
    if config.busMonitorEnabled then 1 else 0

/-- The same, by what is sent to the source and to the other known channels. -/
def dispatchFrames (channels : Finset UInt8) (cemi : CemiFrame)
    (source : UInt8) : UInt8 → Nat := fun other =>
  if other = source then servedFrames config cemi
  else if other ∈ channels then indicationFrames config cemi else 0

end

theorem spends_broadcastIfEnabled (request : cemi.messageCode = .lDataReq) : Spends config channels
      (fun other => if other = connection.channelId then 0
        else if other ∈ channels then indicationFrames config cemi else 0)
      (onlyIf config.ldataIndBroadcastEnabled (match cemi.destinationGroup with
        | some address => broadcastLdataInd cemi connection address
        | none => Pure.pure ())) := by
  apply Spends.onlyIf
  intro enabled
  cases destination : cemi.destinationGroup with
  | none => exact (Spends.pure ()).weaken fun _ => zero_le _
  | some address =>
    have one : indicationFrames config cemi = 1 := by
      rw [indicationFrames, if_pos ⟨request, enabled, by rw [destination]; rfl⟩]
    rw [one]
    exact spends_broadcastLdataInd cemi connection address

theorem spends_handleLdataReq (request : cemi.messageCode = .lDataReq) :
    Spends config channels (dispatchFrames config channels cemi connection.channelId)
      (handleLdataReq clientAddr cemi connection) := by
  have confirms (busSuccess : Bool) : Spends config channels
        (framesAt connection.channelId (if config.ldataConEnabled then 1 else 0))
        (onlyIf config.ldataConEnabled (confirmLdata clientAddr cemi connection busSuccess)) := by
    apply Spends.onlyIf
    intro enabled
    rw [if_pos enabled]
    exact spends_confirmLdata clientAddr cemi connection busSuccess
  apply ((spends_handleLdataData clientAddr cemi connection).bind fun busSuccess =>
    Spends.getConfig ((confirms busSuccess).bind fun _ =>
      spends_broadcastIfEnabled cemi connection request)).weaken
  intro other
  rw [dispatchFrames, servedFrames, request]
  simp only [framesAt]
  split_ifs <;> omega

theorem spends_handlePropReadReq : Spends config channels
      (framesAt connection.channelId (if cemi.parsePropertyRequest.isSome then 1 else 0))
      (handlePropReadReq clientAddr cemi connection) := by
  rw [handlePropReadReq]
  cases cemi.parsePropertyRequest with
  | none => exact (Spends.pure ()).weaken fun _ => zero_le _
  | some => exact Spends.getConfig (spends_sendTunnellingRequest _ _ _)

theorem spends_handlePropWriteReq : Spends config channels
      (framesAt connection.channelId (if cemi.parsePropertyRequest.isSome then 1 else 0))
      (handlePropWriteReq clientAddr cemi connection) := by
  rw [handlePropWriteReq]
  cases cemi.parsePropertyRequest with
  | none => exact (Spends.pure ()).weaken fun _ => zero_le _
  | some => exact spends_sendTunnellingRequest _ _ _

theorem Spends.atSource {handler : Handler Unit} {frames : Nat}
    (spends : Spends config channels (framesAt connection.channelId frames) handler)
    (served : frames ≤ servedFrames config cemi) :
    Spends config channels (dispatchFrames config channels cemi connection.channelId) handler := by
  apply spends.weaken
  intro other
  rw [framesAt, dispatchFrames]
  split_ifs <;> omega

theorem servedFrames_property (code : cemi.messageCode = .mPropReadReq ∨
    cemi.messageCode = .mPropWriteReq) (enabled : config.propertyServiceEnabled) :
    servedFrames config cemi = if cemi.parsePropertyRequest.isSome then 1 else 0 := by
  rcases code with code | code
  all_goals simp only [servedFrames, code, enabled, true_and]

theorem spends_dispatchCemi :
    Spends config channels (dispatchFrames config channels cemi connection.channelId)
      (dispatchCemi clientAddr cemi connection) := by
  apply Spends.getConfig
  cases code : cemi.messageCode
  case lDataReq => exact spends_handleLdataReq clientAddr cemi connection code
  case lDataInd =>
    have handles : Spends config channels (framesAt connection.channelId (responseFrames cemi))
        (handleLdataData clientAddr cemi connection) := spends_handleLdataData _ _ _
    apply (handles.beforeFree fun _ => Spends.pure ()).atSource cemi connection
    rw [servedFrames, code]
  case mPropReadReq =>
    apply Spends.onlyIf
    intro enabled
    apply (spends_handlePropReadReq clientAddr cemi connection).atSource cemi connection
    rw [servedFrames_property cemi (.inl code) enabled]
  case mPropWriteReq =>
    apply Spends.onlyIf
    intro enabled
    apply (spends_handlePropWriteReq clientAddr cemi connection).atSource cemi connection
    rw [servedFrames_property cemi (.inr code) enabled]
  case mResetReq =>
    apply Spends.onlyIf
    intro enabled
    apply Spends.atSource cemi connection (spends_sendTunnellingRequest clientAddr connection _)
    rw [servedFrames, code]
    exact (if_pos enabled).ge
  case lRawReq =>
    have confirms : Spends config channels (framesAt connection.channelId 1)
        (sendLdataCon clientAddr connection cemi true) := spends_sendTunnellingRequest _ _ _
    apply confirms.atSource cemi connection
    rw [servedFrames, code]
  all_goals exact (Spends.pure ()).weaken fun _ => zero_le _

theorem spends_processCemi (known : connection.channelId ∈ channels) : Spends config channels
      (fun other => if other ∈ channels then framesFor config cemi connection.channelId other
        else 0)
      (processCemi clientAddr cemi connection) := by
  have monitors : Spends config channels
      (fun other => if config.busMonitorEnabled then frameForAll channels other else 0)
      (onlyIf config.busMonitorEnabled (emitBusMonitorFrame cemi)) := by
    apply Spends.onlyIf
    intro enabled
    simp only [enabled, if_true]
    exact spends_emitBusMonitorFrame cemi
  apply ((spends_dispatchCemi clientAddr cemi connection).bind fun _ =>
    Spends.getConfig monitors).weaken
  intro other
  by_cases listed : other ∈ channels
  · simp only [dispatchFrames, frameForAll, framesFor, listed, if_true]
    split_ifs <;> omega
  · have differs : other ≠ connection.channelId := by
      intro same
      rw [same] at listed
      exact listed known
    simp only [dispatchFrames, frameForAll, listed, if_false, differs, ite_self]
    exact le_rfl

end

end

end Mabinogion.Knx
