import Mabinogion.Knx.ChannelAllocation
import Mabinogion.Knx.FrameBudget

/-!
# Backpressure of the server

In a run of the server no request overruns an unacknowledged one if each packet leaves at
most one frame for a channel, and none where one is unacknowledged and the channel not held.
-/

namespace Mabinogion.Knx

open Checked KeyedTable Transducer FilterChain

variable {config : ServerConfig} {channels : Finset UInt8} {budget : UInt8 → Nat} {world : World}

variable {connection : TunnelConnection}

theorem spends_setSequence (sequence : SequenceTracker) (known : connection.channelId ∈ channels) :
    Spends config channels noFrames (setSequence connection sequence) := by
  intro budget
  apply Triple.modify
  intro world budgeted
  have spared : Budgeted config channels budget world :=
    budgeted.mono fun channelId => Nat.le_add_left _ _
  exact spared.replace known rfl

theorem Budgeted.unspent {before after : World}
    (budgeted : Budgeted config channels noFrames before)
    (sameConfig : after.server.config = before.server.config)
    (controls : after.server.filterChain.Controls)
    (keyed : Keyed TunnelConnection.channelId after.server.connections.connections)
    (known : ∀ channelId, (after.server.connections.connections.lookup channelId).isSome →
      channelId ∈ channels)
    (clean : NoOverrun after.history) : Budgeted config channels noFrames after :=
  ⟨sameConfig.trans budgeted.config, controls, keyed, known, clean, fun _ => Or.inl rfl⟩

theorem budgeted_closeChannel (channelId : UInt8) :
    Keeps (Budgeted config channels noFrames) (closeChannel channelId) := by
  apply Triple.modify
  intro world budgeted
  have chain : AgreesOff channelId world.server.filterChain
      { world.server.filterChain with
        queueFilter := world.server.filterChain.queueFilter.clearChannel channelId } :=
    agreesOff_clearChannel channelId
  refine budgeted.unspent rfl ?_ ?_ ?_ budgeted.clean
  · show Controls (if world.server.filterChain.enabled then _ else _)
    rw [if_pos budgeted.controls.enabled]
    exact chain.controls budgeted.controls
  · exact budgeted.keyed.erase channelId
  · intro other found
    have lookup := lookup_erase_eq channelId other world.server.connections.connections
    by_cases same : other = channelId
    · rw [if_pos same] at lookup
      have gone : (world.server.connections.connections.erase channelId).lookup other |>.isSome :=
        found
      rw [lookup] at gone
      cases gone
    · rw [if_neg same] at lookup
      apply budgeted.known other
      rw [← lookup]
      exact found

theorem ready_paceDrained {channelId : UInt8} (envelope : FrameEnvelope) :
    Keeps (Ready config channels channelId budget) (paceDrained envelope) := by
  apply @Triple.bind _ _ _ _ _ _ (fun _ => Ready config channels channelId budget)
  · apply Triple.modifyGet
    intro world ready
    have kept : Ready config channels channelId budget (world.updateChain fun chain =>
        { chain with paceFilter :=
          (world.server.filterChain.paceFilter.processSend world.clock envelope).2 }) := by
      apply ready.keepChain
      exact untouched_paceFilter _ _
    exact kept
  · intro paced
    cases paced with
    | pass delay => exact ready_sleep delay
    | _ => exact Triple.pure fun _ ready => ready

theorem ready_sendDrained {envelopes : List FrameEnvelope} (single : envelopes.length ≤ 1) :
    Leads (Ready config channels connection.channelId noFrames) (sendDrained connection envelopes)
      (Budgeted config channels noFrames) := by
  cases envelopes with
  | nil => exact Triple.pure fun _ ready => ready.budgeted
  | cons envelope envelopes =>
    have last : envelopes = [] := by
      rw [List.length_cons] at single
      exact List.length_eq_zero_iff.mp (by omega)
    rw [last, sendDrained]
    apply Triple.bind ((ready_paceDrained envelope).weaken (fun _ holds => holds)
      (fun _ _ holds => holds) (fun _ holds => holds.budgeted))
    intro _
    apply @Triple.bind _ _ _ _ _ _ (fun _ => Budgeted config channels noFrames)
    · apply (ready_sendTunnellingRequestRaw envelope.targetAddr rfl envelope.cemi).attempt
      · intro value world budgeted
        exact budgeted
      · intro error world budgeted
        exact budgeted
    · intro sent
      cases sent with
      | error => exact budgeted_onSendFailure
      | ok =>
        apply Triple.bind (budgeted_onSendSuccess rfl)
        intro _
        exact Triple.pure fun _ budgeted => budgeted

def World.queued (world : World) (channelId : UInt8) : Nat :=
  (world.server.filterChain.queueFilter.channel channelId).totalQueued

theorem ready_drainQueuedFrames (connection : TunnelConnection) :
    Leads (fun world => Ready config channels connection.channelId noFrames world ∧
        world.queued connection.channelId ≤ 1)
      (drainQueuedFrames connection) (Budgeted config channels noFrames) := by
  apply @Triple.bind _ _ _ _ _ _ fun envelopes world =>
    Ready config channels connection.channelId noFrames world ∧ envelopes.length ≤ 1
  · apply Triple.modifyGet
    intro world both
    constructor
    · have kept : Ready config channels connection.channelId noFrames (world.updateChain fun _ =>
          (world.server.filterChain.drainPending connection.channelId 16).2) := by
        apply both.1.keepChain
        exact untouched_drainPending _ _ _
      exact kept
    · exact (length_drainPending_le _ _ _).trans both.2
  · intro envelopes world both
    exact ready_sendDrained both.2 world both.1

theorem Budgeted.acknowledged (budgeted : Budgeted config channels noFrames world)
    (channelId : UInt8) :
    Ready config channels channelId noFrames (world.record (.acknowledged channelId)) := by
  constructor
  · exact budgeted.unspent rfl budgeted.controls budgeted.keyed budgeted.known budgeted.clean
  · rfl
  · rw [World.record, unacknowledged, bne_self_eq_false, Bool.false_and]

theorem budgeted_handleTunnellingAck (ack : TunnellingAck) :
    Leads (fun world => Budgeted config channels noFrames world ∧
        (ack.status = 0 → world.queued ack.channelId ≤ 1))
      (handleTunnellingAck ack) (Budgeted config channels noFrames) := by
  apply @Triple.bind _ _ _ _ _ _ fun _ world =>
    Ready config channels ack.channelId noFrames world ∧
      (ack.status = 0 → world.queued ack.channelId ≤ 1)
  · apply Triple.modify
    intro world both
    exact ⟨both.1.acknowledged ack.channelId, both.2⟩
  · intro _ world both
    have found : findConnection ack.channelId world =
        .ok (world.server.connections.connections.lookup ack.channelId) world := rfl
    rw [bind_ok found]
    cases lookup : world.server.connections.connections.lookup ack.channelId with
    | none => exact both.1.budgeted
    | some connection =>
      have own := both.1.budgeted.keyed _ _ lookup
      have read : (gets fun world : World => world.server.filterChain.enabled : Handler Bool)
          world = .ok true world := by
        rw [gets_apply, both.1.budgeted.controls.enabled]
      dsimp only
      rw [bind_ok read, onlyIf, if_pos rfl]
      split_ifs with success
      · have cleared : onSendSuccess connection.channelId world = .ok () (world.updateChain
            fun chain => chain.onSendSuccess world.clock connection.channelId) := rfl
        rw [bind_ok cleared]
        apply ready_drainQueuedFrames connection
        rw [own]
        constructor
        · constructor
          · apply both.1.budgeted.touchChain both.1.spent
            exact both.1.budgeted.controls.agreesOff_onSendSuccess world.clock ack.channelId
          · exact both.1.spent
          · exact both.1.free
        · have queues := @totalQueued_onSendSuccess world.server.filterChain
            world.clock ack.channelId ack.channelId
          exact queues.le.trans (both.2 success)
      · exact budgeted_onSendFailure world both.1.budgeted

theorem budgeted_handleTunnelling {request : TunnellingRequest} (addr : SocketAddr)
    (budgeted : Budgeted config channels noFrames world)
    (room : world.Processes request → ∀ other ∈ channels,
      world.Room other (framesFor config request.cemi request.channelId other)) :
    (handleTunnelling request addr world).Ends (fun _ => Budgeted config channels noFrames)
      (Budgeted config channels noFrames) := by
  have found : findConnection request.channelId world =
      .ok (world.server.connections.connections.lookup request.channelId) world := rfl
  rw [handleTunnelling, bind_ok found]
  cases lookup : world.server.connections.connections.lookup request.channelId with
  | none => exact spends_sendDatagram noFrames world budgeted
  | some connection =>
    have own := budgeted.keyed _ _ lookup
    have known : connection.channelId ∈ channels := by
      rw [own]
      exact budgeted.known _ (by rw [lookup]; rfl)
    let answered := handleTunnellingRequest (some connection.sequence) request.sequenceCounter
    let cost : UInt8 → Nat := fun other =>
      if answered.1.processes = true ∧ other ∈ channels then
        framesFor config request.cemi connection.channelId other
      else 0
    have processes : Spends config channels cost (onlyIf answered.1.processes
        (processCemi addr request.cemi connection)) := by
      apply Spends.onlyIf
      intro processed
      simp only [cost, processed, true_and]
      exact spends_processCemi addr request.cemi connection known
    have start : Budgeted config channels cost world := by
      refine { budgeted with room := ?_ }
      intro other
      by_cases served : answered.1.processes = true ∧ other ∈ channels
      · simp only [cost, served, true_and, if_true, own]
        exact room ⟨connection, lookup, served.1⟩ other served.2
      · simp only [cost, served, if_false]
        exact Or.inl rfl
    have acks : Spends config channels noFrames (onlyIf answered.1.ack.isSome sendDatagram) :=
      Spends.onlyIf fun _ => spends_sendDatagram
    have closes : Keeps (Budgeted config channels noFrames)
        (onlyIf answered.2.isNone (closeChannel request.channelId)) := by
      apply Triple.ite
      · intro _
        exact budgeted_closeChannel request.channelId
      · intro _
        exact Triple.pure fun _ budgeted => budgeted
    exact Triple.bind (spends_setSequence _ known).none (fun _ => Triple.bind acks.none
      (fun _ => Triple.bind processes.all (fun _ => closes))) world start

theorem Budgeted.grow (budgeted : Budgeted config channels budget world) {more : Finset UInt8}
    (subset : channels ⊆ more) : Budgeted config more budget world :=
  { budgeted with known := fun channelId found => subset (budgeted.known channelId found) }

namespace World

/-- What holds in all states of a run of harmless packets. -/
def Unhurried (config : ServerConfig) (world : World) : Prop :=
  ∃ channels, Budgeted config channels noFrames world

/-- A request that is processed has room for its frames, and an accepted acknowledgement finds at
most one frame queued. -/
def Harmless (world : World) : ServerInput → Prop
  | .packet _ (.tunnellingRequest request) _ _ _ =>
    world.Processes request → ∀ connection ∈ values world.server.connections.connections,
        world.Room connection.channelId
          (framesFor world.server.config request.cemi request.channelId connection.channelId)
  | .packet _ (.tunnellingAck ack) _ _ _ => ack.status = 0 → world.queued ack.channelId ≤ 1
  | _ => True

instance decidableHarmless (world : World) (input : ServerInput) :
    Decidable (world.Harmless input) := by
  unfold Harmless
  split <;> infer_instance

theorem Unhurried.ofSpends {Value : Type} {handler : Handler Value}
    (spends : ∀ channels, Spends config channels noFrames handler) :
    Keeps (Unhurried config) handler := by
  intro world unhurried
  rcases unhurried with ⟨channels, budgeted⟩
  exact (spends channels).all.weaken (fun _ holds => holds) (fun _ _ holds => ⟨channels, holds⟩)
    (fun _ holds => ⟨channels, holds⟩) world budgeted

theorem unhurried_handleConnectRequest (request : ConnectRequest) (addr : SocketAddr) :
    Keeps (Unhurried config) (handleConnectRequest request addr) := by
  apply @Triple.bind _ _ _ _ _ _ (fun _ => Unhurried config)
  · apply Triple.modifyGet
    intro world unhurried
    rcases unhurried with ⟨channels, budgeted⟩
    have same := @ConnectionManager.connections_allocateChannel world.server.connections
    refine ⟨channels, budgeted.withConnections rfl (.refl _) rfl ?_ ?_⟩
    · show Keyed TunnelConnection.channelId world.server.connections.allocateChannel.2.connections
      rw [same]
      exact budgeted.keyed
    · show ∀ channelId, (world.server.connections.allocateChannel.2.connections.lookup
        channelId).isSome → channelId ∈ channels
      rw [same]
      exact budgeted.known
  · intro channelId
    cases channelId with
    | none => exact Unhurried.ofSpends fun _ => spends_sendDatagram
    | some channelId =>
      apply @Triple.bind _ _ _ _ _ _ (fun _ => Unhurried config)
      · apply Triple.modify
        intro world unhurried
        rcases unhurried with ⟨channels, budgeted⟩
        have present : channelId ∈ insert channelId channels := Finset.mem_insert_self _ _
        have grown := budgeted.grow (Finset.subset_insert channelId channels)
        exact ⟨insert channelId channels, grown.replace present rfl⟩
      · intro _
        exact Unhurried.ofSpends fun _ => spends_sendDatagram

theorem unhurried_of_ends {Value : Type} {outcome : Outcome World ServerError Value}
    {channels : Finset UInt8} {before : World}
    (ends : outcome.Ends (fun _ => Budgeted config channels noFrames)
      (Budgeted config channels noFrames)) : Unhurried config (outcome.final before) :=
  ⟨channels, ends.final before⟩

theorem Unhurried.packet (unhurried : world.Unhurried config) (wait : Nat) (packet : Packet)
    (addr : SocketAddr) (outcomes : List SendOutcome) (draws : List Bool)
    (harmless : world.Harmless (.packet wait packet addr outcomes draws)) :
    Unhurried config (world.step (.packet wait packet addr outcomes draws)).2 := by
  rcases unhurried with ⟨channels, budgeted⟩
  let arrived := { world with clock := world.clock + wait, outcomes, draws }
  have start : Budgeted config channels noFrames arrived :=
    budgeted.congr rfl (.refl _) rfl rfl
  cases packet with
  | connectRequest request =>
    exact (unhurried_handleConnectRequest request addr arrived ⟨channels, start⟩).final arrived
  | disconnectRequest request =>
    exact unhurried_of_ends (Triple.bind (budgeted_closeChannel request.channelId)
      (fun _ => spends_sendDatagram.all) arrived start)
  | tunnellingAck ack =>
    exact unhurried_of_ends (budgeted_handleTunnellingAck ack arrived ⟨start, harmless⟩)
  | tunnellingRequest request =>
    let keys := world.server.connections.connections.keys.toFinset
    have known : Budgeted config keys noFrames arrived :=
      { start with known := fun channelId found => (mem_keys_iff channelId _).mpr found }
    apply unhurried_of_ends (budgeted_handleTunnelling addr known _)
    intro processes other listed
    rcases Option.isSome_iff_exists.mp ((mem_keys_iff other _).mp listed) with
      ⟨connection, found⟩
    have own := budgeted.keyed other connection found
    have room := harmless processes connection ((mem_values_iff connection).mpr ⟨other, found⟩)
    rw [own, budgeted.config] at room
    exact room
  | searchRequest | descriptionRequest | connectionStateRequest | unhandled =>
    exact ⟨channels, start⟩

theorem Unhurried.step (unhurried : world.Unhurried config) (input : ServerInput)
    (harmless : world.Harmless input) : Unhurried config (world.step input).2 := by
  cases input with
  | packet wait packet addr outcomes draws =>
    exact unhurried.packet wait packet addr outcomes draws harmless
  | cacheGet =>
    rcases unhurried with ⟨channels, budgeted⟩
    exact ⟨channels, budgeted.congr rfl (.refl _) rfl rfl⟩

/-- In every run of harmless packets no tunnelling request is sent on a channel with an
unacknowledged one, and frames for a held channel are queued while there is room. -/
theorem one_request_in_flight (config : ServerConfig) (groupObjects : GroupObjectTable)
    (chain : config.flowControl.enabled = true)
    (queue : config.flowControl.queue.enabled = true)
    (backpressure : config.flowControl.queue.backpressureEnabled = true)
    (inputs : List ServerInput)
    (harmless : ∀ arrival ∈ Transducer.arrivals step (start (.new config groupObjects)) inputs,
      arrival.1.Harmless arrival.2) :
    ∀ visited ∈ Transducer.states step (start (.new config groupObjects)) inputs,
      NoOverrun visited.history ∧ ∀ now envelope, visited.holds envelope.channelId = true →
        QueueFilter.HeldBack (visited.server.filterChain.send now envelope).1
          (visited.server.filterChain.queueFilter.Full envelope) := by
  have initial : Unhurried config (start (.new config groupObjects)) := by
    refine ⟨∅, rfl, ⟨chain, queue, backpressure⟩, Keyed.empty, ?_, trivial, fun _ => Or.inl rfl⟩
    intro channelId found
    cases found
  have preserved (world : World) (input : ServerInput) (unhurried : world.Unhurried config)
      (harmless : world.Harmless input) : Unhurried config (world.step input).2 :=
    unhurried.step input harmless
  have visits := states_invariant_of_harmless step preserved _ inputs initial harmless
  intro visited listed
  rcases visits visited listed with ⟨channels, budgeted⟩
  exact ⟨budgeted.clean, fun now _ held => budgeted.controls.send_held now held⟩

def flowControlled : ServerConfig :=
  { ServerConfig.default with flowControl := { FilterChainConfig.default with enabled := true } }

def clientConnects : ServerInput :=
  .packet 0 (.connectRequest ⟨⟨.udp4, ⟨10, 0, 0, 2⟩, 3671⟩, ⟨.udp4, ⟨10, 0, 0, 2⟩, 3671⟩,
    ⟨.tunnel, .linkLayer⟩⟩) ⟨⟨10, 0, 0, 2⟩, 3671⟩ [] []

def clientWrites (sequenceCounter : UInt8) : ServerInput :=
  let cemi := { CemiFrame.groupValueResponse (.decode 0x1165) ⟨0x0A03⟩ [1] with
    messageCode := .lDataReq, apci := .groupValueWrite }
  .packet 1000000 (.tunnellingRequest ⟨1, sequenceCounter, cemi⟩) ⟨⟨10, 0, 0, 2⟩, 3671⟩ [] []

def clientAcknowledges (sequenceCounter : UInt8) : ServerInput :=
  .packet 1000000 (.tunnellingAck ⟨1, sequenceCounter, 0⟩) ⟨⟨10, 0, 0, 2⟩, 3671⟩ [] []

theorem acknowledged_confirmations_in_turn :
    let inputs := [clientConnects, clientWrites 0, clientAcknowledges 0, clientWrites 1]
    let first := start (.new flowControlled ∅)
    (final step first inputs).history.length = 3 ∧
      (∀ arrival ∈ arrivals step first inputs, arrival.1.Harmless arrival.2) ∧
      ∀ visited ∈ states step first inputs, NoOverrun visited.history ∧
        ∀ now envelope, visited.holds envelope.channelId = true →
          QueueFilter.HeldBack (visited.server.filterChain.send now envelope).1
            (visited.server.filterChain.queueFilter.Full envelope) := by
  have harmless : ∀ arrival ∈ arrivals step (start (.new flowControlled ∅))
      [clientConnects, clientWrites 0, clientAcknowledges 0, clientWrites 1],
      arrival.1.Harmless arrival.2 := by
    decide +kernel
  exact ⟨by decide +kernel, harmless, one_request_in_flight flowControlled ∅ rfl rfl rfl _ harmless⟩

/-- A send that succeeds already clears the flag. -/
theorem confirmation_overruns : let inputs := [clientConnects, clientWrites 0, clientWrites 1]
    ¬NoOverrun (final step (start (.new flowControlled ∅)) inputs).history := by
  decide +kernel

end World

end Mabinogion.Knx
