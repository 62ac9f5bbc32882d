import Mabinogion.Knx.Server

/-!
# What sending leaves alone

A handler that only sends moves the filters, the counters, the record and the time. Group
objects, cached values and open channels stay. It ends with an error only where a datagram is
lost.
-/

namespace Mabinogion.Knx

open Checked KeyedTable TunnelConnection Triple World

section

variable (now : Nat) (envelope : FrameEnvelope) (message : String)

variable (filter : QueueFilter) (state : ChannelQueueState) (totalPending : Nat)

theorem QueueFilter.pushFrame_ne_error :
    (filter.pushFrame state envelope totalPending).1 ≠ .error message := by
  rw [pushFrame]
  split_ifs <;> exact nofun

theorem QueueFilter.enqueueFrame_ne_error :
    (filter.enqueueFrame state envelope totalPending).1 ≠ .error message := by
  simp only [enqueueFrame]
  split_ifs
  · split
    · exact pushFrame_ne_error _ _ _ _ _
    · exact nofun
  · exact nofun
  · exact pushFrame_ne_error _ _ _ _ _

theorem QueueFilter.processSend_ne_error : (filter.processSend envelope).1 ≠ .error message := by
  simp only [processSend]
  split_ifs
  · exact nofun
  · exact enqueueFrame_ne_error _ _ _ _ _
  · exact nofun
  · exact nofun

theorem PaceFilter.processSend_ne_error (filter : PaceFilter) :
    (filter.processSend now envelope).1 ≠ .error message := by
  simp only [processSend]
  split_ifs
  · exact nofun
  · split
    · exact nofun
    · split_ifs <;> exact nofun
    · split_ifs <;> exact nofun

theorem RetryFilter.processSend_ne_error (filter : RetryFilter) :
    (filter.processSend now envelope).1 ≠ .error message := by
  rw [processSend]
  split
  · exact nofun
  · split <;> exact nofun

theorem FilterChain.send_ne_error (chain : FilterChain) :
    (chain.send now envelope).1 ≠ .error message := by
  rw [send]
  split_ifs
  · exact nofun
  · have queue := QueueFilter.processSend_ne_error envelope message chain.queueFilter
    split
    · dsimp only
      rename_i passed _ _
      have pace := PaceFilter.processSend_ne_error now passed message chain.paceFilter
      split
      · rename_i paceDelay _ _
        have retry := RetryFilter.processSend_ne_error now
          { passed with accumulatedDelay := passed.accumulatedDelay + paceDelay } message
          chain.retryFilter
        split
        · exact nofun
        · rename_i refusal
          rw [refusal] at retry
          exact retry
      · rename_i refusal
        rw [refusal] at pace
        exact pace
    · rename_i refusal
      rw [refusal] at queue
      exact queue

end

def World.Delivers (world : World) : Prop := ∀ outcome ∈ world.outcomes, outcome.delivered = true

instance (world : World) : Decidable world.Delivers :=
  inferInstanceAs (Decidable (∀ outcome ∈ world.outcomes, outcome.delivered = true))

structure Onward (before after : World) : Prop where
  config : after.server.config = before.server.config
  cacheConfig : after.server.groupValueCache.config = before.server.groupValueCache.config
  keyed : Keyed channelId before.server.connections.connections →
    Keyed channelId after.server.connections.connections
  channels : Keyed channelId before.server.connections.connections →
    ∀ channelId, (after.server.connections.connections.lookup channelId).isSome =
      (before.server.connections.connections.lookup channelId).isSome
  clock : before.clock ≤ after.clock
  delivers : before.Delivers → after.Delivers

theorem Onward.trans {first second third : World} (head : Onward first second)
    (tail : Onward second third) : Onward first third where
  config := tail.config.trans head.config
  cacheConfig := tail.cacheConfig.trans head.cacheConfig
  keyed := fun keyed => tail.keyed (head.keyed keyed)
  channels := fun keyed channelId =>
    (tail.channels (head.keyed keyed) channelId).trans (head.channels keyed channelId)
  clock := head.clock.trans tail.clock
  delivers := fun delivers => tail.delivers (head.delivers delivers)

structure Aside (before after : World) : Prop extends Onward before after where
  objects : after.server.groupObjects = before.server.groupObjects
  cache : after.server.groupValueCache = before.server.groupValueCache

namespace Aside

theorem ofChain (world : World) (change : FilterChain → FilterChain) :
    Aside world (world.updateChain change) :=
  ⟨⟨rfl, rfl, fun keyed => keyed, fun _ _ => rfl, le_rfl, fun delivers => delivers⟩, rfl, rfl⟩

theorem refl (world : World) : Aside world world := ofChain world fun chain => chain

theorem ofServer {before after : World} (server : after.server = before.server)
    (clock : after.clock = before.clock) (outcomes : after.outcomes = before.outcomes) :
    Aside before after where
  config := by rw [server]
  cacheConfig := by rw [server]
  keyed := by
    rw [server]
    exact fun keyed => keyed
  channels := by
    rw [server]
    exact fun _ _ => rfl
  clock := clock.ge
  delivers := by
    rw [Delivers, Delivers, outcomes]
    exact fun delivers => delivers
  objects := by rw [server]
  cache := by rw [server]

theorem trans {first second third : World} (head : Aside first second)
    (tail : Aside second third) : Aside first third :=
  ⟨head.toOnward.trans tail.toOnward, tail.objects.trans head.objects, tail.cache.trans head.cache⟩

theorem ofSendTo (world : World) : Aside world world.sendTo.2 := by
  rw [sendTo]
  split
  · exact refl world
  · rename_i outcome outcomes listed
    have later : world.Delivers → ∀ other ∈ outcomes, other.delivered = true := by
      intro delivers other left
      apply delivers
      rw [listed]
      exact List.mem_cons_of_mem _ left
    exact ⟨⟨rfl, rfl, fun keyed => keyed, fun _ _ => rfl, Nat.le_add_right _ _, later⟩, rfl, rfl⟩

theorem ofReplace (world : World) {connection current : TunnelConnection}
    (found : world.server.connections.connections.lookup connection.channelId = some current) :
    Aside world (world.updateServer fun server =>
      { server with connections := { server.connections with
          connections := server.connections.connections.insert connection.channelId
            connection } }) := by
  have keyed (before : Keyed channelId world.server.connections.connections) : Keyed channelId
        (world.server.connections.connections.insert connection.channelId connection) :=
    before.insert rfl
  have channels (channelId : UInt8) :
      ((world.server.connections.connections.insert connection.channelId connection).lookup
        channelId).isSome = (world.server.connections.connections.lookup channelId).isSome := by
    rw [lookup_insert_eq]
    split_ifs with same
    · rw [same, found]
      rfl
    · rfl
  exact ⟨⟨rfl, rfl, keyed, fun _ => channels, le_rfl, fun delivers => delivers⟩, rfl, rfl⟩

end Aside

open Aside

theorem World.sendTo_delivered {world : World} (delivers : world.Delivers) :
    world.sendTo.1 = true := by
  rw [sendTo]
  split
  · rfl
  · rename_i outcome outcomes listed
    apply delivers
    rw [listed]
    exact List.mem_cons_self

/-- The handler does nothing to the group values, and fails only where a datagram is lost. -/
def Idle {Value : Type} (handler : Handler Value) : Prop :=
  ∀ before, Triple (Aside before) handler (fun _ => Aside before)
    (fun after => Aside before after ∧ ¬before.Delivers)

namespace Idle

variable {Value Result : Type}

theorem pure (value : Value) : Idle (Pure.pure value : Handler Value) := by
  intro before
  exact Triple.pure fun _ aside => aside

theorem gets (view : World → Value) : Idle (gets view : Handler Value) := by
  intro before
  exact Triple.gets fun _ aside => aside

theorem modifyGet {change : World → Value × World}
    (changes : ∀ world, Aside world (change world).2) :
    Idle (Checked.modifyGet change : Handler Value) := by
  intro before
  apply Triple.modifyGet
  intro world aside
  exact aside.trans (changes world)

theorem modify {change : World → World} (changes : ∀ world, Aside world (change world)) :
    Idle (Checked.modify change : Handler Unit) := by
  intro before
  apply Triple.modify
  intro world aside
  exact aside.trans (changes world)

theorem bind {first : Handler Value} {next : Value → Handler Result} (head : Idle first)
    (tail : ∀ value, Idle (next value)) : Idle (first >>= next) := by
  intro before
  apply Triple.bind (head before)
  intro value
  exact tail value before

theorem onlyIf {handler : Handler Unit} (condition : Bool) (idle : Idle handler) :
    Idle (onlyIf condition handler) := by
  cases condition with
  | true => exact idle
  | false => exact pure ()

theorem attempts {handler : Handler Value} (idle : Idle handler) (before : World)
    {Failed : World → Prop} :
    Triple (Aside before) (attempt handler : Handler (Except ServerError Value))
      (fun sent after => Aside before after ∧ ∀ error, sent = .error error → ¬before.Delivers)
      Failed := by
  apply (idle before).attempt
  · intro value world aside
    exact ⟨aside, nofun⟩
  · intro error world lost
    exact ⟨lost.1, fun _ _ => lost.2⟩

theorem attempt {handler : Handler Value} (idle : Idle handler) :
    Idle (attempt handler : Handler (Except ServerError Value)) := by
  intro before
  apply (idle.attempts before).weaken
  · intro world aside
    exact aside
  · intro sent world both
    exact both.1
  · intro world failed
    exact failed

theorem visitAll {Item : Type} {visit : Item → Handler Value} (visits : ∀ item, Idle (visit item))
    (items : List Item) : Idle (visitAll visit items) := by
  intro before
  have related (item : Item) : Triple (Aside before) (visit item)
      (fun _ after => Aside before after ∧ True)
      (fun after => Aside before after ∧ ¬before.Delivers) :=
    (visits item before).weaken (fun _ aside => aside) (fun _ _ aside => ⟨aside, trivial⟩)
      (fun _ failed => failed)
  exact (Triple.visitAll items fun item _ => related item).weaken (fun _ aside => aside)
    (fun _ _ both => both.1)
    (fun _ failed => failed)

theorem deliver {send : World → Bool × World} (sends : ∀ world, Aside world (send world).2)
    (delivered : ∀ world, world.Delivers → (send world).1 = true) :
    Idle (do
      let delivered ← Checked.modifyGet send
      if delivered then Pure.pure () else Checked.fail .io : Handler Unit) := by
  intro before
  apply @Triple.bind _ _ _ _ _ _ fun delivered after =>
    Aside before after ∧ (before.Delivers → delivered = true)
  · apply Triple.modifyGet
    intro world aside
    exact ⟨aside.trans (sends world), fun all => delivered world (aside.delivers all)⟩
  · intro arrived
    apply Triple.ite
    · intro _
      exact Triple.pure fun _ both => both.1
    · intro lost
      exact Triple.fail fun _ both => ⟨both.1, fun all => lost (both.2 all)⟩

end Idle

section

variable (clientAddr : SocketAddr) (connection : TunnelConnection) (cemi : CemiFrame)

theorem idle_sleep (duration : Nat) : Idle (sleep duration) := by
  apply Idle.modify
  intro world
  exact ⟨⟨rfl, rfl, fun keyed => keyed, fun _ _ => rfl, Nat.le_add_right _ _,
    fun delivers => delivers⟩, rfl, rfl⟩

theorem idle_sendDatagram : Idle sendDatagram :=
  Idle.deliver ofSendTo fun _ => World.sendTo_delivered

theorem idle_transmit (request : TunnellingRequest) (target : SocketAddr) :
    Idle (transmit request target) :=
  Idle.deliver (fun world => (ofSendTo world).trans (ofServer rfl rfl rfl))
    fun _ => World.sendTo_delivered

theorem idle_updateChain (change : World → FilterChain → FilterChain) :
    Idle (modify fun world => world.updateChain (change world) : Handler Unit) :=
  Idle.modify fun world => ofChain world (change world)

theorem idle_onSendSuccess (channelId : UInt8) : Idle (onSendSuccess channelId) :=
  idle_updateChain _

theorem idle_onSendFailure : Idle onSendFailure := idle_updateChain _

/-- The counter is moved in the connection that stands under the channel; the table is keyed, so
this is not another channel. -/
theorem idle_nextSendSequence : Idle (nextSendSequence connection) := by
  apply Idle.modifyGet
  intro world
  cases found : world.server.connections.connections.lookup connection.channelId with
  | none => exact refl world
  | some current =>
    have moved (keyed : Keyed channelId world.server.connections.connections) :
        Aside world (world.updateServer fun server =>
          { server with connections := { server.connections with
              connections := server.connections.connections.insert current.channelId
                { current with sequence := current.sequence.nextSno.2 } } }) := by
      have own := keyed _ _ found
      rw [← own] at found
      exact @ofReplace world { current with sequence := current.sequence.nextSno.2 } current found
    exact ⟨⟨rfl, rfl, fun keyed => (moved keyed).keyed keyed,
      fun keyed => (moved keyed).channels keyed, le_rfl, fun delivers => delivers⟩, rfl, rfl⟩

theorem idle_sendTunnellingRequestRaw :
    Idle (sendTunnellingRequestRaw clientAddr connection cemi) := by
  apply (idle_nextSendSequence connection).bind
  intro sequenceCounter
  apply (idle_updateChain _).bind
  intro _
  exact idle_transmit _ clientAddr

theorem idle_waitFor (delay : Nat) : Idle (waitFor delay) := by
  apply Idle.onlyIf
  apply (idle_updateChain _).bind
  intro _
  exact idle_sleep delay

theorem idle_sendPassed (delay : Nat) : Idle (sendPassed clientAddr connection cemi delay) := by
  apply (idle_waitFor delay).bind
  intro _ before
  apply bind ((idle_sendTunnellingRequestRaw clientAddr connection cemi).attempts before)
  intro sent
  cases sent with
  | ok =>
    apply (idle_onSendSuccess connection.channelId before).ofPre
    intro world both
    exact both.1
  | error error =>
    intro world both
    have lost := both.2 error rfl
    apply bind (idle_onSendFailure before) _ world both.1
    intro _
    exact fail fun _ aside => ⟨aside, lost⟩

theorem idle_sendTunnellingRequest : Idle (sendTunnellingRequest clientAddr connection cemi) := by
  apply (Idle.gets _).bind
  intro enabled before
  apply Triple.ite
  · intro _
    apply @Triple.bind _ _ _ _ _ _ fun result after =>
      Aside before after ∧ ∀ message, result ≠ .error message
    · apply Triple.modifyGet
      intro world aside
      constructor
      · exact aside.trans (ofChain world fun _ => (world.server.filterChain.send world.clock
          (.new cemi connection.channelId clientAddr)).2.2)
      · intro message
        exact FilterChain.send_ne_error _ _ _ _
    · intro result
      cases result with
      | pass delay =>
        apply (idle_sendPassed clientAddr connection cemi delay before).ofPre
        intro world both
        exact both.1
      | queued | dropped => exact Triple.pure fun _ both => both.1
      | error message => exact Triple.fail fun _ both => absurd rfl (both.2 message)
  · intro _
    exact idle_sendTunnellingRequestRaw clientAddr connection cemi before

theorem idle_paceDrained (envelope : FrameEnvelope) : Idle (paceDrained envelope) := by
  apply Idle.bind (Idle.modifyGet fun world => ofChain world fun chain =>
    { chain with paceFilter :=
        (world.server.filterChain.paceFilter.processSend world.clock envelope).2 })
  intro paced
  cases paced with
  | pass delay => exact idle_sleep delay
  | _ => exact Idle.pure ()

theorem idle_sendDrained (envelopes : List FrameEnvelope) :
    Idle (sendDrained connection envelopes) := by
  induction envelopes with
  | nil => exact Idle.pure ()
  | cons envelope envelopes ih =>
    apply (idle_paceDrained envelope).bind
    intro _
    apply (idle_sendTunnellingRequestRaw envelope.targetAddr connection envelope.cemi).attempt.bind
    intro sent
    cases sent with
    | ok =>
      apply (idle_onSendSuccess connection.channelId).bind
      intro _
      exact ih
    | error => exact idle_onSendFailure

theorem idle_drainQueuedFrames : Idle (drainQueuedFrames connection) := by
  apply Idle.bind (Idle.modifyGet fun world => ofChain world fun _ =>
    (world.server.filterChain.drainPending connection.channelId 16).2)
  intro envelopes
  exact idle_sendDrained connection envelopes

theorem idle_handleTunnellingAck (ack : TunnellingAck) : Idle (handleTunnellingAck ack) := by
  have noted : Idle (modify fun world => world.record (.acknowledged ack.channelId) :
      Handler Unit) :=
    Idle.modify fun _ => ofServer rfl rfl rfl
  apply noted.bind
  intro _
  apply (Idle.gets _).bind
  intro found
  cases found with
  | none => exact Idle.pure ()
  | some connection =>
    apply (Idle.gets _).bind
    intro enabled
    apply Idle.onlyIf
    split_ifs
    · apply (idle_onSendSuccess connection.channelId).bind
      intro _
      exact idle_drainQueuedFrames connection
    · exact idle_onSendFailure

end

section

variable (clientAddr : SocketAddr) (cemi : CemiFrame) (connection : TunnelConnection)

theorem idle_computeConfirmationSuccess (busSuccess : Bool) :
    Idle (computeConfirmationSuccess busSuccess) := by
  apply Idle.modifyGet
  intro world
  cases world.server.config.confirmationSuccessRate with
  | sometimes => cases busSuccess <;> exact ofServer rfl rfl rfl
  | _ => exact refl world

theorem idle_confirmLdata (busSuccess : Bool) :
    Idle (confirmLdata clientAddr cemi connection busSuccess) := by
  apply (idle_computeConfirmationSuccess busSuccess).bind
  intro success
  apply (Idle.gets _).bind
  intro delay
  apply (idle_sleep delay).bind
  intro _
  exact idle_sendTunnellingRequest clientAddr connection _

theorem idle_handlePropReadReq : Idle (handlePropReadReq clientAddr cemi connection) := by
  rw [handlePropReadReq]
  split
  · exact Idle.pure ()
  · apply (Idle.gets _).bind
    intro config
    exact idle_sendTunnellingRequest clientAddr connection _

theorem idle_handlePropWriteReq : Idle (handlePropWriteReq clientAddr cemi connection) := by
  rw [handlePropWriteReq]
  split
  · exact Idle.pure ()
  · exact idle_sendTunnellingRequest clientAddr connection _

theorem idle_emitBusMonitorFrame : Idle (emitBusMonitorFrame cemi) := by
  apply (Idle.gets _).bind
  intro connections
  apply Idle.bind
  · apply Idle.visitAll
    intro other
    exact (idle_sendTunnellingRequest _ other _).attempt
  · intro _
    exact Idle.pure ()

/-- Not for the source, and for another connection surely where no datagram is lost. -/
structure Reaches (source : TunnelConnection) (delivers : Prop) (connection : TunnelConnection)
    (reached : Bool) : Prop where
  other : reached = true → connection.channelId ≠ source.channelId
  sure : delivers → connection.channelId ≠ source.channelId → reached = true

theorem aside_broadcastTo (source : TunnelConnection) (before : World) {Failed : World → Prop} :
    Triple (Aside before) (broadcastTo cemi source connection)
      (fun reached after => Aside before after ∧ Reaches source before.Delivers connection reached)
      Failed := by
  apply Triple.ite
  · intro same
    exact Triple.pure fun _ aside => ⟨aside, nofun, fun _ other => absurd same other⟩
  · intro other
    apply Triple.bind ((idle_sendTunnellingRequest _ connection _).attempts before)
    intro sent
    cases sent with
    | ok => exact Triple.pure fun _ both => ⟨both.1, fun _ => other, fun _ _ => rfl⟩
    | error error =>
      exact Triple.pure fun _ both =>
        ⟨both.1, nofun, fun delivers => absurd delivers (both.2 error rfl)⟩

theorem Reaches.count_pos {source : TunnelConnection} {delivers : Prop}
    {connections : List TunnelConnection} {reached : List Bool}
    (all : List.Forall₂ (Reaches source delivers) connections reached) :
    (reached.count true > 0 → ∃ connection ∈ connections, connection.channelId ≠ source.channelId) ∧
      (delivers → (∃ connection ∈ connections, connection.channelId ≠ source.channelId) →
        reached.count true > 0) := by
  rw [gt_iff_lt, List.count_pos_iff]
  induction all with
  | nil =>
    constructor
    · intro listed
      cases listed
    · intro _ found
      rcases found with ⟨connection, listed, _⟩
      cases listed
  | @cons connection value connections reached reaches all ih =>
    simp only [List.mem_cons, exists_eq_or_imp]
    constructor
    · intro counted
      rcases counted with first | later
      · exact Or.inl (reaches.other first.symm)
      · exact Or.inr (ih.1 later)
    · intro delivers found
      rcases found with first | later
      · exact Or.inl (reaches.sure delivers first).symm
      · exact Or.inr (ih.2 delivers later)

end

end Mabinogion.Knx
