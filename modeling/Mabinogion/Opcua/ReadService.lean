import Mabinogion.Library.KeyedTable
import Mabinogion.Library.Triple
import Mabinogion.Opcua.Nodes

/-!
# The Read service

`handle_read_request` returns exactly when no node of an overriding class is asked for an
attribute that its override does not answer, with one value for every attribute, in order.
-/

namespace Mabinogion.Opcua

open Checked KeyedTable

inductive ManagedOperation (Value : Type) where
  | handled (value : Value)
  | notHandled

/-- The managers that the server itself registers handle no read. -/
structure NodeManager where
  readAttribute : NodeId → AttributeId → ManagedOperation DataValue

structure AddressSpace where
  managers : UInt16 → Option NodeManager
  nodes : Table NodeId Node
  readCounter : Nat

structure ReadTarget where
  nodeId : NodeId
  attributeId : AttributeId

structure ReadRequest where
  requestHandle : UInt32
  nodesToRead : List ReadTarget

structure ReadResponse where
  requestHandle : UInt32
  results : List DataValue

namespace AddressSpace

variable {Error : Type}

def managerForNamespace (space : AddressSpace) (namespaceIndex : UInt16) : Option NodeManager :=
  space.managers namespaceIndex

/-- What the manager of the node's namespace answers, if it handles the read. -/
def managed (space : AddressSpace) (nodeId : NodeId) (attributeId : AttributeId) :
    Option DataValue :=
  match space.managerForNamespace nodeId.namespaceIndex with
  | some manager =>
    match manager.readAttribute nodeId attributeId with
    | .handled value => some value
    | .notHandled => none
  | none => none

/-- The runtime's `read`, with nodes that may call themselves to the given depth. -/
def runtimeRead (now : DateTime) (calls : Nat) (space : AddressSpace) (nodeId : NodeId)
    (attributeId : AttributeId) : Checked AddressSpace Error DataValue :=
  match space.managed nodeId attributeId with
  | some value => pure value
  | none =>
    match space.nodes.lookup nodeId with
    | some node => callWithin (node.readAttribute now) calls attributeId
    | none => pure (.bad now .badNodeIdUnknown)

/-- The clock shows the time of each read, by the number of reads before it. -/
def read (clock : Nat → DateTime) (calls : Nat) (nodeId : NodeId) (attributeId : AttributeId) :
    Checked AddressSpace Error DataValue := do
  let before ← modifyGet fun space =>
    (space.readCounter, { space with readCounter := space.readCounter + 1 })
  let space ← gets id
  space.runtimeRead (clock before) calls nodeId attributeId

end AddressSpace

open AddressSpace

def handleReadRequest (clock : Nat → DateTime) (calls : Nat) (request : ReadRequest) :
    Checked AddressSpace OpcUaError ReadResponse := do
  let results ← visitAll
    (fun target : ReadTarget => read clock calls target.nodeId target.attributeId)
    request.nodesToRead
  pure ⟨request.requestHandle, results⟩

namespace AddressSpace

def Answers (space : AddressSpace) (target : ReadTarget) (value : DataValue) : Prop :=
  match space.managed target.nodeId target.attributeId with
  | some handled => value = handled
  | none =>
    match space.nodes.lookup target.nodeId with
    | none => ∃ now, value = .bad now .badNodeIdUnknown
    | some node => ¬node.HasAttribute target.attributeId →
        ∃ now, value = .bad now .badAttributeIdInvalid

/-- The target asks an overriding node for an attribute that its override does not answer. -/
def Unanswered (space : AddressSpace) (target : ReadTarget) : Prop :=
  space.managed target.nodeId target.attributeId = none ∧
    ∃ node, space.nodes.lookup target.nodeId = some node ∧ node.Unanswered target.attributeId

def Alike (space other : AddressSpace) : Prop :=
  other.managers = space.managers ∧ other.nodes = space.nodes

end AddressSpace

namespace AddressSpace

variable {Error : Type} {space current : AddressSpace} {target : ReadTarget}

theorem read_alike (alike : space.Alike current) (clock : Nat → DateTime) (calls : Nat)
    (nodeId : NodeId) (attributeId : AttributeId) :
    ∃ now after, space.Alike after ∧
      (read clock calls nodeId attributeId : Checked AddressSpace Error DataValue) current =
        space.runtimeRead now calls nodeId attributeId after := by
  obtain ⟨managers, nodes, readCounter⟩ := current
  obtain ⟨sameManagers, sameNodes⟩ := alike
  subst sameManagers sameNodes
  exact ⟨clock readCounter, { space with readCounter := readCounter + 1 }, ⟨rfl, rfl⟩, rfl⟩

theorem runtimeRead_answered (answered : ¬space.Unanswered target) (now : DateTime) (calls : Nat) :
    ∃ value, space.Answers target value ∧ (space.runtimeRead now (calls + 1) target.nodeId
      target.attributeId : Checked AddressSpace Error DataValue) = pure value := by
  unfold Answers runtimeRead
  cases managed : space.managed target.nodeId target.attributeId with
  | some value => exact ⟨value, rfl, rfl⟩
  | none =>
    cases found : space.nodes.lookup target.nodeId with
    | none => exact ⟨_, ⟨now, rfl⟩, rfl⟩
    | some node =>
      have named : ¬node.Unanswered target.attributeId := fun unanswered =>
        answered ⟨managed, node, found, unanswered⟩
      obtain ⟨value, answers, invalid⟩ := @Node.readAttribute_answered AddressSpace Error
        node target.attributeId named now
      refine ⟨value, fun unknown => ⟨now, invalid unknown⟩, ?_⟩
      exact callWithin_answered answers calls

theorem runtimeRead_unanswered (unanswered : space.Unanswered target) (now : DateTime)
    (calls : Nat) :
    (space.runtimeRead now calls target.nodeId target.attributeId :
      Checked AddressSpace Error DataValue) = raise .loopBound := by
  obtain ⟨managed, node, found, passed⟩ := unanswered
  rw [runtimeRead, managed]
  simp only [found]
  exact callWithin_passedOn (fun call => Node.readAttribute_unanswered passed now call) calls

theorem read_answered (answered : ¬space.Unanswered target) (clock : Nat → DateTime) (calls : Nat) :
    Triple space.Alike (read clock (calls + 1) target.nodeId target.attributeId :
        Checked AddressSpace Error DataValue)
      (fun value after => space.Alike after ∧ space.Answers target value) fun _ => False := by
  intro current alike
  obtain ⟨now, after, still, same⟩ := @read_alike Error _ _ alike clock (calls + 1) target.nodeId
    target.attributeId
  obtain ⟨value, answers, returned⟩ := @runtimeRead_answered Error _ _ answered now calls
  rw [same, returned]
  exact ⟨still, answers⟩

theorem read_unanswered (unanswered : space.Unanswered target) (alike : space.Alike current)
    (clock : Nat → DateTime) (calls : Nat) :
    (read clock calls target.nodeId target.attributeId : Checked AddressSpace Error DataValue)
      current = .fault .loopBound := by
  obtain ⟨now, after, _, same⟩ := @read_alike Error _ _ alike clock calls target.nodeId
    target.attributeId
  rw [same, runtimeRead_unanswered unanswered]
  rfl

theorem runtimeRead_returns_or_loops (space : AddressSpace) (target : ReadTarget) (now : DateTime)
    (calls : Nat) :
    (∃ value, (space.runtimeRead now calls target.nodeId target.attributeId :
        Checked AddressSpace Error DataValue) = pure value) ∨
      (space.runtimeRead now calls target.nodeId target.attributeId :
        Checked AddressSpace Error DataValue) = raise .loopBound := by
  by_cases unanswered : space.Unanswered target
  · exact Or.inr (runtimeRead_unanswered unanswered now calls)
  · cases calls with
    | zero =>
      unfold runtimeRead
      cases space.managed target.nodeId target.attributeId with
      | some handled => exact Or.inl ⟨handled, rfl⟩
      | none =>
        cases space.nodes.lookup target.nodeId with
        | some => exact Or.inr rfl
        | none => exact Or.inl ⟨_, rfl⟩
    | succ calls =>
      obtain ⟨value, _, returned⟩ := @runtimeRead_answered Error _ _ unanswered now calls
      exact Or.inl ⟨value, returned⟩

theorem runtimeRead_state {now : DateTime} {calls : Nat} {before after : AddressSpace}
    {value : DataValue}
    (returned : (space.runtimeRead now calls target.nodeId target.attributeId :
      Checked AddressSpace Error DataValue) before = .ok value after) : after = before := by
  rcases @runtimeRead_returns_or_loops Error space target now calls with ⟨other, same⟩ | loops
  · rw [same] at returned
    cases returned
    rfl
  · rw [loops] at returned
    cases returned

end AddressSpace

/-- One value for every target, in order, after finitely many calls of `read_attribute`. -/
def Answered (clock : Nat → DateTime) (request : ReadRequest) (space : AddressSpace) : Prop :=
  ∃ calls response after, handleReadRequest clock calls request space = .ok response after ∧
    response.requestHandle = request.requestHandle ∧
    List.Forall₂ space.Answers request.nodesToRead response.results

theorem answered_of_named {space : AddressSpace} {request : ReadRequest}
    (named : ∀ target ∈ request.nodesToRead, ¬space.Unanswered target)
    (clock : Nat → DateTime) : Answered clock request space := by
  have reads := Triple.visitAll request.nodesToRead fun target member =>
    @read_answered OpcUaError space target (named target member) clock 0
  have ends := reads space ⟨rfl, rfl⟩
  cases ran : visitAll (fun target : ReadTarget =>
      (read clock 1 target.nodeId target.attributeId :
        Checked AddressSpace OpcUaError DataValue)) request.nodesToRead space with
  | ok results after =>
    rw [ran] at ends
    exact ⟨1, ⟨request.requestHandle, results⟩, after, bind_ok ran, rfl, ends.2⟩
  | err error after =>
    rw [ran] at ends
    exact ends.elim
  | fault fault =>
    rw [ran] at ends
    exact ends.elim

theorem Answered.named {space : AddressSpace} {request : ReadRequest} {clock : Nat → DateTime}
    (answered : Answered clock request space) :
    ∀ target ∈ request.nodesToRead, ¬space.Unanswered target := by
  obtain ⟨calls, response, after, returned, _, _⟩ := answered
  obtain ⟨results, middle, ran, _⟩ := bind_eq_ok _ _ returned
  intro target member unanswered
  have keeps : ∀ (item : ReadTarget) before value middle, space.Alike before →
      (read clock calls item.nodeId item.attributeId :
        Checked AddressSpace OpcUaError DataValue) before = .ok value middle →
      space.Alike middle := by
    intro item before value middle alike read
    obtain ⟨now, same, still, reads⟩ := @read_alike OpcUaError _ _ alike clock calls
      item.nodeId item.attributeId
    rw [runtimeRead_state (reads.symm.trans read)]
    exact still
  obtain ⟨before, value, later, alike, read⟩ :=
    visitAll_visited keeps ⟨rfl, rfl⟩ ran target member
  have faulted := @read_unanswered OpcUaError _ _ _ unanswered alike clock calls
  exact absurd (read.symm.trans faulted) (by simp)

/-- Each target gets its value unless its class does not answer it. -/
theorem read_request_answered_iff (clock : Nat → DateTime) (request : ReadRequest)
    (space : AddressSpace) :
    Answered clock request space ↔ ∀ target ∈ request.nodesToRead, ¬space.Unanswered target := by
  constructor
  · intro answered
    exact answered.named
  · intro named
    exact answered_of_named named clock

def objectsFolder : Node := .objectNode
  { base :=
      { nodeId := .numeric 0 85
        browseName := ⟨0, "Objects"⟩
        displayName := ⟨"", "Objects"⟩
        description := ⟨"", ""⟩
        writeMask := ⟨0⟩
        userWriteMask := ⟨0⟩ }
    eventNotifier := 0 }

/-- The override calls itself. -/
theorem display_name_of_object_not_answered :
    ¬Answered (fun _ => .unixEpoch) ⟨1, [⟨.numeric 0 85, .displayName⟩]⟩
      ⟨fun _ => none, (∅ : Table NodeId Node).insert (.numeric 0 85) objectsFolder, 0⟩ := by
  intro answered
  apply answered.named _ List.mem_cons_self
  exact ⟨rfl, objectsFolder, AList.lookup_insert _, rfl, by decide⟩

end Mabinogion.Opcua
