import Mabinogion.Library.Recursion
import Mabinogion.Opcua.Types

/-!
# Nodes

The node classes and their `read_attribute`. Four classes override the method of the trait and
hand what they do not name to `Node::read_attribute(self, ..)`, which on such a class is the
override again: the call is repeated.
-/

namespace Mabinogion.Opcua

open Checked

inductive NodeClass where
  | unspecified
  | object
  | «variable»
  | method
  | objectType
  | variableType
  | referenceType
  | dataType
  | view

def NodeClass.code : NodeClass → UInt8
  | unspecified => 0
  | object => 1
  | «variable» => 2
  | method => 4
  | objectType => 8
  | variableType => 16
  | referenceType => 32
  | dataType => 64
  | view => 128

structure AccessLevel where
  raw : UInt8

structure WriteMask where
  raw : UInt32

structure NodeBase where
  nodeId : NodeId
  browseName : QualifiedName
  displayName : LocalizedText
  description : LocalizedText
  writeMask : WriteMask
  userWriteMask : WriteMask

structure ObjectNode where
  base : NodeBase
  eventNotifier : UInt8

structure VariableNode where
  base : NodeBase
  value : DataValue
  dataType : NodeId
  valueRank : Int32
  arrayDimensions : Option (List UInt32)
  accessLevel : AccessLevel
  userAccessLevel : AccessLevel
  minimumSamplingInterval : UInt64
  historizing : Bool

structure MethodNode where
  base : NodeBase
  executable : Bool
  userExecutable : Bool

structure ObjectTypeNode where
  base : NodeBase
  isAbstract : Bool

/-- The classes that read no field of their own are kept by their base. -/
inductive Node where
  | objectNode (node : ObjectNode)
  | variableNode (node : VariableNode)
  | methodNode (node : MethodNode)
  | objectTypeNode (node : ObjectTypeNode)
  | variableTypeNode (base : NodeBase)
  | referenceTypeNode (base : NodeBase)
  | dataTypeNode (base : NodeBase)
  | viewNode (base : NodeBase)

def baseAttributes : List AttributeId :=
  [.nodeId, .nodeClass, .browseName, .displayName, .description, .writeMask, .userWriteMask]

section

variable {State Error : Type}

abbrev ReadBody (State Error : Type) : Type := Body State Error AttributeId DataValue

/-- The method of the trait, for the classes that do not override it. -/
def NodeBase.readAttribute (nodeClass : NodeClass) (now : DateTime) (self : NodeBase) :
    AttributeId → DataValue
  | .nodeId => .new now (.nodeId self.nodeId)
  | .nodeClass => .new now (.uInt32 nodeClass.code.toUInt32)
  | .browseName => .new now (.string self.browseName.display)
  | .displayName => .new now (.string self.displayName.display)
  | .description => .new now (.string self.description.display)
  | .writeMask => .new now (.uInt32 self.writeMask.raw)
  | .userWriteMask => .new now (.uInt32 self.userWriteMask.raw)
  | _ => .bad now .badAttributeIdInvalid

theorem NodeBase.readAttribute_unknown (base : NodeBase) (nodeClass : NodeClass) (now : DateTime)
    {attributeId : AttributeId} (unknown : attributeId ∉ baseAttributes) :
    base.readAttribute nodeClass now attributeId = .bad now .badAttributeIdInvalid := by
  cases attributeId <;> first | rfl | exact absurd (by decide) unknown

/-- An override: what it does not answer itself it calls `Node::read_attribute` for. -/
def overriding (own : AttributeId → Option DataValue) : ReadBody State Error :=
  fun call attributeId =>
    match own attributeId with
    | some value => pure value
    | none => call attributeId

variable (now : DateTime)

def ObjectNode.readAttribute (self : ObjectNode) : ReadBody State Error :=
  overriding fun
    | .eventNotifier => some (.new now (.byte self.eventNotifier))
    | _ => none

def VariableNode.readAttribute (self : VariableNode) : ReadBody State Error :=
  overriding fun
    | .value => some self.value
    | .dataType => some (.new now (.nodeId self.dataType))
    | .valueRank => some (.new now (.int32 self.valueRank))
    | .arrayDimensions => some
        (match self.arrayDimensions with
        | some dims => .new now (.uint32Array dims)
        | none => .null)
    | .accessLevel => some (.new now (.byte self.accessLevel.raw))
    | .userAccessLevel => some (.new now (.byte self.userAccessLevel.raw))
    | .minimumSamplingInterval => some (.new now (.double self.minimumSamplingInterval))
    | .historizing => some (.new now (.boolean self.historizing))
    | _ => none

def MethodNode.readAttribute (self : MethodNode) : ReadBody State Error :=
  overriding fun
    | .executable => some (.new now (.boolean self.executable))
    | .userExecutable => some (.new now (.boolean self.userExecutable))
    | _ => none

def ObjectTypeNode.readAttribute (self : ObjectTypeNode) : ReadBody State Error :=
  overriding fun
    | .isAbstract => some (.new now (.boolean self.isAbstract))
    | _ => none

/-- The body that a call of `read_attribute` on the node reaches. -/
def Node.readAttribute : Node → ReadBody State Error
  | .objectNode node => node.readAttribute now
  | .variableNode node => node.readAttribute now
  | .methodNode node => node.readAttribute now
  | .objectTypeNode node => node.readAttribute now
  | .variableTypeNode base => fun _ attributeId =>
    pure (base.readAttribute .variableType now attributeId)
  | .referenceTypeNode base => fun _ attributeId =>
    pure (base.readAttribute .referenceType now attributeId)
  | .dataTypeNode base => fun _ attributeId => pure (base.readAttribute .dataType now attributeId)
  | .viewNode base => fun _ attributeId => pure (base.readAttribute .view now attributeId)

end

/-- The attributes of the class besides those of every node. -/
def NodeClass.attributes : NodeClass → List AttributeId
  | unspecified => []
  | object => [.eventNotifier]
  | «variable» => [.value, .dataType, .valueRank, .arrayDimensions, .accessLevel,
      .userAccessLevel, .minimumSamplingInterval, .historizing]
  | method => [.executable, .userExecutable]
  | objectType => [.isAbstract]
  | variableType => [.value, .dataType, .valueRank, .arrayDimensions, .isAbstract]
  | referenceType => [.isAbstract, .symmetric, .inverseName]
  | dataType => [.isAbstract]
  | view => [.containsNoLoops, .eventNotifier]

namespace Node

def nodeClass : Node → NodeClass
  | .objectNode _ => .object
  | .variableNode _ => .variable
  | .methodNode _ => .method
  | .objectTypeNode _ => .objectType
  | .variableTypeNode _ => .variableType
  | .referenceTypeNode _ => .referenceType
  | .dataTypeNode _ => .dataType
  | .viewNode _ => .view

def HasAttribute (node : Node) (attributeId : AttributeId) : Prop :=
  attributeId ∈ baseAttributes ∨ attributeId ∈ node.nodeClass.attributes

def overrides : Node → Bool
  | .objectNode _ | .variableNode _ | .methodNode _ | .objectTypeNode _ => true
  | _ => false

/-- An override answers the attributes of its class and no others. -/
def Unanswered (node : Node) (attributeId : AttributeId) : Prop :=
  node.overrides = true ∧ attributeId ∉ node.nodeClass.attributes

section

variable {State Error : Type} {node : Node} {attributeId : AttributeId}

theorem readAttribute_overriding (overriding : node.overrides = true) (now : DateTime) :
    ∃ own, node.readAttribute now = (Opcua.overriding own : ReadBody State Error) ∧
      ∀ attributeId, (own attributeId).isSome = node.nodeClass.attributes.contains attributeId := by
  cases node with
  | objectNode | variableNode | methodNode | objectTypeNode =>
    exact ⟨_, rfl, fun attributeId => by cases attributeId <;> rfl⟩
  | variableTypeNode | referenceTypeNode | dataTypeNode | viewNode => cases overriding

theorem readAttribute_inherited (inherited : node.overrides = false) (attributeId : AttributeId)
    (now : DateTime) :
    ∃ value, (∀ call : AttributeId → Checked State Error DataValue,
        node.readAttribute now call attributeId = pure value) ∧
      (attributeId ∉ baseAttributes → value = .bad now .badAttributeIdInvalid) := by
  cases node with
  | objectNode | variableNode | methodNode | objectTypeNode => cases inherited
  | variableTypeNode base | referenceTypeNode base | dataTypeNode base | viewNode base =>
    exact ⟨_, fun _ => rfl, base.readAttribute_unknown _ now⟩

theorem readAttribute_unanswered (unanswered : node.Unanswered attributeId) (now : DateTime)
    (call : AttributeId → Checked State Error DataValue) :
    node.readAttribute now call attributeId = call attributeId := by
  obtain ⟨own, same, covers⟩ := readAttribute_overriding unanswered.1 now
  have unnamed : own attributeId = none := by
    simpa [unanswered.2] using covers attributeId
  rw [same, overriding, unnamed]

theorem readAttribute_answered (answered : ¬node.Unanswered attributeId) (now : DateTime) :
    ∃ value, (∀ call : AttributeId → Checked State Error DataValue,
        node.readAttribute now call attributeId = pure value) ∧
      (¬node.HasAttribute attributeId → value = .bad now .badAttributeIdInvalid) := by
  cases overrides : node.overrides with
  | true =>
    have named : attributeId ∈ node.nodeClass.attributes := by
      by_contra unnamed
      exact answered ⟨overrides, unnamed⟩
    obtain ⟨own, same, covers⟩ := @readAttribute_overriding State Error node overrides now
    obtain ⟨value, given⟩ : ∃ value, own attributeId = some value := by
      simpa [named, Option.isSome_iff_exists] using covers attributeId
    refine ⟨value, ?_, fun unknown => absurd (Or.inr named) unknown⟩
    intro call
    rw [same, overriding, given]
  | false =>
    obtain ⟨value, answers, invalid⟩ := readAttribute_inherited overrides attributeId now
    exact ⟨value, answers, fun unknown => invalid fun known => unknown (Or.inl known)⟩

end

end Node

end Mabinogion.Opcua
