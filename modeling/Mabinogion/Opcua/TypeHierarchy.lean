import Mabinogion.Opcua.ReadService
import Mathlib.Logic.Relation

/-!
# Subtypes in event filters

The type tree goes up from a type by the first of its supertypes, fifty times at most. The filter
also looks at the other supertypes of the type itself, and not at what is above them.
-/

namespace Mabinogion.Opcua

/-- Other references are not told apart. -/
inductive ReferenceTypeId where
  | hasSubtype
  | other
deriving DecidableEq

structure Reference where
  referenceTypeId : ReferenceTypeId
  targetNodeId : NodeId

/-- The inverse references of each node. -/
abbrev ReferenceIndex := NodeId → List Reference

namespace ReferenceIndex

variable (index : ReferenceIndex) (depth : Nat) (node parent : NodeId)

/-- `find_map` takes the first of these. -/
def supertypes : List NodeId :=
  (index node).filterMap fun reference =>
    if reference.referenceTypeId = .hasSubtype then some reference.targetNodeId else none

/-- The loop of `is_node_subtype_of`, for a number of rounds. -/
def climbsTo (parent : NodeId) : Nat → NodeId → Bool
  | 0, _ => false
  | depth + 1, current =>
    match (index.supertypes current).head? with
    | some parentId => parentId = parent || climbsTo parent depth parentId
    | none => false

def isNodeSubtypeOf (candidate parent : NodeId) : Bool :=
  candidate = parent || index.climbsTo parent 50 candidate

/-- The first supertype, the first one of that, and so on. -/
def firstSupertypes : Nat → NodeId → List NodeId
  | 0, _ => []
  | depth + 1, node =>
    match (index.supertypes node).head? with
    | some above => above :: firstSupertypes depth above
    | none => []

theorem climbsTo_eq : index.climbsTo parent depth node =
    (index.firstSupertypes depth node).contains parent := by
  induction depth generalizing node with
  | zero => rfl
  | succ depth ih =>
    rw [climbsTo, firstSupertypes]
    cases (index.supertypes node).head? with
    | none => rfl
    | some above => simp [ih, eq_comm]

def Supertype (node above : NodeId) : Prop := above ∈ index.supertypes node

open Relation

theorem reached_of_listed (listed : parent ∈ index.firstSupertypes depth node) :
    ReflTransGen index.Supertype node parent := by
  induction depth generalizing node with
  | zero => cases listed
  | succ depth ih =>
    rw [firstSupertypes] at listed
    cases next : (index.supertypes node).head? with
    | none => simp [next] at listed
    | some above =>
      have direct : index.Supertype node above := List.mem_of_head? next
      rw [next, List.mem_cons] at listed
      rcases listed with rfl | later
      · exact .single direct
      · exact .head direct (ih above later)

/-- The type, the first fifty of its chain, and its direct supertypes. -/
def known : List NodeId := node :: (index.firstSupertypes 50 node ++ index.supertypes node)

theorem head?_of_single {types : List NodeId} (single : types.length ≤ 1)
    (listed : parent ∈ types) : types.head? = some parent := by
  obtain ⟨only, rfl⟩ := List.length_eq_one_iff.mp
    (Nat.le_antisymm single (List.length_pos_of_mem listed))
  rw [List.mem_singleton.mp listed, List.head?_cons]

/-- With one supertype at most, the supertypes of a chain are in the chain that is one longer. -/
theorem listed_of_single (single : ∀ above, (index.supertypes above).length ≤ 1) {above : NodeId}
    (listed : above ∈ node :: index.firstSupertypes depth node)
    (direct : index.Supertype above parent) : parent ∈ index.firstSupertypes (depth + 1) node := by
  rcases List.mem_cons.mp listed with rfl | later
  · rw [firstSupertypes, head?_of_single parent (single above) direct]
    exact List.mem_cons_self
  · induction depth generalizing node with
    | zero => cases later
    | succ depth ih =>
      cases next : (index.supertypes node).head? with
      | none => simp [firstSupertypes, next] at later
      | some first =>
        rw [firstSupertypes, next] at later ⊢
        show parent ∈ first :: index.firstSupertypes (depth + 1) first
        rcases List.mem_cons.mp later with rfl | further
        · rw [firstSupertypes, head?_of_single parent (single above) direct]
          exact List.mem_cons_of_mem above List.mem_cons_self
        · exact List.mem_cons_of_mem first
            (ih first (List.mem_cons_of_mem first further) further)

end ReferenceIndex

/-- The index, and what the managers of the namespaces answer for a type and a target. -/
structure TypeHierarchy where
  managers : UInt16 → Option (NodeId → NodeId → ManagedOperation Bool)
  index : ReferenceIndex

namespace TypeHierarchy

open Relation

variable (hierarchy : TypeHierarchy) {node : NodeId}

def managed (candidate parent : NodeId) : ManagedOperation Bool :=
  match hierarchy.managers candidate.namespaceIndex with
  | some manager => manager candidate parent
  | none => .notHandled

def isNodeSubtypeOf (candidate parent : NodeId) : Bool :=
  match hierarchy.managed candidate parent with
  | .handled result => result
  | .notHandled => hierarchy.index.isNodeSubtypeOf candidate parent

def isSubtypeOf (eventType targetType : NodeId) : Bool :=
  hierarchy.isNodeSubtypeOf eventType targetType || (hierarchy.index eventType).any fun reference =>
    reference.referenceTypeId = .hasSubtype && reference.targetNodeId = targetType

/-- The filter passes the type and all types that are reached from it, and no others. -/
def FollowsHierarchy (eventType : NodeId) : Prop :=
  ∀ targetType, hierarchy.isSubtypeOf eventType targetType = true ↔
    ReflTransGen hierarchy.index.Supertype eventType targetType

/-- No manager answers for the type; those that the server itself registers never do. -/
def Unmanaged (candidate : NodeId) : Prop :=
  ∀ parent, hierarchy.managed candidate parent = .notHandled

variable {hierarchy}

theorem isSubtypeOf_iff (unmanaged : hierarchy.Unmanaged node) (parent : NodeId) :
    hierarchy.isSubtypeOf node parent = true ↔ parent ∈ hierarchy.index.known node := by
  rw [isSubtypeOf, isNodeSubtypeOf, unmanaged, ReferenceIndex.known]
  dsimp only
  rw [ReferenceIndex.isNodeSubtypeOf, ReferenceIndex.climbsTo_eq, ReferenceIndex.supertypes]
  generalize hierarchy.index.firstSupertypes 50 node = climbed
  simp [or_assoc, @eq_comm _ node parent]

/-- Exactly if no supertype leads out of the types that are known. -/
theorem followsHierarchy_iff (unmanaged : hierarchy.Unmanaged node) :
    hierarchy.FollowsHierarchy node ↔ ∀ above ∈ hierarchy.index.known node,
      ∀ next ∈ hierarchy.index.supertypes above, next ∈ hierarchy.index.known node := by
  simp only [FollowsHierarchy, isSubtypeOf_iff unmanaged]
  constructor
  · intro follows above known next direct
    exact (follows next).mpr (((follows above).mp known).tail direct)
  · intro closed above
    constructor
    · intro known
      rcases List.mem_cons.mp known with rfl | further
      · exact .refl
      · rcases List.mem_append.mp further with listed | direct
        · exact hierarchy.index.reached_of_listed 50 node above listed
        · exact .single direct
    · intro reached
      -- The types on the way are known one after the other.
      induction reached with
      | refl => exact List.mem_cons_self
      | tail _ direct known => exact closed _ known _ direct

/-- Single inheritance is followed up to a depth of fifty. -/
theorem follows_single (unmanaged : hierarchy.Unmanaged node)
    (single : ∀ above, (hierarchy.index.supertypes above).length ≤ 1)
    (ends : hierarchy.index.firstSupertypes 51 node = hierarchy.index.firstSupertypes 50 node) :
    hierarchy.FollowsHierarchy node := by
  refine (followsHierarchy_iff unmanaged).mpr fun above known next direct => ?_
  have listed : above ∈ node :: hierarchy.index.firstSupertypes 50 node := by
    rcases List.mem_cons.mp known with rfl | further
    · exact List.mem_cons_self
    · rcases List.mem_append.mp further with listed | first
      · exact List.mem_cons_of_mem node listed
      · rw [← ends]
        exact List.mem_cons_of_mem node
          (hierarchy.index.listed_of_single 50 node above single List.mem_cons_self first)
  have above := hierarchy.index.listed_of_single 50 node next single listed direct
  rw [ends] at above
  exact List.mem_cons_of_mem node (List.mem_append_left _ above)

/-- A chain of two steps, of types for which no manager answers. -/
theorem grandparent_followed : FollowsHierarchy ⟨fun _ => none, fun node =>
    if node = .numeric 1 1 then [⟨.hasSubtype, .numeric 1 2⟩]
    else if node = .numeric 1 2 then [⟨.other, .numeric 1 4⟩, ⟨.hasSubtype, .numeric 1 3⟩]
    else []⟩ (.numeric 1 1) := by
  refine (followsHierarchy_iff fun _ => rfl).mpr ?_
  decide

/-- The walk goes on from the first supertype only. -/
theorem second_supertype_missed : ¬FollowsHierarchy ⟨fun _ => none, fun node =>
    if node = .numeric 1 1 then [⟨.hasSubtype, .numeric 1 2⟩]
    else if node = .numeric 1 2 then [⟨.hasSubtype, .numeric 1 3⟩, ⟨.hasSubtype, .numeric 1 4⟩]
    else []⟩ (.numeric 1 1) := by
  intro follows
  have reached := (follows (.numeric 1 4)).mpr
    (@ReflTransGen.head _ _ _ (.numeric 1 2) _ List.mem_cons_self
      (.single (List.mem_cons_of_mem _ List.mem_cons_self)))
  exact absurd reached (by decide)

end TypeHierarchy

end Mabinogion.Opcua
