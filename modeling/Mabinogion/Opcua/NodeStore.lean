import Mabinogion.Opcua.Types
import Mathlib.Data.Fintype.EquivFin

/-!
# Races for the node store

An insert counts the nodes, looks for its id and puts its node in three operations, so two of them
can both find the last place, or both find an id free.
-/

namespace Mabinogion.Opcua

open Function Finset

inductive StoreCall where
  | insertNode (id : NodeId)
  | remove (id : NodeId)

/-- How far a call has come; each step is one operation on the map. -/
inductive Stage where
  | called
  | counted
  | absent
  | returned

/-- The ids in the map, the stages of the calls, and the ids whose node an insert has replaced. -/
structure NodeStore (Caller : Type) where
  nodes : Finset NodeId
  stage : Caller → Stage
  replaced : List NodeId

namespace NodeStore

variable {Caller : Type} [DecidableEq Caller] (maxNodes : Nat) (calls : Caller → StoreCall)
  {store : NodeStore Caller} {nodes : Finset NodeId} {id : NodeId} {caller : Caller}

def step (store : NodeStore Caller) (caller : Caller) : NodeStore Caller :=
  let go stage := { store with stage := update store.stage caller stage }
  match calls caller, store.stage caller with
  | .insertNode _, .called => go (if store.nodes.card ≥ maxNodes then .returned else .counted)
  | .insertNode id, .counted => go (if id ∈ store.nodes then .returned else .absent)
  | .insertNode id, .absent =>
    { go .returned with
      nodes := insert id store.nodes
      replaced := if id ∈ store.nodes then id :: store.replaced else store.replaced }
  | .remove id, .called => { go .returned with nodes := store.nodes.erase id }
  | _, _ => store

/-- No insert has put its node where one stood, so of two inserts of an id that return true the
second one comes after a removal. -/
def Atomic (store : NodeStore Caller) : Prop :=
  store.replaced = [] ∧ store.nodes.card ≤ maxNodes

/-- What an insert relies on. -/
def Relies (nodes : Finset NodeId) (id : NodeId) : Stage → Prop
  | .counted => nodes.card < maxNodes
  | .absent => nodes.card < maxNodes ∧ id ∉ nodes
  | _ => True

structure Sound (store : NodeStore Caller) : Prop where
  atomic : store.Atomic maxNodes
  relies : ∀ caller id, calls caller = .insertNode id →
    Relies maxNodes store.nodes id (store.stage caller)

variable {maxNodes calls}

theorem Relies.mono {before : Finset NodeId} (fewer : nodes ⊆ before) :
    ∀ {stage}, Relies maxNodes before id stage → Relies maxNodes nodes id stage
  | .counted, room => (card_le_card fewer).trans_lt room
  | .absent, known => ⟨(card_le_card fewer).trans_lt known.1, fun there => known.2 (fewer there)⟩
  | .called, _ | .returned, _ => trivial

theorem Sound.go {stage : Stage} (sound : Sound maxNodes calls store) (fewer : nodes ⊆ store.nodes)
    (own : ∀ id, calls caller = .insertNode id → Relies maxNodes nodes id stage) :
    Sound maxNodes calls ⟨nodes, update store.stage caller stage, store.replaced⟩ := by
  refine ⟨⟨sound.atomic.1, (card_le_card fewer).trans sound.atomic.2⟩, fun other id inserts => ?_⟩
  rcases eq_or_ne other caller with rfl | apart
  · simpa only [update_self] using own id inserts
  · simpa only [update_of_ne apart] using (sound.relies other id inserts).mono fewer

theorem Sound.step (sound : Sound maxNodes calls store)
    (few : maxNodes = 0 ∨ {caller | ∃ id, calls caller = .insertNode id}.Subsingleton) :
    Sound maxNodes calls (store.step maxNodes calls caller) := by
  rw [NodeStore.step]
  split
  · refine sound.go subset_rfl fun _ _ => ?_
    split_ifs with full
    · trivial
    · exact Nat.lt_of_not_le full
  · rename_i id call stage
    have room := sound.relies caller id call
    rw [stage] at room
    refine sound.go subset_rfl fun other inserts => ?_
    cases call.symm.trans inserts
    split_ifs with there
    · trivial
    · exact ⟨room, there⟩
  · rename_i id call stage
    have known := sound.relies caller id call
    rw [stage] at known
    obtain ⟨room, free⟩ := known
    refine ⟨⟨(if_neg free).trans sound.atomic.1, ?_⟩, fun other _ inserts => ?_⟩
    · exact (card_insert_of_notMem free).trans_le room
    · rcases few with rfl | one
      · cases room
      · cases one ⟨_, call⟩ ⟨_, inserts⟩
        simp only [update_self, Relies]
  · exact sound.go (erase_subset ..) fun _ _ => trivial
  · exact sound

instance : Infinite NodeId :=
  .of_injective (fun count : Nat => ⟨0, .byteString (.replicate count 0)⟩) fun _ _ same => by
    simpa using same

/-- Two inserts may both find the last place free. -/
theorem atomic_iff (maxNodes : Nat) (calls : Caller → StoreCall) :
    (∀ (nodes : Finset NodeId) (schedule : List Caller), nodes.card ≤ maxNodes →
      Atomic maxNodes (schedule.foldl (step maxNodes calls) ⟨nodes, fun _ => .called, []⟩)) ↔
      maxNodes = 0 ∨ {caller | ∃ id, calls caller = .insertNode id}.Subsingleton := by
  constructor
  · intro atomic
    by_contra! many
    obtain ⟨positive, first, ⟨id, calls_first⟩, second, ⟨other, calls_second⟩, apart⟩ := many
    -- one place is left, and both ids are free
    obtain ⟨all, has, size⟩ := Infinite.exists_superset_card_eq {id, other}
      (maxNodes - 1 + card {id, other}) (Nat.le_add_left ..)
    have left : (all \ {id, other}).card = maxNodes - 1 := by
      rw [card_sdiff_of_subset has, size, Nat.add_sub_cancel]
    have both := atomic (all \ {id, other}) [first, second, first, second, first, second] (by omega)
    have room : ¬maxNodes ≤ maxNodes - 1 := by omega
    simp [Atomic, step, calls_first, calls_second, apart, apart.symm, left, room] at both
    rw [card_insert_of_notMem (by simp [both.1]), card_insert_of_notMem (by simp), left] at both
    omega
  · intro few nodes schedule inside
    suffices sound : Sound maxNodes calls _ from sound.atomic
    refine List.foldlRecOn schedule _ ⟨⟨rfl, inside⟩, fun _ _ _ => trivial⟩ ?_
    exact fun _ sound _ _ => sound.step few

/-- Both calls find the store empty. -/
theorem node_replaced : ¬Atomic 10 ([false, true, false, true, false, true].foldl
    (step 10 fun _ => .insertNode ⟨0, .numeric 1⟩) ⟨∅, fun _ => .called, []⟩) := fun atomic =>
  absurd atomic.1 (by decide)

end NodeStore

end Mabinogion.Opcua
