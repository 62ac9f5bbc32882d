import Mabinogion.Library.Checked

/-!
# Loops of checked computations

A loop repeats a round until the round stops it, bounded by a measure of the state it starts
in. Where every round that goes on makes the measure smaller the bound is never met: the loop
faults exactly when a round it reaches does.
-/

namespace Checked

open Checked

variable {State Error Other Value Result Acc : Type}

def loopWithin (round : Acc → Checked State Error (Acc ⊕ Result)) :
    Nat → Acc → Checked State Error Result
  | 0, _ => raise .loopBound
  | bound + 1, acc => do
    match ← round acc with
    | .inl next => loopWithin round bound next
    | .inr result => pure result

def loop (measure : State → Nat) (round : Acc → Checked State Error (Acc ⊕ Result))
    (acc : Acc) : Checked State Error Result :=
  fun state => loopWithin round (measure state + 1) acc state

/-- Every round from an accumulator in order returns, and stops with a good result or goes on with a
smaller one in order. -/
theorem loopWithin_returns {round : Acc → Checked State Error (Acc ⊕ Result)}
    {Ordered : Acc → Prop} {Good : Result → Prop} {size : Acc → Nat}
    (rounds : ∀ acc state, Ordered acc →
      (∃ next after, round acc state = .ok (.inl next) after ∧ Ordered next ∧
        size next < size acc) ∨
      ∃ result after, round acc state = .ok (.inr result) after ∧ Good result)
    {bound : Nat} {acc : Acc} (state : State) (enough : size acc < bound) (ordered : Ordered acc) :
    ∃ result after, loopWithin round bound acc state = .ok result after ∧ Good result := by
  induction bound generalizing acc state with
  | zero => exact absurd enough (Nat.not_lt_zero _)
  | succ bound ih =>
    rcases rounds acc state ordered with ⟨next, middle, ran, still, smaller⟩ |
      ⟨result, after, ran, good⟩
    · obtain ⟨result, after, looped, good⟩ := ih middle (by omega) still
      refine ⟨result, after, ?_, good⟩
      rw [loopWithin, bind_ok ran]
      exact looped
    · refine ⟨result, after, ?_, good⟩
      rw [loopWithin, bind_ok ran]
      rfl

variable {computation : Checked State Error Value} {state after : State}
variable {first : Checked State Error Value} {next : Value → Checked State Error Result}
variable {value : Value}

variable {error : Error}

section

variable (measure : State → Nat)

/-- The measure does not grow, with a value and with an error, and only allowed
faults occur. -/
def Orderly (allowed : Fault → Prop) (computation : Checked State Error Value) : Prop :=
  ∀ state, match computation state with
    | .ok _ after => measure after ≤ measure state
    | .err _ after => measure after ≤ measure state
    | .fault fault => allowed fault

abbrev Tame (computation : Checked State Error Value) : Prop :=
  Orderly measure (fun _ => False) computation

def Consumes (computation : Checked State Error Value) : Prop :=
  ∀ state value after, computation state = .ok value after → measure after < measure state

def Advances (round : Checked State Error (Acc ⊕ Result)) : Prop :=
  ∀ state acc after, round state = .ok (.inl acc) after → measure after < measure state

/-- Orderly, and a value of the quick kind comes with a smaller measure. -/
structure Paced (allowed : Fault → Prop) (quick : Value → Prop)
    (computation : Checked State Error Value) : Prop where
  orderly : Orderly measure allowed computation
  smaller : ∀ state value after, computation state = .ok value after → quick value →
    measure after < measure state

abbrev Brisk (allowed : Fault → Prop) (computation : Checked State Error Value) : Prop :=
  Paced measure allowed (fun _ => True) computation

abbrev Brief (allowed : Fault → Prop) (round : Checked State Error (Acc ⊕ Result)) : Prop :=
  Paced measure allowed (fun step => step.isLeft = true) round

variable {measure} {allowed : Fault → Prop}

theorem Orderly.ok (orderly : Orderly measure allowed computation)
    (returned : computation state = .ok value after) : measure after ≤ measure state := by
  have bound := orderly state
  rwa [returned] at bound

theorem Orderly.err (orderly : Orderly measure allowed computation)
    (failed : computation state = .err error after) : measure after ≤ measure state := by
  have bound := orderly state
  rwa [failed] at bound

theorem Orderly.fault (orderly : Orderly measure allowed computation) {fault : Fault}
    (faulted : computation state = .fault fault) : allowed fault := by
  have bound := orderly state
  rwa [faulted] at bound

theorem Orderly.safe (tame : Tame measure computation) : Safe computation := by
  rintro state ⟨fault, faulted⟩
  exact tame.fault faulted

theorem Orderly.returns (tame : Tame measure computation) (state : State) :
    (computation state).returned ≠ none :=
  fun none => tame.safe state ((faults_iff_returned_none computation).mpr none)

theorem orderly_pure (value : Value) :
    Orderly measure allowed (pure value : Checked State Error Value) :=
  fun _ => le_refl _

variable (left right : Nat) {Item : Type} {condition : Prop} (error : Error)

theorem orderly_fail : Orderly measure allowed (fail error : Checked State Error Value) :=
  fun _ => le_refl _

theorem orderly_gets (view : State → Value) :
    Orderly measure allowed (gets view : Checked State Error Value) :=
  fun _ => le_refl _

theorem Orderly.bind_returned (left : Orderly measure allowed first)
    (right : ∀ value state after, first state = .ok value after →
      Orderly measure allowed (next value)) :
    Orderly measure allowed (first >>= next) := by
  intro state
  rw [bind_apply, andThen]
  cases ran : first state with
  | ok value middle =>
    have before := left.ok ran
    have orderly := right value state middle ran
    simp only
    cases ended : next value middle with
    | ok => exact le_trans (orderly.ok ended) before
    | err => exact le_trans (orderly.err ended) before
    | fault fault => exact orderly.fault ended
  | err => exact left.err ran
  | fault fault => exact left.fault ran

theorem Orderly.bind (left : Orderly measure allowed first)
    (right : ∀ value, Orderly measure allowed (next value)) :
    Orderly measure allowed (first >>= next) :=
  left.bind_returned fun value _ _ _ => right value

theorem Orderly.mapErr (orderly : Orderly measure allowed computation) (convert : Error → Other) :
    Orderly measure allowed (Checked.mapErr convert computation) := by
  intro state
  unfold Checked.mapErr
  cases ran : computation state with
  | ok => exact orderly.ok ran
  | err => exact orderly.err ran
  | fault fault => exact orderly.fault ran

theorem Orderly.attempt (orderly : Orderly measure allowed computation) : Orderly measure
    allowed (Checked.attempt computation : Checked State Other (Except Error Value)) := by
  intro state
  unfold Checked.attempt
  cases ran : computation state with
  | ok => exact orderly.ok ran
  | err => exact orderly.err ran
  | fault fault => exact orderly.fault ran

variable {yes no : Checked State Error Value}

theorem Orderly.ite [Decidable condition]
    (left : Orderly measure allowed yes) (right : Orderly measure allowed no) :
    Orderly measure allowed (if condition then yes else no) := by
  split
  · exact left
  · exact right

theorem orderly_failIf (condition : Bool) (error : Error) :
    Orderly measure allowed (failIf condition error : Checked State Error Unit) :=
  Orderly.ite (orderly_fail error) (orderly_pure ())

theorem orderly_liftOption (option : Option Value) :
    Orderly measure allowed (liftOption error option : Checked State Error Value) := by
  cases option with
  | none => exact orderly_fail error
  | some value => exact orderly_pure value

theorem orderly_checkedIndex {items : List Item} {index : Nat} (inside : index < items.length) :
    Orderly measure allowed (checkedIndex items index : Checked State Error Item) := by
  rw [checkedIndex, List.getElem?_eq_getElem inside]
  exact orderly_pure _

section

variable {quick : Value → Prop} {fast : Result → Prop} {round : Checked State Error (Acc ⊕ Result)}

theorem Paced.consumes (brisk : Brisk measure (fun _ => True) computation) :
    Consumes measure computation :=
  fun state value after returned => brisk.smaller state value after returned trivial

theorem Paced.advances (brief : Brief measure (fun _ => True) round) : Advances measure round :=
  fun state _ after returned => brief.smaller state _ after returned rfl

theorem Paced.mapErr (paced : Paced measure allowed quick computation)
    (convert : Error → Other) : Paced measure allowed quick (mapErr convert computation) where
  orderly := paced.orderly.mapErr convert
  smaller state value after returned :=
    paced.smaller state value after (mapErr_eq_ok state after returned)

theorem Paced.bind (left : Brisk measure allowed first)
    (right : ∀ value, Orderly measure allowed (next value)) :
    Paced measure allowed fast (first >>= next) where
  orderly := left.orderly.bind right
  smaller state result after returned _ := by
    obtain ⟨value, middle, ran, ended⟩ := bind_eq_ok state after returned
    exact lt_of_le_of_lt ((right value).ok ended) (left.smaller state value middle ran trivial)

theorem Orderly.bind_paced (left : Orderly measure allowed first)
    (right : ∀ value, Paced measure allowed fast (next value)) :
    Paced measure allowed fast (first >>= next) where
  orderly := left.bind fun value => (right value).orderly
  smaller state result after returned reached := by
    obtain ⟨value, middle, ran, ended⟩ := bind_eq_ok state after returned
    exact lt_of_lt_of_le ((right value).smaller middle result after ended reached) (left.ok ran)

theorem Paced.ite [Decidable condition]
    (left : Paced measure allowed quick yes) (right : Paced measure allowed quick no) :
    Paced measure allowed quick (if condition then yes else no) := by
  split
  · exact left
  · exact right

theorem brief_stop (result : Result) :
    Brief measure allowed (pure (.inr result) : Checked State Error (Acc ⊕ Result)) where
  orderly := orderly_pure _
  smaller state step after returned goesOn := by
    cases returned
    cases goesOn

end

end

variable {allowed : Fault → Prop}

section

variable {measure : State → Nat} {round : Acc → Checked State Error (Acc ⊕ Result)}
variable (progress : ∀ acc, Advances measure (round acc))

include progress

theorem loopWithin_enough {bound : Nat} (acc : Acc) (enough : measure state < bound) :
    loopWithin round bound acc state = loop measure round acc state := by
  unfold loop
  -- Both sides are unfolded together, by induction on the larger bound.
  suffices same : ∀ smaller larger acc state, measure state < smaller → smaller ≤ larger →
      loopWithin round larger acc state = loopWithin round smaller acc state from
    same (measure state + 1) bound acc state (Nat.lt_succ_self _) enough
  intro smaller
  induction smaller with
  | zero =>
    intro larger acc state below _
    exact absurd below (Nat.not_lt_zero _)
  | succ smaller ih =>
    intro larger acc state below wider
    obtain ⟨larger, rfl⟩ : ∃ other, larger = other + 1 := ⟨larger - 1, by omega⟩
    simp only [loopWithin, bind_apply, andThen]
    cases ran : round acc state with
    | ok step after =>
      cases step with
      | inl next =>
        have shorter := progress acc state next after ran
        exact ih larger next after (by omega) (by omega)
      | inr => rfl
    | err | fault => rfl

theorem loop_next {acc next : Acc} (ran : round acc state = .ok (.inl next) after) :
    loop measure round acc state = loop measure round next after := by
  have shorter := progress acc state next after ran
  rw [← loopWithin_enough progress next shorter, loop, loopWithin, bind_ok ran]

omit progress in
theorem loop_stop {acc : Acc} {result : Result} (ran : round acc state = .ok (.inr result) after) :
    loop measure round acc state = .ok result after := by
  rw [loop, loopWithin, bind_ok ran]
  rfl

omit progress in
theorem loop_fails {acc : Acc} (ran : round acc state = .err error after) :
    loop measure round acc state = .err error after := by
  rw [loop, loopWithin, bind_err ran]

/-- The accumulators and states at the start of the rounds of a loop. -/
inductive Reaches (round : Acc → Checked State Error (Acc ⊕ Result)) :
    Acc → State → Acc → State → Prop where
  | here (acc : Acc) (state : State) : Reaches round acc state acc state
  | next {acc middle last : Acc} {state after final : State}
      (ran : round acc state = .ok (.inl middle) after)
      (later : Reaches round middle after last final) : Reaches round acc state last final

omit progress in
theorem Reaches.invariant {kept : Acc → State → Prop} {acc last : Acc} {final : State}
    (reached : Reaches round acc state last final) (start : kept acc state)
    (step : ∀ acc state next after, kept acc state → round acc state = .ok (.inl next) after →
      kept next after) : kept last final := by
  induction reached with
  | here => exact start
  | next ran later ih => exact ih (step _ _ _ _ start ran)

theorem loop_induction {motive : Acc → State → Prop}
    (step : ∀ acc state, (∀ next after, round acc state = .ok (.inl next) after →
      motive next after) → motive acc state) (acc : Acc) (state : State) : motive acc state := by
  induction size : measure state using Nat.strong_induction_on generalizing acc state with
  | _ size ih =>
    apply step
    intro next after ran
    have shorter := progress acc state next after ran
    exact ih (measure after) (by omega) next after rfl

theorem loop_faults_iff (acc : Acc) (state : State) : Faults (loop measure round acc) state ↔
      ∃ last final, Reaches round acc state last final ∧ Faults (round last) final := by
  constructor
  · revert acc state
    refine loop_induction progress fun acc state ih => ?_
    intro faulted
    cases ran : round acc state with
    | ok step after =>
      cases step with
      | inl next =>
        rw [Faults, loop_next progress ran] at faulted
        obtain ⟨last, final, later, here⟩ := ih next after ran faulted
        exact ⟨last, final, .next ran later, here⟩
      | inr => simp [Faults, loop_stop ran] at faulted
    | err => simp [Faults, loop_fails ran] at faulted
    | fault fault => exact ⟨acc, state, .here acc state, fault, ran⟩
  · rintro ⟨last, final, reached, faulted⟩
    induction reached with
    | here =>
      obtain ⟨fault, ran⟩ := faulted
      refine ⟨fault, ?_⟩
      simp only [loop, loopWithin, bind_apply, andThen, ran]
    | next ran later ih =>
      rw [Faults, loop_next progress ran]
      exact ih faulted

theorem loop_ok_iff (acc : Acc) (state : State) {result : Result} {after : State} :
    loop measure round acc state = .ok result after ↔
      ∃ last final, Reaches round acc state last final ∧
        round last final = .ok (.inr result) after := by
  constructor
  · revert acc state
    refine loop_induction progress fun acc state ih => ?_
    intro returned
    cases ran : round acc state with
    | ok step middle =>
      cases step with
      | inl next =>
        rw [loop_next progress ran] at returned
        obtain ⟨last, final, later, ended⟩ := ih next middle ran returned
        exact ⟨last, final, .next ran later, ended⟩
      | inr =>
        rw [loop_stop ran] at returned
        obtain ⟨rfl, rfl⟩ := Outcome.ok.inj returned
        exact ⟨acc, state, .here acc state, ran⟩
    | err => simp [loop_fails ran] at returned
    | fault => simp [loop, loopWithin, bind_apply, andThen, ran] at returned
  · rintro ⟨last, final, reached, ended⟩
    induction reached with
    | here => exact loop_stop ended
    | next ran later ih =>
      rw [loop_next progress ran]
      exact ih ended

theorem Orderly.loop (orderly : ∀ acc, Orderly measure allowed (round acc)) :
    ∀ acc, Orderly measure allowed (Checked.loop measure round acc) := by
  refine loop_induction progress fun acc state ih => ?_
  cases ran : round acc state with
  | ok step after =>
    cases step with
    | inl next =>
      have before := (orderly acc).ok ran
      have rest := ih next after ran
      rw [loop_next progress ran]
      cases ended : Checked.loop measure round next after with
      | ok | err =>
        rw [ended] at rest
        exact le_trans rest before
      | fault =>
        rw [ended] at rest
        exact rest
    | inr =>
      rw [loop_stop ran]
      exact (orderly acc).ok ran
  | err =>
    rw [loop_fails ran]
    exact (orderly acc).err ran
  | fault fault =>
    simp only [Checked.loop, loopWithin, bind_apply, andThen, ran]
    exact (orderly acc).fault ran

omit progress in
theorem Paced.loop (brief : ∀ acc, Brief measure allowed (round acc))
    (acc : Acc) : Orderly measure allowed (Checked.loop measure round acc) :=
  Orderly.loop (fun acc state _ after returned => (brief acc).smaller state _ after returned rfl)
    (fun acc => (brief acc).orderly) acc

end

variable (items : List Value)

section

variable (measure : State → Nat) (stop : State → Bool) (item : Checked State Error Value)

def collectRound (items : List Value) : Checked State Error (List Value ⊕ List Value) := do
  if ← gets stop then pure (.inr items)
  else do
    let value ← item
    pure (.inl (items ++ [value]))

/-- `while !stop { items.push(item) }`, from the items there are. -/
def collectFrom (items : List Value) : Checked State Error (List Value) :=
  loop measure (collectRound stop item) items

def collectUntil : Checked State Error (List Value) := collectFrom measure stop item []

variable {measure} {stop} {item}

theorem advances_collectRound (consumes : Consumes measure item) (items : List Value) :
    Advances measure (collectRound stop item items) := by
  intro state next after returned
  rw [collectRound, bind_ok (gets_apply state stop)] at returned
  split at returned
  · cases returned
  · obtain ⟨value, middle, ran, ended⟩ := bind_eq_ok state after returned
    cases ended
    exact consumes state value _ ran

theorem Orderly.collectUntil (brisk : Brisk measure allowed item) :
    Orderly measure allowed (collectUntil measure stop item) := by
  have consumes : Consumes measure item :=
    fun state value after returned => brisk.smaller state value after returned trivial
  apply Orderly.loop (advances_collectRound consumes)
  intro items
  apply (orderly_gets stop).bind
  intro stopped
  exact Orderly.ite (orderly_pure _) (brisk.orderly.bind fun _ => orderly_pure _)

theorem collectRound_stop (stops : stop state = true) :
    collectRound stop item items state = .ok (.inr items) state := by
  rw [collectRound, bind_ok (gets_apply state stop), if_pos stops]
  rfl

theorem collectRound_next (goesOn : stop state = false) (ran : item state = .ok value after) :
    collectRound stop item items state = .ok (.inl (items ++ [value])) after := by
  rw [collectRound, bind_ok (gets_apply state stop), if_neg (by simp [goesOn]), bind_ok ran]
  rfl

theorem collectFrom_stop (stops : stop state = true) :
    collectFrom measure stop item items state = .ok items state :=
  loop_stop (collectRound_stop items stops)

theorem collectFrom_next (consumes : Consumes measure item) (items : List Value)
    (goesOn : stop state = false) (ran : item state = .ok value after) :
    collectFrom measure stop item items state =
      collectFrom measure stop item (items ++ [value]) after :=
  loop_next (advances_collectRound consumes) (collectRound_next items goesOn ran)

theorem collectFrom_fails (goesOn : stop state = false) (failed : item state = .err error after) :
    collectFrom measure stop item items state = .err error after := by
  apply loop_fails
  rw [collectRound, bind_ok (gets_apply state stop), if_neg (by simp [goesOn]), bind_err failed]

theorem collectRound_inl {items next : List Value}
    (ran : collectRound stop item items state = .ok (.inl next) after) :
    ∃ value, item state = .ok value after ∧ next = items ++ [value] := by
  rw [collectRound, bind_ok (gets_apply state stop)] at ran
  split_ifs at ran
  · simp at ran
  · obtain ⟨value, ended, same⟩ := map_eq_ok state after ran
    exact ⟨value, ended, Sum.inl.inj same⟩

theorem collectRound_inr {items values : List Value}
    (ran : collectRound stop item items state = .ok (.inr values) after) :
    stop state = true ∧ values = items ∧ after = state := by
  rw [collectRound, bind_ok (gets_apply state stop)] at ran
  split_ifs at ran with stopped
  · obtain ⟨same, here⟩ := Outcome.ok.inj ran
    exact ⟨stopped, (Sum.inr.inj same).symm, here.symm⟩
  · obtain ⟨value, ended, same⟩ := map_eq_ok state after ran
    simp at same

theorem collectUntil_invariant (consumes : Consumes measure item) {kept : List Value → State → Prop}
    (step : ∀ items state value after, kept items state → item state = .ok value after →
      kept (items ++ [value]) after)
    (start : kept [] state) {values : List Value}
    (returned : collectUntil measure stop item state = .ok values after) :
    kept values after ∧ stop after = true := by
  obtain ⟨last, final, reached, ended⟩ :=
    (loop_ok_iff (advances_collectRound consumes) [] state).mp returned
  have held : kept last final := by
    apply reached.invariant start
    intro items state next after held ran
    obtain ⟨value, read, rfl⟩ := collectRound_inl ran
    exact step items state value after held read
  obtain ⟨stopped, rfl, rfl⟩ := collectRound_inr ended
  exact ⟨held, stopped⟩

/-- What every item has, all collected items have. -/
theorem collectUntil_forall (consumes : Consumes measure item) {property : Value → Prop}
    (each : ∀ state value after, item state = .ok value after → property value)
    {values : List Value} (returned : collectUntil measure stop item state = .ok values after) :
    ∀ value ∈ values, property value := by
  refine (@collectUntil_invariant _ _ _ _ _ _ _ _ consumes
    (fun items _ => ∀ value ∈ items, property value) ?_ (by simp) _ returned).1
  intro items state value after held ran
  exact List.forall_mem_append.mpr ⟨held, by simpa using each state value after ran⟩

theorem Safe.collectUntil (consumes : Consumes measure item) (safe : Safe item) :
    Safe (collectUntil measure stop item) := by
  intro state faulted
  obtain ⟨items, final, _, faulted⟩ :=
    (loop_faults_iff (advances_collectRound consumes) [] state).mp faulted
  rw [collectRound, faults_gets_bind] at faulted
  split_ifs at faulted
  · exact safe_pure _ final faulted
  · exact safe final ((faults_bind_safe fun _ => safe_pure _).mp faulted)

end

end Checked
