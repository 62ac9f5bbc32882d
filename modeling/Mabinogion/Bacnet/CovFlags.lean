import Mabinogion.Bacnet.Commandable
import Mathlib.Algebra.Order.Ring.Abs
import Mathlib.Algebra.Order.Ring.Rat

/-!
# Flags of changed values

An analog object keeps the value that was last reported and a flag for a change
by the increment or more. The classes differ in what a new value is compared
with. Numbers are taken as exact here.
-/

namespace Mabinogion.Bacnet

structure CovTracked (Object : Type) where
  object : Object
  covIncrement : ℚ
  lastCovValue : ℚ
  covChanged : Bool

structure CovClass (Object Update : Type) where
  presentValue : Object → ℚ
  update : Object → Update → Object
  /-- What a new value is compared with. -/
  base : CovTracked Object → ℚ

inductive CovCall (Update : Type) where
  | update (update : Update)
  | resetCov

/-- A relinquished slot is commanded to hold nothing. -/
inductive OutputUpdate where
  | slot (slot : Fin 16) (entry : Option ℚ)
  | relinquishDefault (value : ℚ)

namespace CovClass

/-- `AnalogInput::set_value` compares with the value last reported. -/
def analogInput : CovClass (Point ℚ) ℚ where
  presentValue := Point.presentValue
  update point value := { point with presentValue := value }
  base := CovTracked.lastCovValue

/-- `AnalogValue::write_property` compares with the value before. -/
def analogValue : CovClass (Point ℚ) ℚ :=
  { analogInput with base := fun tracked => tracked.object.presentValue }

/-- So does `AnalogOutput::update_present_value`, with the difference the other way round. -/
def analogOutput : CovClass (Output ℚ) OutputUpdate where
  presentValue := Output.presentValue
  update output
    | .slot slot entry => output.command slot entry
    | .relinquishDefault value => { output with relinquishDefault := value }.updatePresentValue
  base tracked := tracked.object.presentValue

variable {Object Update : Type} (kind : CovClass Object Update)
variable (tracked : CovTracked Object)

def step : CovCall Update → Unit × CovTracked Object
  | .update update =>
    let object := kind.update tracked.object update
    let far := |kind.presentValue object - kind.base tracked| ≥ tracked.covIncrement
    ((), { tracked with object, covChanged := tracked.covChanged || decide far })
  | .resetCov =>
    ((), { tracked with lastCovValue := kind.presentValue tracked.object, covChanged := false })

def checkCov : Bool := tracked.covChanged

/-- A value that is an increment away from the reported one is flagged. -/
def Flagged : Prop :=
  |kind.presentValue tracked.object - tracked.lastCovValue| ≥ tracked.covIncrement →
    checkCov tracked = true

/-- A value that is far from the reported one and near to the one it is compared with. -/
def Creeps : CovCall Update → Prop
  | .update update =>
    let value := kind.presentValue (kind.update tracked.object update)
    tracked.covChanged = false ∧ |value - tracked.lastCovValue| ≥ tracked.covIncrement ∧
      ¬|value - kind.base tracked| ≥ tracked.covIncrement
  | .resetCov => False

variable (object : Object) (covIncrement : ℚ) (calls : List (CovCall Update))

def start : CovTracked Object := ⟨object, covIncrement, kind.presentValue object, false⟩

def MissesNone : Prop :=
  ∀ reached ∈ Transducer.states kind.step (kind.start object covIncrement) calls,
    kind.Flagged reached

def NeverCreeps : Prop :=
  ∀ arrival ∈ Transducer.arrivals kind.step (kind.start object covIncrement) calls,
    ¬kind.Creeps arrival.1 arrival.2

variable {kind covIncrement}

theorem flagged_of_reported {tracked : CovTracked Object} (positive : 0 < tracked.covIncrement)
    (reported : tracked.lastCovValue = kind.presentValue tracked.object) :
    kind.Flagged tracked := by
  intro far
  rw [reported, sub_self, abs_zero] at far
  exact absurd far (not_le.mpr positive)

/-- Only what creeps stays unflagged. -/
theorem missesNone_iff (positive : 0 < covIncrement) :
    kind.MissesNone object covIncrement calls ↔ kind.NeverCreeps object covIncrement calls := by
  have preserved (tracked : CovTracked Object) (call : CovCall Update)
      (above : 0 < tracked.covIncrement) : 0 < (kind.step tracked call).2.covIncrement := by
    cases call with
    | update | resetCov => exact above
  have kept (tracked : CovTracked Object) (call : CovCall Update)
      (above : 0 < tracked.covIncrement) (_ : kind.Flagged tracked) :
      kind.Flagged (kind.step tracked call).2 ↔ ¬kind.Creeps tracked call := by
    cases call with
    | update update =>
      simp only [step, Creeps, Flagged, checkCov, not_and, not_not]
      cases tracked.covChanged <;> simp
    | resetCov => exact iff_of_true (flagged_of_reported above rfl) not_false
  rw [MissesNone, Transducer.states_hold_iff _ preserved kept _ _ positive, and_iff_right]
  · rfl
  · exact flagged_of_reported positive rfl

/-- An input misses no change. A value object and an output miss those that creep. -/
theorem changes_flagged_iff (point : Point ℚ) (output : Output ℚ) (covIncrement : ℚ)
    (positive : 0 < covIncrement) (calls : List (CovCall ℚ))
    (outputCalls : List (CovCall OutputUpdate)) :
    analogInput.MissesNone point covIncrement calls ∧
    (analogValue.MissesNone point covIncrement calls ↔
      analogValue.NeverCreeps point covIncrement calls) ∧
    (analogOutput.MissesNone output covIncrement outputCalls ↔
      analogOutput.NeverCreeps output covIncrement outputCalls) := by
  refine ⟨?_, missesNone_iff _ _ positive, missesNone_iff _ _ positive⟩
  rw [missesNone_iff _ _ positive]
  rintro ⟨tracked, update | _⟩ _ creeps
  · exact creeps.2.2 creeps.2.1
  · exact creeps

def zero : Point ℚ := { (AnalogValue.new 1 "AV").toObjectFields with presentValue := 0 }

theorem jump_flagged : analogInput.MissesNone zero 1 [.update 2, .resetCov] :=
  (changes_flagged_iff zero { zero with
    relinquishDefault := 0, priorityArray := Vector.replicate 16 none } 1 one_pos _ []).1

/-- Two small steps are never compared with where they began. -/
theorem creeping_value_missed :
    ¬analogValue.MissesNone zero 1 [.update (3 / 5), .update (6 / 5)] := by
  intro flagged
  have last := flagged _ (.tail _ (.tail _ (.head _)))
  exact absurd (last (by decide +kernel)) (by decide +kernel)

end CovClass

end Mabinogion.Bacnet
