import RecordCheck.Failure

/-!
# The state of a field

While the steps of a pipeline run, a field has a key, a value that may be
absent, and an outcome. The first failure is final: later ones change nothing.
-/

namespace RecordCheck

/-- Whether a field is valid so far, or how it failed. -/
inductive Outcome
  | valid
  | failed (failure : Failure)

namespace Outcome

/-- Whether two outcomes are equal. -/
def equal : Outcome → Outcome → Bool
  | .valid, .valid => true
  | .failed a, .failed b => a == b
  | _, _ => false

instance : BEq Outcome := ⟨equal⟩

end Outcome

/-- A field between two steps. -/
structure FieldState where
  key : String
  value : Option Value
  outcome : Outcome

namespace FieldState

/-- A field before the first step. -/
def start (key : String) (value : Option Value) : FieldState := ⟨key, value, .valid⟩

/-- Whether the field has not failed. -/
def isValid (state : FieldState) : Bool :=
  match state.outcome with
  | .valid => true
  | .failed _ => false

/-- The failure, if the field has failed. -/
def failure? (state : FieldState) : Option Failure :=
  match state.outcome with
  | .valid => none
  | .failed failure => some failure

/-- The value of a valid field, or the failure. -/
def result (state : FieldState) : Except Failure (Option Value) :=
  match state.outcome with
  | .valid => .ok state.value
  | .failed failure => .error failure

/-- Fails the field with its present value; a failed field stays as it is. -/
def fail (state : FieldState) (kind : FailureKind) (parameter : Parameter) : FieldState :=
  match state.outcome with
  | .valid => { state with outcome := .failed ⟨kind, state.key, state.value, parameter⟩ }
  | .failed _ => state

/-- Replaces the value; the outcome stays. -/
def withValue (state : FieldState) (value : Value) : FieldState :=
  { state with value := some value }

/-- Whether two states are equal; values are compared as values. -/
def equal (a b : FieldState) : Bool :=
  a.key == b.key && a.value == b.value && a.outcome == b.outcome

instance : BEq FieldState := ⟨equal⟩

@[simp] theorem key_fail (state : FieldState) (kind : FailureKind) (parameter : Parameter) :
    (state.fail kind parameter).key = state.key := by
  unfold fail; split <;> rfl

@[simp] theorem value_fail (state : FieldState) (kind : FailureKind) (parameter : Parameter) :
    (state.fail kind parameter).value = state.value := by
  unfold fail; split <;> rfl

/-- The first failure is final. -/
theorem fail_fail (state : FieldState) (kind other : FailureKind) (p q : Parameter) :
    (state.fail kind p).fail other q = state.fail kind p := by
  obtain ⟨key, value, outcome⟩ := state
  cases outcome <;> rfl

end FieldState

end RecordCheck
