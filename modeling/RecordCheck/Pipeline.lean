import RecordCheck.Rule.Basic
import RecordCheck.Value.Text

/-!
# Pipelines

A pipeline checks one field: whether it has to be present, and then the steps in
order. Steps act on valid fields with a present value only, so the first failure
ends a run and an absent value passes every step.
-/

namespace RecordCheck

/-! ## Steps -/

/-- A step checks the value or replaces it. -/
inductive Step
  | check (rule : Rule)
  | replace (transform : Transform)

namespace Step

/-- The effect of the step on a present value: another value, or a failure. -/
def act (step : Step) (state : FieldState) (value : Value) : FieldState :=
  match step with
  | .check rule => if rule.check value then state else state.fail rule.kind rule.parameter
  | .replace transform =>
    match transform.replace? value with
    | some next => state.withValue next
    | none => state

/-- The field after the step; a failed field and an absent value stay as they are. -/
def apply (step : Step) (state : FieldState) : FieldState :=
  match state.outcome, state.value with
  | .valid, some value => step.act state value
  | _, _ => state

/-- Whether the step checks the type of the value. -/
def checksType : Step → Bool
  | .check rule => rule.kind = .type
  | .replace _ => false

/-- The detailed text of the step. -/
def detailed : Step → String
  | .check rule => detailedCall "Check" rule.label
  | .replace transform => detailedCall "Rewrite" transform.label

/-- Steps do nothing to an absent value. -/
theorem apply_of_value_eq_none (step : Step) {state : FieldState} (absent : state.value = none) :
    step.apply state = state := by
  unfold apply; rw [absent]; split
  · contradiction
  · rfl

/-- Steps do nothing to a failed field. -/
theorem apply_of_failed (step : Step) {state : FieldState} {failure : Failure}
    (failed : state.outcome = .failed failure) : step.apply state = state := by
  unfold apply; rw [failed]

end Step

/-! ## Pipelines -/

/-- The checks of one field. -/
structure Pipeline where
  required : Bool := false
  steps : List Step := []

namespace Pipeline

/-- The pipeline that accepts everything. -/
def empty : Pipeline := {}

instance : Inhabited Pipeline := ⟨empty⟩

/-- The pipeline that also rejects an absent value. -/
def markRequired (pipeline : Pipeline) : Pipeline := { pipeline with required := true }

/-- The pipeline with a step after all others. -/
def append (pipeline : Pipeline) (step : Step) : Pipeline :=
  { pipeline with steps := pipeline.steps ++ [step] }

/-- The pipeline with a step before all others. -/
def prepend (pipeline : Pipeline) (step : Step) : Pipeline :=
  { pipeline with steps := step :: pipeline.steps }

/-- The steps with one more behind the first that checks the type, or at the end. -/
def insertAfterType (steps : List Step) (step : Step) : List Step :=
  match steps with
  | [] => [step]
  | first :: rest =>
    if first.checksType then first :: step :: rest else first :: insertAfterType rest step

/-- The pipeline with a step directly behind its first check of the type. -/
def refine (pipeline : Pipeline) (step : Step) : Pipeline :=
  { pipeline with steps := insertAfterType pipeline.steps step }

/-- The field before the steps: failed already if a required value is absent. -/
def start (pipeline : Pipeline) (key : String) (value : Option Value) : FieldState :=
  let state := FieldState.start key value
  if pipeline.required && value.isNone then state.fail .required .none else state

/-- The final state of a field with this key and value. -/
def validate (pipeline : Pipeline) (key : String) (value : Option Value) : FieldState :=
  pipeline.steps.foldl (fun state step => step.apply state) (pipeline.start key value)

/-- The detailed text of the pipeline. -/
def detailed (pipeline : Pipeline) : String :=
  detailedRecord "Pipeline"
    [("required", if pipeline.required then "true" else "false"),
     ("steps", "[" ++ commaSeparated (pipeline.steps.map Step.detailed) ++ "]")]

end Pipeline

end RecordCheck
