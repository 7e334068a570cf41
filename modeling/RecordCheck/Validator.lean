import RecordCheck.Schema
import RecordCheck.Record
import RecordCheck.Report
import RecordCheck.Settings

/-!
# Validators

A validator checks records against a schema. Every field is checked on its own,
in the order of the schema, and the failures make the report. Meanwhile a trace
tells of each field whether it passed, and of each failure once more at the
failure level of the settings.
-/

namespace RecordCheck

/-- A schema with settings. -/
structure Validator where
  schema : Schema
  settings : Settings := {}

namespace Validator

/-- Where the events of a validation come from. -/
def target : String := "chainable_validator::schema::validator"

/-! ## What is told -/

/-- The span of the validation of a record. -/
def span (fields : Nat) : Span where
  severity := .debug
  target := target
  name := "validate_record"
  fields := [("fields", .count fields)]

/-- A field has passed. -/
def fieldPassed (key : String) : Event where
  severity := .debug
  target := target
  message := "field passed"
  fields := [("key", .string key)]

/-- A field has failed. -/
def fieldFailed (failure : Failure) : Event where
  severity := .debug
  target := target
  message := "field failed"
  fields := [("key", .string failure.key), ("code", .string failure.code)]

/-- The failure itself, told at a severity. -/
def notice (severity : Severity) (failure : Failure) : Event where
  severity := severity
  target := target
  message := failure.message
  fields :=
    [("key", .text failure.key), ("code", .string failure.code),
     ("parameter", .text failure.parameter.text),
     ("value", .text (detailedOption (failure.value.map Value.detailed)))]

/-- All fields are checked. -/
def recordValidated (failures : Nat) : Event where
  severity := .debug
  target := target
  message := "record validated"
  fields := [("failures", .count failures)]

/-- What is told about a failure at a failure level. -/
def notices (level : FailureLevel) (failure : Failure) : List Event :=
  match level.severity? with
  | some severity => [notice severity failure]
  | none => []

/-! ## Checking -/

/-- What has come of the fields checked so far, in their order. -/
structure Run where
  failures : List Failure := []
  events : List Event := []

variable {ρ : Type} [Record ρ]

/-- The run after one more field. -/
def checkField (validator : Validator) (record : ρ) (run : Run) (field : String × Pipeline) :
    Run :=
  let (key, pipeline) := field
  match (pipeline.validate key (Record.field? record key)).outcome with
  | .valid => { run with events := run.events ++ [fieldPassed key] }
  | .failed failure =>
    { failures := run.failures ++ [failure]
      events :=
        run.events ++ fieldFailed failure :: notices validator.settings.failureLevel failure }

/-- The run over all fields of the schema. -/
def run (validator : Validator) (record : ρ) : Run :=
  validator.schema.toList.foldl (validator.checkField record) {}

/-- The report on a record. -/
def validate (validator : Validator) (record : ρ) : Report where
  checked := validator.schema.size
  failures := (validator.run record).failures

/-- What is told while a record is checked. -/
def trace (validator : Validator) (record : ρ) : Trace :=
  let run := validator.run record
  .enter (span validator.schema.size) ::
    (run.events ++ [recordValidated run.failures.length]).map .event ++ [.exit]

/-- Whether a record passes. -/
def isValid (validator : Validator) (record : ρ) : Bool := (validator.validate record).passed

/-- The final state of one field with a value, if the schema has the field. -/
def validateField (validator : Validator) (key : String) (value : Option Value) :
    Option FieldState :=
  (validator.schema.get? key).map fun pipeline => pipeline.validate key value

end Validator

end RecordCheck
