import RecordCheck.Proofs.Validator.FieldResults

/-!
# What a validation tells

A validation tells of every field in turn, and of every failure once more at the
failure level of the settings. `Validator.account` says what is told of one field
that fails in a given way or passes, and the trace of a validation is the accounts
of the registered fields, in their order, between the ends of one span
(`Validator.trace_eq_accounts`).

* `Validator.events_checkField` is the account of one more field, and
  `Validator.events_foldl` follows it along the schema.
* `Signal.isNotice` tells the notices of failures from all else by their fields.
  Without them the trace is the one of the level `off`
  (`Validator.filter_isNotice_trace`), so the level decides nothing but notices.
-/

namespace RecordCheck

namespace Validator

/-! ## Accounts of single fields -/

/-- What is told of a field at a failure level: that it has passed, or that it has failed and,
unless failures are told at no severity, the failure itself. -/
def account (level : FailureLevel) (key : String) : Option Failure → List Event
  | none => [⟨.debug, target, "field passed", [("key", .string key)]⟩]
  | some failure =>
    ⟨.debug, target, "field failed", [("key", .string key), ("code", .string failure.code)]⟩ ::
      level.severity?.toList.map fun severity =>
        ⟨severity, target, failure.message,
          [("key", .text failure.key), ("code", .string failure.code),
           ("parameter", .text failure.parameter.text),
           ("value", .text (detailedOption (failure.value.map Value.detailed)))]⟩

variable {ρ : Type} [Record ρ] (validator : Validator) (record : ρ)

theorem notices_eq (level : FailureLevel) (failure : Failure) :
    notices level failure =
      level.severity?.toList.map fun severity => notice severity failure := by
  unfold notices
  cases level.severity? <;> rfl

theorem events_checkField (run : Run) (key : String) (pipeline : Pipeline) :
    (validator.checkField record run (key, pipeline)).events =
      run.events ++ account validator.settings.failureLevel key
        (pipeline.validate key (Record.field? record key)).failure? := by
  have keyed := pipeline.keyed_validate key (Record.field? record key)
  unfold checkField FieldState.failure?
  dsimp only
  cases outcome : (pipeline.validate key (Record.field? record key)).outcome with
  | valid => rfl
  | failed failure =>
    dsimp only
    rw [notices_eq, fieldFailed, keyed.2 failure outcome]
    rfl

theorem events_foldl (fields : List (String × Pipeline)) (run : Run) :
    (fields.foldl (validator.checkField record) run).events =
      run.events ++ fields.flatMap fun field =>
        account validator.settings.failureLevel field.1
          (field.2.validate field.1 (Record.field? record field.1)).failure? := by
  induction fields generalizing run with
  | nil => exact (List.append_nil _).symm
  | cons field rest ih =>
    obtain ⟨key, pipeline⟩ := field
    rw [List.foldl_cons, ih, events_checkField, List.append_assoc, List.flatMap_cons]

/-! ## The whole trace -/

/-- What is told of the fields is the accounts of the registered keys in their order. -/
theorem events_run :
    (validator.run record).events =
      validator.schema.keys.flatMap fun key =>
        account validator.settings.failureLevel key
          ((validator.validate record).failureFor? key) := by
  have folded : (validator.run record).events = _ :=
    validator.events_foldl record validator.schema.toList {}
  rw [folded, Schema.keys, OrderedMap.keys, List.flatMap_map]
  refine List.flatMap_congr fun field member => ?_
  rw [validator.failureFor?_validate record,
    validator.fieldFailure?_of_get? record (Schema.get?_of_mem member)]

theorem trace_eq_accounts :
    validator.trace record =
      .enter ⟨.debug, target, "validate_record",
          [("fields", .count validator.schema.keys.length)]⟩ ::
        ((validator.schema.keys.flatMap fun key =>
            account validator.settings.failureLevel key
              ((validator.validate record).failureFor? key)) ++
          [Event.mk .debug target "record validated"
            [("failures", .count (validator.validate record).failures.length)]]).map .event ++
        [.exit] := by
  unfold trace
  dsimp only
  rw [events_run, span, Schema.size, OrderedMap.size_eq]
  rfl

end Validator

/-! ## Notices -/

/-- The event tells a failure at the failure level: it has the fields of such events. -/
def Event.isNotice (event : Event) : Bool :=
  event.fields.map Prod.fst = ["key", "code", "parameter", "value"]

/-- The signal is a notice of a failure. -/
def Signal.isNotice : Signal → Bool
  | .event told => told.isNotice
  | _ => false

namespace Validator

/-- Without its notices the account of a field is the one at the level `off`. -/
theorem filter_isNotice_account (level : FailureLevel) (key : String)
    (failure? : Option Failure) :
    (account level key failure?).filter (fun event => !event.isNotice) =
      account .off key failure? := by
  cases failure? with
  | none => rfl
  | some failure =>
    -- The first event stays, whatever the level; what follows it are notices.
    cases level <;> rfl

variable {ρ : Type} [Record ρ] (schema : Schema) (record : ρ)

/-- The settings have no influence on the report. -/
theorem validate_settings (settings other : Settings) :
    validate ⟨schema, settings⟩ record = validate ⟨schema, other⟩ record := by
  have failures : (validate ⟨schema, settings⟩ record).failures =
      (validate ⟨schema, other⟩ record).failures := by
    rw [failures_validate, failures_validate]
    rfl
  exact congrArg (Report.mk schema.size) failures

/-- Without its notices the trace is the one at the level `off`. -/
theorem filter_isNotice_trace (level : FailureLevel) :
    (trace ⟨schema, ⟨level⟩⟩ record).filter (fun signal => !signal.isNotice) =
      trace ⟨schema, ⟨.off⟩⟩ record := by
  have fields : ∀ report : Report,
      (schema.keys.flatMap fun key => account level key (report.failureFor? key)).filter
          (fun event => !event.isNotice) =
        schema.keys.flatMap fun key => account .off key (report.failureFor? key) := by
    intro report
    rw [List.filter_flatMap]
    exact List.flatMap_congr fun key _ => filter_isNotice_account level key _
  have told : ∀ events : List Event,
      (events.map Signal.event).filter (fun signal => !signal.isNotice) =
        (events.filter fun event => !event.isNotice).map .event :=
    fun _ => List.filter_map
  rw [trace_eq_accounts, trace_eq_accounts, validate_settings schema record ⟨level⟩ ⟨.off⟩,
    List.filter_append, List.filter_cons_of_pos rfl, told, List.filter_append, fields]
  rfl

end Validator

/-! ## Traces and reports -/

/-- Severities are named as the levels are, in capitals; there is none for `off`. -/
theorem FailureLevel.severity?_eq_some_iff {level : FailureLevel} {severity : Severity} :
    level.severity? = some severity ↔ severity.name.toLower = level.name := by
  cases level <;> cases severity <;> decide +kernel

/-- The trace of a validation tells the report, and the failure level decides nothing else than
whether and at which severity failures are told.

Inside one span that counts the registered keys, every key is accounted for in its order: that
its field has passed, or that it has failed and then, unless the level is `off`, the failure
itself once, at the severity that the level names. The failures are those of the report, and
their number ends the trace. At another level the report is the same, and so is the trace but
for the notices of failures; the level `off` has none of these. -/
theorem Validator.trace_tells_report {ρ : Type} [Record ρ] (schema : Schema) (record : ρ)
    (level : FailureLevel) :
    let report := Validator.validate ⟨schema, ⟨level⟩⟩ record
    let trace (level : FailureLevel) := Validator.trace ⟨schema, ⟨level⟩⟩ record
    let quiet (level : FailureLevel) := (trace level).filter fun signal => !signal.isNotice
    trace level =
        .enter ⟨.debug, target, "validate_record", [("fields", .count schema.keys.length)]⟩ ::
          ((schema.keys.flatMap fun key => account level key (report.failureFor? key)) ++
            [Event.mk .debug target "record validated"
              [("failures", .count report.failures.length)]]).map .event ++
          [.exit] ∧
      (∀ severity, level.severity? = some severity ↔ severity.name.toLower = level.name) ∧
      report.failures = schema.keys.filterMap report.failureFor? ∧
      (∀ key, report.failureFor? key = (schema.get? key).bind fun pipeline =>
        (pipeline.validate key (Record.field? record key)).failure?) ∧
      quiet level = trace .off ∧
      ∀ other : FailureLevel,
        Validator.validate ⟨schema, ⟨other⟩⟩ record = report ∧ quiet other = quiet level := by
  intro report trace quiet
  have finds : ∀ key, report.failureFor? key = Validator.fieldFailure? ⟨schema, ⟨level⟩⟩ record key :=
    Validator.failureFor?_validate ⟨schema, ⟨level⟩⟩ record
  have silent : ∀ level, quiet level = trace .off :=
    Validator.filter_isNotice_trace schema record
  refine ⟨Validator.trace_eq_accounts ⟨schema, ⟨level⟩⟩ record,
    fun severity => FailureLevel.severity?_eq_some_iff, ?_, fun key => ?_, silent level,
    fun other => ⟨Validator.validate_settings schema record ⟨other⟩ ⟨level⟩,
      (silent other).trans (silent level).symm⟩⟩
  · rw [funext finds]
    exact Validator.failures_validate ⟨schema, ⟨level⟩⟩ record
  · rw [finds, Validator.fieldFailure?, Validator.validateField, Option.bind_map]
    rfl

/-- A truth value in place of a number, with failures told as information. -/
example :
    Validator.trace ⟨.ofList [("age", Builder.number.pipeline)], ⟨.info⟩⟩
        (Value.object [("age", .boolean true)]) =
      [.enter ⟨.debug, Validator.target, "validate_record", [("fields", .count 1)]⟩,
       .event ⟨.debug, Validator.target, "field failed",
         [("key", .string "age"), ("code", .string "type")]⟩,
       .event ⟨.info, Validator.target, "Incorrect type on age, should be number.",
         [("key", .text "age"), ("code", .string "type"), ("parameter", .text "number"),
          ("value", .text "Some(Bool(true))")]⟩,
       .event ⟨.debug, Validator.target, "record validated", [("failures", .count 1)]⟩,
       .exit] := by
  decide +kernel

end RecordCheck
