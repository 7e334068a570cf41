import Mathlib.Data.List.Nodup
import RecordCheck.Builder
import RecordCheck.Proofs.Pipeline.Meaning
import RecordCheck.Validator

/-!
# Reports and single fields

`Validator.validate` folds the fields of a schema into a report, and
`Validator.validateField` checks one field alone. The report is exactly what the
single fields give, in the order of the schema (`Validator.report_eq_fields`).

* `FieldState.Keyed` holds along every run of a pipeline, so a failure carries
  the key of its field.
* `Validator.failures_validate` takes the fold apart into the fields.
* The keys of a schema are distinct, so a key finds its own failure in a report.
-/

namespace RecordCheck

/-! ## The key of a state -/

/-- The state is about the field with this key, and so is its failure if it has one. -/
def FieldState.Keyed (key : String) (state : FieldState) : Prop :=
  state.key = key ∧ ∀ failure, state.outcome = .failed failure → failure.key = key

section Keyed

variable {key : String} {state : FieldState}

theorem FieldState.Keyed.start (key : String) (value : Option Value) :
    (FieldState.start key value).Keyed key :=
  ⟨rfl, nofun⟩

theorem FieldState.Keyed.fail (keyed : state.Keyed key) (kind : FailureKind)
    (parameter : Parameter) : (state.fail kind parameter).Keyed key := by
  refine ⟨(state.key_fail kind parameter).trans keyed.1, fun failure failed => ?_⟩
  unfold FieldState.fail at failed
  split at failed
  · cases failed
    exact keyed.1
  · exact keyed.2 failure failed

theorem FieldState.Keyed.withValue (keyed : state.Keyed key) (value : Value) :
    (state.withValue value).Keyed key :=
  keyed

theorem Step.keyed_apply (step : Step) (keyed : state.Keyed key) :
    (step.apply state).Keyed key := by
  unfold Step.apply
  split
  · rename_i value _ _
    cases step with
    | check rule =>
      show (if rule.check value then state else state.fail rule.kind rule.parameter).Keyed key
      split
      · exact keyed
      · exact keyed.fail rule.kind rule.parameter
    | replace transform =>
      cases replaced : transform.replace? value with
      | none => simpa only [Step.act, replaced] using keyed
      | some next => simpa only [Step.act, replaced] using keyed.withValue next
  · exact keyed

theorem Step.keyed_run (steps : List Step) (keyed : state.Keyed key) :
    (Step.run steps state).Keyed key := by
  induction steps generalizing state with
  | nil => exact keyed
  | cons step rest ih => exact ih (step.keyed_apply keyed)

/-- A pipeline never changes the key of a field. -/
theorem Pipeline.keyed_validate (pipeline : Pipeline) (key : String) (value : Option Value) :
    (pipeline.validate key value).Keyed key := by
  refine Step.keyed_run pipeline.steps ?_
  unfold Pipeline.start
  split
  · exact (FieldState.Keyed.start key value).fail .required .none
  · exact .start key value

end Keyed

theorem FieldState.failure?_eq_some_iff {state : FieldState} {failure : Failure} :
    state.failure? = some failure ↔ state.outcome = .failed failure := by
  unfold FieldState.failure?
  cases state.outcome <;> simp

theorem FieldState.failure?_eq_none_iff {state : FieldState} :
    state.failure? = none ↔ state.isValid = true := by
  unfold FieldState.failure? FieldState.isValid
  cases state.outcome <;> simp

/-! ## Results that carry their key -/

section Own

variable {α β : Type} {f : α → Option β} {keyOf : β → α} {keys : List α}

/-- Results that carry distinct keys are distinct. -/
theorem nodup_map_filterMap (own : ∀ key result, f key = some result → keyOf result = key)
    (unique : keys.Nodup) : ((keys.filterMap f).map keyOf).Nodup := by
  rw [List.map_filterMap]
  refine List.Nodup.filterMap ?_ unique
  intro key other result found otherFound
  obtain ⟨first, firstFound, rfl⟩ := Option.map_eq_some_iff.mp found
  obtain ⟨second, secondFound, same⟩ := Option.map_eq_some_iff.mp otherFound
  rw [← own key first firstFound, ← own other second secondFound, same]

/-- The first result of a key is the one that the key gives. -/
theorem find?_filterMap_key [DecidableEq α]
    (own : ∀ key result, f key = some result → keyOf result = key)
    {key : α} (unknown : key ∉ keys → f key = none) :
    (keys.filterMap f).find? (fun result => keyOf result = key) = f key := by
  have fromKey : ∀ result ∈ keys.filterMap f, keyOf result = key → f key = some result := by
    intro result member same
    obtain ⟨other, -, found⟩ := List.mem_filterMap.mp member
    rw [← same, own other result found]
    exact found
  cases found : (keys.filterMap f).find? (fun result => keyOf result = key) with
  | some result =>
    have same : keyOf result = key := by simpa using List.find?_some found
    exact (fromKey result (List.mem_of_find?_eq_some found) same).symm
  | none =>
    cases given : f key with
    | none => rfl
    | some result =>
      have present : key ∈ keys := by
        by_contra absent
        cases given.symm.trans (unknown absent)
      have member : result ∈ keys.filterMap f := List.mem_filterMap.mpr ⟨key, present, given⟩
      have missed := List.find?_eq_none.mp found result member
      exact absurd (decide_eq_true (own key result given)) missed

end Own

/-! ## Schemas -/

theorem Schema.nodup_keys (schema : Schema) : schema.keys.Nodup := schema.fields.unique

theorem Schema.get?_of_mem {schema : Schema} {key : String} {pipeline : Pipeline}
    (member : (key, pipeline) ∈ schema.toList) : schema.get? key = some pipeline :=
  OrderedMap.get?_eq_some_iff.mpr member

theorem Schema.mem_of_get? {schema : Schema} {key : String} {pipeline : Pipeline}
    (found : schema.get? key = some pipeline) : (key, pipeline) ∈ schema.toList :=
  OrderedMap.get?_eq_some_iff.mp found

theorem Schema.get?_eq_none_iff {schema : Schema} {key : String} :
    schema.get? key = none ↔ key ∉ schema.keys :=
  OrderedMap.get?_eq_none_iff

/-! ## The report -/

variable {ρ : Type} [Record ρ]

/-- How the field of a record with this key fails when it is checked alone, if it does. -/
def Validator.fieldFailure? (validator : Validator) (record : ρ) (key : String) : Option Failure :=
  (validator.validateField key (Record.field? record key)).bind FieldState.failure?

/-- Every registered field of the record passes its pipeline. -/
def Validator.AllPass (validator : Validator) (record : ρ) : Prop :=
  ∀ key pipeline, validator.schema.get? key = some pipeline →
    (pipeline.validate key (Record.field? record key)).isValid = true

section Report

variable (validator : Validator) (record : ρ)

theorem Validator.fieldFailure?_of_get? {key : String} {pipeline : Pipeline}
    (found : validator.schema.get? key = some pipeline) :
    validator.fieldFailure? record key =
      (pipeline.validate key (Record.field? record key)).failure? := by
  rw [Validator.fieldFailure?, Validator.validateField, found]
  rfl

theorem Validator.fieldFailure?_of_absent {key : String} (absent : key ∉ validator.schema.keys) :
    validator.fieldFailure? record key = none := by
  rw [Validator.fieldFailure?, Validator.validateField, Schema.get?_eq_none_iff.mpr absent]
  rfl

/-- The failure of a field carries the key of the field. -/
theorem Validator.key_fieldFailure? {key : String} {failure : Failure}
    (failed : validator.fieldFailure? record key = some failure) : failure.key = key := by
  cases found : validator.schema.get? key with
  | none =>
    rw [validator.fieldFailure?_of_absent record (Schema.get?_eq_none_iff.mp found)] at failed
    cases failed
  | some pipeline =>
    rw [validator.fieldFailure?_of_get? record found] at failed
    exact (pipeline.keyed_validate key _).2 failure (FieldState.failure?_eq_some_iff.mp failed)

theorem Validator.failures_checkField (run : Validator.Run) (key : String) (pipeline : Pipeline) :
    (validator.checkField record run (key, pipeline)).failures =
      run.failures ++ (pipeline.validate key (Record.field? record key)).failure?.toList := by
  unfold Validator.checkField FieldState.failure?
  dsimp only
  cases (pipeline.validate key (Record.field? record key)).outcome with
  | valid => exact (List.append_nil _).symm
  | failed failure => rfl

theorem Validator.failures_foldl (fields : List (String × Pipeline)) (run : Validator.Run) :
    (fields.foldl (validator.checkField record) run).failures =
      run.failures ++ fields.filterMap fun field =>
        (field.2.validate field.1 (Record.field? record field.1)).failure? := by
  induction fields generalizing run with
  | nil => exact (List.append_nil _).symm
  | cons field rest ih =>
    obtain ⟨key, pipeline⟩ := field
    rw [List.foldl_cons, ih, Validator.failures_checkField, List.append_assoc, List.filterMap_cons]
    dsimp only
    cases (pipeline.validate key (Record.field? record key)).failure? with
    | none => rw [Option.toList_none, List.nil_append]
    | some failure => rw [Option.toList_some, List.singleton_append]

/-- The failures of a record are those of its registered fields, in the order of the keys. -/
theorem Validator.failures_validate :
    (validator.validate record).failures =
      validator.schema.keys.filterMap (validator.fieldFailure? record) := by
  have folded : (validator.validate record).failures = _ :=
    validator.failures_foldl record validator.schema.toList {}
  rw [folded, Schema.keys, OrderedMap.keys, List.filterMap_map]
  refine List.filterMap_congr fun field member => ?_
  exact (validator.fieldFailure?_of_get? record (Schema.get?_of_mem member)).symm

/-- The report finds for a key what the field of the key gives. -/
theorem Validator.failureFor?_validate (key : String) :
    (validator.validate record).failureFor? key = validator.fieldFailure? record key := by
  rw [Report.failureFor?, validator.failures_validate record]
  exact find?_filterMap_key (fun _ _ => validator.key_fieldFailure? record)
    (validator.fieldFailure?_of_absent record)

theorem Validator.isValid_iff : validator.isValid record = true ↔ validator.AllPass record := by
  unfold Validator.isValid Report.passed
  rw [validator.failures_validate record, List.isEmpty_iff, List.filterMap_eq_nil_iff]
  constructor
  · intro passes key pipeline found
    have member : key ∈ validator.schema.keys :=
      List.mem_map_of_mem (Schema.mem_of_get? found)
    rw [← FieldState.failure?_eq_none_iff, ← validator.fieldFailure?_of_get? record found]
    exact passes key member
  · intro all key member
    obtain ⟨⟨key, pipeline⟩, entry, rfl⟩ := List.mem_map.mp member
    have found := Schema.get?_of_mem entry
    rw [validator.fieldFailure?_of_get? record found, FieldState.failure?_eq_none_iff]
    exact all key pipeline found

theorem Report.member?_passed (report : Report) :
    report.toJson.member? "passed" = some (.boolean report.passed) := by
  unfold Report.toJson Json.ofMembers Json.member? SortedEntries.ofList
  simp only [List.foldl_cons, List.foldl_nil]
  rw [SortedEntries.get?_insert_of_ne (by decide), SortedEntries.get?_insert_self]

theorem Report.result_eq_ok_iff (report : Report) :
    report.result = .ok () ↔ report.passed = true := by
  unfold Report.result
  split <;> simp [*]

end Report

/-- The report on a record is what its registered fields give one by one.

Its failures are those of the single fields in the order of registration, each under its own
key and no key twice; it counts every registered key as checked; it passes, in every one of its
views, exactly if every registered field passes its pipeline; and it finds for a key what the
field of the key gives, which is nothing if the key is not registered. -/
theorem Validator.report_eq_fields (validator : Validator) (record : ρ) :
    (validator.validate record).failures =
        validator.schema.keys.filterMap (validator.fieldFailure? record) ∧
      (∀ key failure, validator.fieldFailure? record key = some failure → failure.key = key) ∧
      ((validator.validate record).failures.map Failure.key).Nodup ∧
      (validator.validate record).checked = validator.schema.keys.length ∧
      ((validator.validate record).passed = true ↔ validator.AllPass record) ∧
      (validator.isValid record = true ↔ validator.AllPass record) ∧
      ((validator.validate record).result = .ok () ↔ validator.AllPass record) ∧
      (∃ passed, (validator.validate record).toJson.member? "passed" = some (.boolean passed) ∧
        (passed = true ↔ validator.AllPass record)) ∧
      ∀ key,
        (validator.validate record).failureFor? key = validator.fieldFailure? record key ∧
        (key ∉ validator.schema.keys → (validator.validate record).failureFor? key = none) := by
  have own : ∀ key failure, validator.fieldFailure? record key = some failure →
      failure.key = key := fun key failure => validator.key_fieldFailure? record
  have passes := validator.isValid_iff record
  have finds : ∀ key,
      (validator.validate record).failureFor? key = validator.fieldFailure? record key := by
    intro key
    rw [Report.failureFor?, validator.failures_validate record]
    exact find?_filterMap_key own (validator.fieldFailure?_of_absent record)
  refine ⟨validator.failures_validate record, own, ?_, validator.schema.fields.size_eq, passes,
    passes, ?_, ⟨_, Report.member?_passed _, passes⟩, fun key => ⟨finds key, ?_⟩⟩
  · rw [validator.failures_validate record]
    exact nodup_map_filterMap own validator.schema.nodup_keys
  · rw [Report.result_eq_ok_iff]
    exact passes
  · intro absent
    rw [finds key, validator.fieldFailure?_of_absent record absent]

/-- A validator of two fields. -/
def Validator.nameAndAge : Validator where
  schema := .ofList
    [("name", Builder.string.pipeline.markRequired), ("age", Builder.number.pipeline)]

/-- Of a record without a name the report tells that it is missing, and nothing of other keys. -/
theorem Validator.report_eq_fields_nameAndAge :
    nameAndAge.fieldFailure? (Value.object [("age", .boolean true)]) "age" =
        some ⟨.type, "age", some (.boolean true), .expected "number"⟩ ∧
      "height" ∉ nameAndAge.schema.keys ∧
      (nameAndAge.validate (Value.object [("age", .boolean true)])).failures =
        [⟨.required, "name", none, .none⟩,
         ⟨.type, "age", some (.boolean true), .expected "number"⟩] ∧
      (nameAndAge.validate (Value.object [("age", .boolean true)])).failureFor? "height" = none ∧
      (⟨.type, "age", some (.boolean true), .expected "number"⟩ : Failure).key = "age" := by
  have failed : nameAndAge.fieldFailure? (Value.object [("age", .boolean true)]) "age" =
      some ⟨.type, "age", some (.boolean true), .expected "number"⟩ := rfl
  have absent : "height" ∉ nameAndAge.schema.keys := by decide
  obtain ⟨listed, own, -, -, -, -, -, -, finds⟩ :=
    nameAndAge.report_eq_fields (Value.object [("age", .boolean true)])
  exact ⟨failed, absent, listed, (finds "height").2 absent, own "age" _ failed⟩

end RecordCheck
