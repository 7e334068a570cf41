import RecordCheck.Proofs.Builder.Fixpoint
import RecordCheck.Proofs.Text.Flat
import RecordCheck.Proofs.Validator.Trace

/-!
# A record cannot forge lines

What a validation tells of a record, and the report on it, are made of the keys of
the schema, of codes and parameters of rules, and of the values of the record. The
values stand only in their detailed texts, which are flat whatever the values hold
(`Value.flat_detailed`), and the parameters of rules that chains put into pipelines
are names of the library or numbers (`Rule.Standard.flat_parameter`). So if the
keys of the schema are flat, everything that is told is (`Validator.flat_events`),
and the report has one line for its summary and one for each failure
(`Report.lines_text`).
-/

namespace RecordCheck

open Text

/-! ## Failures -/

/-- The rules of the library compare with their own names and with numbers. -/
theorem Rule.Standard.flat_parameter {rule : Rule} (standard : rule.Standard) :
    Flat rule.parameter.text.toList := by
  cases standard with
  | typeMatch target => cases target <;> decide
  | refinement subtype => cases subtype <;> decide
  | bound method measure n => cases method <;> exact flat_toString_nat n

theorem FailureKind.flat_code (kind : FailureKind) : Flat kind.code.toList := by
  cases kind <;> decide

/-- A buildable pipeline fails with a parameter of the library. -/
theorem Pipeline.Buildable.flat_parameter {pipeline : Pipeline} (buildable : pipeline.Buildable)
    {key : String} {value : Option Value} {failure : Failure}
    (failed : (pipeline.validate key value).outcome = .failed failure) :
    Flat failure.parameter.text.toList := by
  rcases Pipeline.eq_of_failed failed with ⟨rfl, -⟩ | ⟨rule, member, rfl⟩
  · exact flat_nil
  · obtain ⟨coercions, rules, shape, standard⟩ := buildable.steps_eq
    rw [shape] at member
    rcases List.mem_append.mp member with coercion | check
    · cases List.eq_of_mem_replicate coercion
    · obtain ⟨_, there, same⟩ := List.mem_map.mp check
      cases same
      exact (standard rule there).flat_parameter

theorem Failure.flat_message {failure : Failure} (key : Flat failure.key.toList)
    (parameter : Flat failure.parameter.text.toList) : Flat failure.message.toList := by
  obtain ⟨kind, _, value, _⟩ := failure
  cases kind <;>
    simp only [Failure.message, String.toList_append, flat_append, key, parameter, true_and,
      and_true] <;>
    decide

/-! ## Events -/

/-- The message and the contents of all fields are flat, as they are and in a line of text. -/
structure Event.IsFlat (event : Event) : Prop where
  message : Flat event.message.toList
  fields : ∀ field ∈ event.fields, Flat field.2.plain.toList ∧ Flat field.2.inline.toList

theorem FieldValue.flat_inline {content : FieldValue} (flat : Flat content.plain.toList) :
    Flat content.inline.toList := by
  cases content with
  | string s => exact flat_quoted s
  | text s => exact flat
  | count n => exact flat

theorem Event.IsFlat.of_plain {event : Event} (message : Flat event.message.toList)
    (fields : ∀ field ∈ event.fields, Flat field.2.plain.toList) : event.IsFlat :=
  ⟨message, fun field member => ⟨fields field member, FieldValue.flat_inline (fields field member)⟩⟩

/-- The keys of the schema are flat, and its pipelines are what chains build. -/
structure Schema.Tidy (schema : Schema) : Prop where
  keys : ∀ key ∈ schema.keys, Flat key.toList
  pipelines : ∀ key pipeline, schema.get? key = some pipeline → pipeline.Buildable

namespace Validator

/-- The account of a field is flat if its key is and, should it fail, its failure. -/
theorem flat_account (level : FailureLevel) {key : String} {failure? : Option Failure}
    (flatKey : Flat key.toList)
    (flatFailure : ∀ failure ∈ failure?,
      Flat failure.key.toList ∧ Flat failure.parameter.text.toList) :
    ∀ event ∈ account level key failure?, event.IsFlat := by
  have messages : Flat "field passed".toList ∧ Flat "field failed".toList := by decide
  cases failure? with
  | none =>
    refine List.forall_mem_singleton.mpr (.of_plain messages.1 ?_)
    exact List.forall_mem_singleton.mpr flatKey
  | some failure =>
    obtain ⟨ownKey, parameter⟩ := flatFailure failure rfl
    have code := failure.kind.flat_code
    refine List.forall_mem_cons.mpr ⟨.of_plain messages.2 ?_, ?_⟩
    · exact List.forall_mem_cons.mpr ⟨flatKey, List.forall_mem_singleton.mpr code⟩
    · intro event member
      obtain ⟨severity, -, rfl⟩ := List.mem_map.mp member
      refine .of_plain (Failure.flat_message ownKey parameter) ?_
      have value : Flat (detailedOption (failure.value.map Value.detailed)).toList := by
        refine flat_detailedOption fun text there => ?_
        obtain ⟨value, -, rfl⟩ := Option.map_eq_some_iff.mp there
        exact value.flat_detailed
      exact List.forall_mem_cons.mpr ⟨ownKey, List.forall_mem_cons.mpr ⟨code,
        List.forall_mem_cons.mpr ⟨parameter, List.forall_mem_singleton.mpr value⟩⟩⟩

variable {ρ : Type} [Record ρ] (validator : Validator) (record : ρ)

theorem flat_failure (tidy : validator.schema.Tidy) {failure : Failure}
    (member : failure ∈ (validator.validate record).failures) :
    Flat failure.key.toList ∧ Flat failure.parameter.text.toList := by
  rw [validator.failures_validate record] at member
  obtain ⟨key, registered, failed⟩ := List.mem_filterMap.mp member
  refine ⟨?_, ?_⟩
  · rw [validator.key_fieldFailure? record failed]
    exact tidy.keys key registered
  · obtain ⟨⟨key, pipeline⟩, entry, rfl⟩ := List.mem_map.mp registered
    have found := Schema.get?_of_mem entry
    rw [validator.fieldFailure?_of_get? record found] at failed
    exact (tidy.pipelines key pipeline found).flat_parameter
      (FieldState.failure?_eq_some_iff.mp failed)

/-- Every event of a validation is flat. -/
theorem flat_events (tidy : validator.schema.Tidy) {event : Event}
    (told : .event event ∈ validator.trace record) : event.IsFlat := by
  rw [trace_eq_accounts] at told
  rcases List.mem_append.mp told with inside | last
  · rcases List.mem_cons.mp inside with enters | inside
    · cases enters
    · obtain ⟨other, there, same⟩ := List.mem_map.mp inside
      cases same
      rcases List.mem_append.mp there with field | ends
      · obtain ⟨key, registered, accounted⟩ := List.mem_flatMap.mp field
        refine flat_account _ (tidy.keys key registered) (fun failure found => ?_) event accounted
        exact validator.flat_failure record tidy (List.mem_of_find?_eq_some found)
      · have message : Flat "record validated".toList := by decide
        cases List.mem_singleton.mp ends
        exact .of_plain message (List.forall_mem_singleton.mpr (flat_toString_nat _))
  · cases List.mem_singleton.mp last

end Validator

/-! ## Reports -/

section Report

variable {report : Report}

theorem Report.flat_lines (messages : ∀ failure ∈ report.failures, Flat failure.message.toList) :
    ∀ line ∈ report.lines, Flat line.toList := by
  unfold Report.lines
  split
  · have words : Flat "validation passed (".toList ∧ Flat " fields checked)".toList := by decide
    refine List.forall_mem_singleton.mpr ?_
    simp only [String.toList_append, flat_append, words, flat_toString_nat, and_self]
  · have words : Flat "validation failed with ".toList ∧ Flat " failure(s)".toList := by decide
    refine List.forall_mem_cons.mpr ⟨?_, ?_⟩
    · simp only [String.toList_append, flat_append, words, flat_toString_nat, and_self]
    · intro line member
      obtain ⟨failure, there, rfl⟩ := List.mem_map.mp member
      rw [String.toList_append]
      exact flat_append.mpr ⟨by decide, messages failure there⟩

/-- The text of a report has the lines of the report. -/
theorem Report.lines_text (messages : ∀ failure ∈ report.failures, Flat failure.message.toList) :
    Text.lines report.text = report.lines := by
  refine lines_intercalate ?_ (Report.flat_lines messages)
  unfold Report.lines
  split <;> exact List.cons_ne_nil _ _

theorem Report.length_lines (report : Report) :
    report.lines.length = if report.passed then 1 else 1 + report.failures.length := by
  unfold Report.lines
  split
  · rfl
  · rw [List.length_cons, List.length_map, Nat.add_comm]

theorem Report.getElem?_lines (report : Report) (i : Nat) :
    report.lines[i + 1]? = report.failures[i]?.map fun failure => "  - " ++ failure.message := by
  unfold Report.lines
  split
  · next passed =>
    rw [List.isEmpty_iff.mp passed]
    rfl
  · rw [List.getElem?_cons_succ, List.getElem?_map]

end Report

/-- A record cannot add lines to what is told of it, nor to the report on it.

If the keys of a schema are flat and its pipelines are built by chains, then for every record and
at every failure level the message and all fields of every event are flat, and the report shows
one line, or one line and one for each of its failures, in which the message of the failure
stands. None of these lines holds a control or a separator either. -/
theorem Validator.cannot_forge_lines (validator : Validator) (tidy : validator.schema.Tidy)
    {ρ : Type} [Record ρ] (record : ρ) :
    (∀ event, .event event ∈ validator.trace record → event.IsFlat) ∧
      let report := validator.validate record
      (∀ line ∈ Text.lines report.text, Flat line.toList) ∧
      (Text.lines report.text).length =
        (if report.passed then 1 else 1 + report.failures.length) ∧
      ∀ i, (Text.lines report.text)[i + 1]? =
        report.failures[i]?.map fun failure => "  - " ++ failure.message := by
  have messages : ∀ failure ∈ (validator.validate record).failures,
      Flat failure.message.toList := by
    intro failure member
    obtain ⟨key, parameter⟩ := validator.flat_failure record tidy member
    exact Failure.flat_message key parameter
  refine ⟨fun event told => validator.flat_events record tidy told, ?_⟩
  intro report
  rw [Report.lines_text messages]
  exact ⟨Report.flat_lines messages, report.length_lines, report.getElem?_lines⟩

/-- Names of four letters at least. -/
def Pipeline.fourLetters : Pipeline where
  steps := [.check (.typeMatch .string), .check (.minLength 4 .collection)]

/-- A validator of names alone. -/
def Validator.fourLetters : Validator where
  schema := .ofList [("name", .fourLetters)]

/-- A record with a line break in its name. -/
def Value.brokenName : Value := .object [("name", .string "A\nB")]

/-- A line break in a name is told as an escape, and the report on the name has two lines. -/
theorem Validator.cannot_forge_lines_brokenName :
    fourLetters.schema.Tidy ∧
      (∃ event, .event event ∈ fourLetters.trace Value.brokenName ∧
        ("value", .text "Some(String(\"A\\nB\"))") ∈ event.fields ∧ event.IsFlat) ∧
      (Text.lines (fourLetters.validate Value.brokenName).text).length = 2 ∧
      (Text.lines (fourLetters.validate Value.brokenName).text)[1]? =
        some "  - Length insufficient: name, should be at least 4." := by
  have tidy : fourLetters.schema.Tidy := by
    refine ⟨by decide, fun key pipeline found => ?_⟩
    cases List.mem_singleton.mp (Schema.mem_of_get? found)
    exact ⟨_, [.minLength (.unsigned 4)], _, .start (.collection .string), rfl, rfl⟩
  let failure : Failure := ⟨.minLength, "name", some (.string "A\nB"), .bound 4⟩
  have told : .event (notice .warn failure) ∈ fourLetters.trace Value.brokenName := by
    decide +kernel
  have failed : (fourLetters.validate Value.brokenName).passed = false ∧
      (fourLetters.validate Value.brokenName).failures.length = 1 := by
    decide +kernel
  obtain ⟨flat, -, length, lines⟩ := fourLetters.cannot_forge_lines tidy Value.brokenName
  rw [failed.1, failed.2] at length
  have line : (fourLetters.validate Value.brokenName).failures[0]?.map
      (fun failure => "  - " ++ failure.message) =
        some "  - Length insufficient: name, should be at least 4." := by
    decide +kernel
  exact ⟨tidy, ⟨_, told, by decide +kernel, flat _ told⟩, length, (lines 0).trans line⟩

end RecordCheck
