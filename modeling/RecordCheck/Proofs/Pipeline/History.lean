import Mathlib.Data.Nat.Find
import RecordCheck.Proofs.Validator.FieldResults

/-!
# Histories of a field

A field is not only run through pipelines. Between its start and its result, steps may be applied
to it, it may be failed, and its value may be replaced, in any order and also where a pipeline would
stop. Whatever the order, the first operation that fails the field decides its outcome for ever
(`FieldState.first_failure_kept`).

* `FieldState.Operation.Fails` and `FieldState.Operation.Sets` say what one operation does to a
  valid field; `outcome_act_eq_failed_iff`, `value_act_of_sets` and `value_act_of_not_sets` tie
  them to the states before and after it.
* `FieldState.FirstFailure` picks the operation of a history that decides. Up to it the field is
  valid (`FieldState.outcome_take_valid`), and behind it nothing touches the outcome
  (`FieldState.outcome_after_of_failed`), though the value can still be replaced.
-/

namespace RecordCheck.FieldState

/-! ## Single operations -/

/-- What can be done to a field between its start and its result. -/
inductive Operation
  | fail (kind : FailureKind) (parameter : Parameter)
  | withValue (value : Value)
  | apply (step : Step)

namespace Operation

/-- The field after the operation. -/
def act (operation : Operation) (state : FieldState) : FieldState :=
  match operation with
  | .fail kind parameter => state.fail kind parameter
  | .withValue value => state.withValue value
  | .apply step => step.apply state

/-- Where the field is valid, the operation fails it with this failure: it is told to, or it is a
check that rejects the value. The failure has the value that the field holds. -/
inductive Fails : Operation → FieldState → Failure → Prop
  | fail {kind : FailureKind} {parameter : Parameter} {state : FieldState} :
    Fails (.fail kind parameter) state ⟨kind, state.key, state.value, parameter⟩
  | check {rule : Rule} {state : FieldState} {value : Value} (present : state.value = some value)
    (rejected : rule.check value = false) :
    Fails (.apply (.check rule)) state ⟨rule.kind, state.key, some value, rule.parameter⟩

/-- Where the field is valid, the operation sets its value: to the one given, or to the one that a
transform answers for a present value. -/
inductive Sets : Operation → FieldState → Value → Prop
  | withValue {state : FieldState} {value : Value} : Sets (.withValue value) state value
  | replace {transform : Transform} {state : FieldState} {old value : Value}
    (present : state.value = some old) (replaced : transform.replace? old = some value) :
    Sets (.apply (.replace transform)) state value

variable {operation : Operation} {state : FieldState} {failure : Failure} {value : Value}

theorem Fails.value_eq (fails : operation.Fails state failure) : failure.value = state.value := by
  cases fails with
  | fail => rfl
  | check present => exact present.symm

theorem keyed_act {key : String} (operation : Operation) (keyed : state.Keyed key) :
    (operation.act state).Keyed key := by
  cases operation with
  | fail kind parameter => exact keyed.fail kind parameter
  | withValue value => exact keyed.withValue value
  | apply step => exact step.keyed_apply keyed

/-- No operation touches the outcome of a failed field. -/
theorem outcome_act_of_failed (operation : Operation) (failed : state.outcome = .failed failure) :
    (operation.act state).outcome = .failed failure := by
  cases operation with
  | fail kind parameter =>
    show (state.fail kind parameter).outcome = _
    unfold FieldState.fail
    rw [failed]
    exact failed
  | withValue value => exact failed
  | apply step => exact (congrArg FieldState.outcome (step.apply_of_failed failed)).trans failed

/-- What a step does to a valid field with a present value. -/
theorem act_apply_of_present {step : Step} (valid : state.outcome = .valid)
    (present : state.value = some value) :
    (Operation.apply step).act state = step.act state value := by
  show step.apply state = _
  unfold Step.apply
  rw [valid, present]

theorem outcome_act_eq_failed_iff (valid : state.outcome = .valid) :
    (operation.act state).outcome = .failed failure ↔ operation.Fails state failure := by
  have failed (kind : FailureKind) (parameter : Parameter) : (state.fail kind parameter).outcome =
      .failed ⟨kind, state.key, state.value, parameter⟩ := by
    unfold FieldState.fail
    rw [valid]
  constructor
  · intro fails
    cases operation with
    | fail kind parameter =>
      cases (failed kind parameter).symm.trans fails
      exact .fail
    | withValue value => cases valid.symm.trans fails
    | apply step =>
      cases present : state.value with
      | none =>
        have same : (Operation.apply step).act state = state := step.apply_of_value_eq_none present
        rw [same, valid] at fails
        cases fails
      | some value =>
        rw [act_apply_of_present valid present] at fails
        cases step with
        | check rule =>
          unfold Step.act at fails
          dsimp only at fails
          split at fails
          · cases valid.symm.trans fails
          · rename_i rejects
            cases (failed rule.kind rule.parameter).symm.trans fails
            rw [present]
            exact .check present (Bool.eq_false_iff.mpr rejects)
        | replace transform =>
          unfold Step.act at fails
          dsimp only at fails
          split at fails
          · cases valid.symm.trans fails
          · cases valid.symm.trans fails
  · intro fails
    cases fails with
    | fail => exact failed _ _
    | @check rule _ value present rejected =>
      rw [act_apply_of_present valid present, Step.act, if_neg (ne_true_of_eq_false rejected),
        failed, present]

theorem outcome_act_of_not_fails (valid : state.outcome = .valid)
    (none : ∀ failure, ¬ operation.Fails state failure) :
    (operation.act state).outcome = .valid := by
  cases reached : (operation.act state).outcome with
  | valid => rfl
  | failed failure => exact absurd ((outcome_act_eq_failed_iff valid).mp reached) (none failure)

theorem value_act_of_sets (valid : state.outcome = .valid) (sets : operation.Sets state value) :
    (operation.act state).value = some value := by
  cases sets with
  | withValue => rfl
  | replace present replaced =>
    rw [act_apply_of_present valid present, Step.act, replaced]
    rfl

/-- An operation that sets no value leaves the value alone, also where the field has failed. -/
theorem value_act_of_not_sets (none : ∀ value, ¬ operation.Sets state value) :
    (operation.act state).value = state.value := by
  cases operation with
  | fail kind parameter => exact state.value_fail kind parameter
  | withValue value => exact absurd .withValue (none value)
  | apply step =>
    show (step.apply state).value = _
    unfold Step.apply
    split
    · rename_i value _ present
      cases step with
      | check rule =>
        unfold Step.act
        dsimp only
        split
        · rfl
        · exact state.value_fail rule.kind rule.parameter
      | replace transform =>
        cases replaced : transform.replace? value with
        | none => rw [Step.act, replaced]
        | some next => exact absurd (.replace present replaced) (none next)
    · rfl

/-- Steps need a value to act on, so an absent value is only replaced by one that is given. -/
theorem eq_withValue_of_absent (absent : state.value = none)
    (present : (operation.act state).value ≠ none) : ∃ value, operation = .withValue value := by
  by_contra other
  refine present ((value_act_of_not_sets fun value sets => ?_).trans absent)
  cases sets with
  | withValue => exact other ⟨value, rfl⟩
  | replace present => cases absent.symm.trans present

end Operation

/-! ## Histories -/

/-- The field after all operations of a history, in order. -/
def after (state : FieldState) (operations : List Operation) : FieldState :=
  operations.foldl (fun state operation => operation.act state) state

variable {start : FieldState} {operations : List Operation} {operation : Operation}
  {failure : Failure} {value : Value} {i : Nat}

theorem after_append (start : FieldState) (front later : List Operation) :
    start.after (front ++ later) = (start.after front).after later :=
  List.foldl_append

theorem after_take_add_one (there : operations[i]? = some operation) :
    start.after (operations.take (i + 1)) = operation.act (start.after (operations.take i)) := by
  rw [List.take_add_one, there, Option.toList_some, after_append]
  rfl

theorem take_add_one_of_getElem?_eq_none (there : operations[i]? = none) :
    operations.take (i + 1) = operations.take i := by
  rw [List.take_add_one, there, Option.toList_none, List.append_nil]

theorem keyed_after {key : String} (operations : List Operation) (keyed : start.Keyed key) :
    (start.after operations).Keyed key := by
  induction operations generalizing start with
  | nil => exact keyed
  | cons operation rest ih => exact ih (operation.keyed_act keyed)

/-- The outcome of a failed field stays for ever. -/
theorem outcome_after_of_failed (operations : List Operation)
    (failed : start.outcome = .failed failure) :
    (start.after operations).outcome = .failed failure := by
  induction operations generalizing start with
  | nil => exact failed
  | cons operation rest ih => exact ih (operation.outcome_act_of_failed failed)

/-- The `i`-th operation of the history fails the field as it finds it, if it is valid. -/
def FailsAt (start : FieldState) (operations : List Operation) (i : Nat) (failure : Failure) :
    Prop :=
  ∃ operation, operations[i]? = some operation ∧
    operation.Fails (start.after (operations.take i)) failure

/-- The `i`-th operation of the history sets the value of the field as it finds it, if it is
valid. -/
def SetsAt (start : FieldState) (operations : List Operation) (i : Nat) (value : Value) : Prop :=
  ∃ operation, operations[i]? = some operation ∧
    operation.Sets (start.after (operations.take i)) value

/-- The `i`-th operation fails the field, and none before it does. -/
structure FirstFailure (start : FieldState) (operations : List Operation) (i : Nat)
    (failure : Failure) : Prop where
  fails : start.FailsAt operations i failure
  earlier : ∀ j < i, ∀ other, ¬ start.FailsAt operations j other

/-- The `i`-th operation sets this value, and none behind it sets one. -/
structure LastSet (start : FieldState) (operations : List Operation) (i : Nat) (value : Value) :
    Prop where
  sets : start.SetsAt operations i value
  later : ∀ j > i, ∀ other, ¬ start.SetsAt operations j other

/-- Of the operations that fail the field, one comes first. -/
theorem FailsAt.exists_first (fails : start.FailsAt operations i failure) :
    ∃ i failure, start.FirstFailure operations i failure := by
  classical
  have some : ∃ i, ∃ other, start.FailsAt operations i other := ⟨i, failure, fails⟩
  obtain ⟨other, first⟩ := Nat.find_spec some
  exact ⟨Nat.find some, other, first, fun j less another earlier =>
    Nat.find_min some less ⟨another, earlier⟩⟩

section Valid

variable (valid : start.outcome = .valid)
include valid

/-- The field is valid as long as no operation has failed it. -/
theorem outcome_take_valid (none : ∀ j < i, ∀ other, ¬ start.FailsAt operations j other) :
    (start.after (operations.take i)).outcome = .valid := by
  induction i with
  | zero => exact valid
  | succ i ih =>
    have before := ih fun j less => none j (Nat.lt_succ_of_lt less)
    cases there : operations[i]? with
    | none => rwa [take_add_one_of_getElem?_eq_none there]
    | some operation =>
      rw [after_take_add_one there]
      exact operation.outcome_act_of_not_fails before fun other fails =>
        none i (Nat.lt_succ_self i) other ⟨operation, there, fails⟩

/-- The first failure is the outcome, whatever comes behind it. -/
theorem FirstFailure.outcome (first : start.FirstFailure operations i failure)
    (later : List Operation) :
    (start.after (operations.take (i + 1) ++ later)).outcome = .failed failure := by
  obtain ⟨operation, there, fails⟩ := first.fails
  rw [after_append, after_take_add_one there]
  refine outcome_after_of_failed later ?_
  exact (Operation.outcome_act_eq_failed_iff (outcome_take_valid valid first.earlier)).mpr fails

theorem FirstFailure.outcome_after (first : start.FirstFailure operations i failure) :
    (start.after operations).outcome = .failed failure := by
  have final := first.outcome valid (operations.drop (i + 1))
  rwa [List.take_append_drop] at final

/-- The field ends valid exactly if no operation fails it. -/
theorem outcome_after_valid_iff : (start.after operations).outcome = .valid ↔
    ∀ i failure, ¬ start.FailsAt operations i failure := by
  constructor
  · intro stays i failure fails
    obtain ⟨i, failure, first⟩ := fails.exists_first
    cases stays.symm.trans (first.outcome_after valid)
  · intro none
    rw [← List.take_length (l := operations)]
    exact outcome_take_valid valid fun j _ => none j

theorem exists_firstFailure_iff : (∃ failure, (start.after operations).outcome = .failed failure) ↔
    ∃ i failure, start.FirstFailure operations i failure := by
  constructor
  · rintro ⟨failure, failed⟩
    by_contra never
    have stays := (outcome_after_valid_iff valid).mpr fun i failure fails =>
      never fails.exists_first
    cases stays.symm.trans failed
  · rintro ⟨i, failure, first⟩
    exact ⟨failure, first.outcome_after valid⟩

end Valid

theorem SetsAt.lt_length (sets : start.SetsAt operations i value) : i < operations.length := by
  obtain ⟨operation, there, -⟩ := sets
  exact (List.getElem?_eq_some_iff.mp there).1

/-- The value stays from where no operation sets one any more. -/
theorem value_after_of_not_sets (none : ∀ j ≥ i, ∀ other, ¬ start.SetsAt operations j other) :
    (start.after operations).value = (start.after (operations.take i)).value := by
  have upTo (k : Nat) : (start.after (operations.take (i + k))).value =
      (start.after (operations.take i)).value := by
    induction k with
    | zero => rfl
    | succ k ih =>
      rw [← ih, ← Nat.add_assoc]
      cases there : operations[i + k]? with
      | none => rw [take_add_one_of_getElem?_eq_none there]
      | some operation =>
        rw [after_take_add_one there]
        exact Operation.value_act_of_not_sets fun other sets =>
          none (i + k) (Nat.le_add_right i k) other ⟨operation, there, sets⟩
  rw [← upTo operations.length, List.take_of_length_le (Nat.le_add_left _ _)]

/-- Of the operations that set a value, one comes last. -/
theorem SetsAt.exists_last (sets : start.SetsAt operations i value) :
    ∃ i value, start.LastSet operations i value := by
  classical
  have bounded : ∃ n, ∀ j ≥ n, ∀ other, ¬ start.SetsAt operations j other :=
    ⟨operations.length, fun j beyond other sets => Nat.not_le_of_lt sets.lt_length beyond⟩
  -- The least bound of the places where a value is set is just behind the last of them.
  have least := Nat.find_spec bounded
  cases place : Nat.find bounded with
  | zero =>
    rw [place] at least
    exact absurd sets (least i (Nat.zero_le i) value)
  | succ last =>
    rw [place] at least
    have set : ∃ value, start.SetsAt operations last value := by
      by_contra unset
      have less : last < Nat.find bounded := by omega
      refine Nat.find_min bounded less fun j behind other sets => ?_
      rcases Nat.eq_or_lt_of_le behind with rfl | beyond
      · exact unset ⟨other, sets⟩
      · exact least j beyond other sets
    obtain ⟨value, sets⟩ := set
    exact ⟨last, value, sets, least⟩

/-- The value that is set last is the value of the field, if the field is valid until then. -/
theorem LastSet.value_after (last : start.LastSet operations i value)
    (valid : (start.after (operations.take i)).outcome = .valid) :
    (start.after operations).value = some value := by
  obtain ⟨operation, there, effect⟩ := last.sets
  rw [value_after_of_not_sets last.later, after_take_add_one there,
    Operation.value_act_of_sets valid effect]

/-- Where the field ends valid, its result is the value that was set last, or the first value if
none was set. -/
theorem result_after_valid (valid : start.outcome = .valid)
    (stays : (start.after operations).outcome = .valid) :
    (∃ i value, start.LastSet operations i value ∧
        (start.after operations).result = .ok (some value)) ∨
      (∀ i value, ¬ start.SetsAt operations i value) ∧
        (start.after operations).result = .ok start.value := by
  have result : (start.after operations).result = .ok (start.after operations).value := by
    rw [FieldState.result, stays]
  rw [result]
  by_cases set : ∃ i value, start.SetsAt operations i value
  · obtain ⟨_, _, sets⟩ := set
    obtain ⟨i, value, last⟩ := sets.exists_last
    have never := (outcome_after_valid_iff valid).mp stays
    have before : (start.after (operations.take i)).outcome = .valid :=
      outcome_take_valid valid fun j _ => never j
    exact .inl ⟨i, value, last, congrArg Except.ok (last.value_after before)⟩
  · have never : ∀ i value, ¬ start.SetsAt operations i value := by
      simpa only [not_exists] using set
    exact .inr ⟨never, congrArg Except.ok (value_after_of_not_sets (i := 0) fun j _ => never j)⟩

/-! ## What is left of a history -/

/-- The first failure of a field is kept through every history.

The key never changes. The field ends failed exactly if some operation fails it, and then its
outcome and result are the failure that the first of these makes, with the value that the field
held at that moment, whatever operations come later; a value that is given later does replace that
of the field. Steps leave failed fields and absent values alone, so only a given value makes an
absent one present. Where nothing fails the field, its result is the value that was set last by
being given or by a transform, or the first value if none was set. -/
theorem first_failure_kept (key : String) (value : Option Value) (operations : List Operation) :
    let start := FieldState.start key value
    let final := start.after operations
    final.key = key ∧
    ((∃ failure, final.outcome = .failed failure) ↔
      ∃ i failure, start.FirstFailure operations i failure) ∧
    (∀ i failure, start.FirstFailure operations i failure →
      (start.after (operations.take i)).outcome = .valid ∧
      failure.key = key ∧ failure.value = (start.after (operations.take i)).value ∧
      ∀ later, (start.after (operations.take (i + 1) ++ later)).outcome = .failed failure) ∧
    (∀ given, start.after (operations ++ [.withValue given]) = { final with value := some given }) ∧
    (∀ (step : Step) (state : FieldState),
      (∃ failure, state.outcome = .failed failure) ∨ state.value = none →
        step.apply state = state) ∧
    (∀ i, (start.after (operations.take i)).value = none →
      (start.after (operations.take (i + 1))).value ≠ none →
        ∃ given, operations[i]? = some (.withValue given)) ∧
    (∀ failure, final.result = .error failure ↔ final.outcome = .failed failure) ∧
    (final.outcome = .valid →
      (∃ i last, start.LastSet operations i last ∧ final.result = .ok (some last)) ∨
        (∀ i last, ¬ start.SetsAt operations i last) ∧ final.result = .ok value) := by
  intro start final
  have valid : start.outcome = .valid := rfl
  refine ⟨(keyed_after operations (.start key value)).1, exists_firstFailure_iff valid,
    fun i failure first => ?_, fun given => after_append start operations _,
    fun step state idle => ?_, fun i absent present => ?_, fun failure => ?_,
    result_after_valid valid⟩
  · obtain ⟨operation, there, fails⟩ := first.fails
    have outcome := first.outcome valid
    have own := (keyed_after (operations.take (i + 1) ++ []) (.start key value)).2
    exact ⟨outcome_take_valid valid first.earlier, own failure (outcome []), fails.value_eq,
      outcome⟩
  · rcases idle with ⟨failure, failed⟩ | absent
    · exact step.apply_of_failed failed
    · exact step.apply_of_value_eq_none absent
  · cases there : operations[i]? with
    | none =>
      rw [take_add_one_of_getElem?_eq_none there] at present
      exact absurd absent present
    | some operation =>
      rw [after_take_add_one there] at present
      obtain ⟨given, same⟩ := Operation.eq_withValue_of_absent absent present
      exact ⟨given, congrArg some same⟩
  · unfold FieldState.result
    cases final.outcome <;> simp

/-- An absent field is given `true`, is checked for a string, is given a string, and is failed and
checked again. -/
def replaced : List Operation :=
  [.apply (.check (.typeMatch .null)), .withValue (.boolean true),
   .apply (.check (.typeMatch .string)), .withValue (.string "a"), .fail .length (.bound 2),
   .apply (.check (.typeMatch .null))]

/-- The check for a string is the first failure, and has the value `true` for ever. -/
theorem first_failure_kept_replaced :
    let start := FieldState.start "k" none
    let first : Failure := ⟨.type, "k", some (.boolean true), .expected "string"⟩
    start.FirstFailure replaced 2 first ∧
      ((start.after replaced).outcome = .failed first ∧
        (start.after replaced).value = some (.string "a")) ∧
      ∀ given, (start.after (replaced ++ [.withValue given])).outcome = .failed first := by
  intro start first
  obtain ⟨-, -, kept, given, -⟩ := first_failure_kept "k" none replaced
  have decides : start.FirstFailure replaced 2 first := by
    refine ⟨⟨_, rfl, .check rfl rfl⟩, ?_⟩
    rintro j less other ⟨operation, there, fails⟩
    rcases j with _ | _ | j
    · cases there
      cases fails with
      | check present => cases present
    · cases there
      cases fails
    · omega
  obtain ⟨-, -, -, later⟩ := kept 2 first decides
  refine ⟨decides, ⟨later _, rfl⟩, fun value => ?_⟩
  rw [given value]
  exact later (replaced.drop 3)

end RecordCheck.FieldState
