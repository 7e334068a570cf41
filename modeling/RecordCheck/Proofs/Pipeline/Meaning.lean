import Mathlib.Data.Nat.Find
import Mathlib.Tactic.ByContra
import RecordCheck.Rule.Builtin
import RecordCheck.Pipeline

/-!
# The meaning of a pipeline

`Pipeline.validate` folds the steps over the state of a field. This module says
what the fold computes without a state. The value before the `i`-th step is the
first value after the transforms among the first `i` steps
(`Pipeline.valueBefore`), checks leave it alone, and the outcome is the
rejection by the first check that does not accept the value before it
(`Pipeline.FirstRejection`).

`Step.run` is the fold itself, and its lemmas are what other modules use:

* `Step.run_of_failed` and `Step.run_of_absent`: nothing happens any more.
* `Step.run_of_pass`: a run past accepting checks only rewrites the value.
* `Step.run_of_rejection`: a rejecting check fixes the final state, whatever
  steps come later.
-/

namespace RecordCheck

/-! ## Values along the steps -/

/-- The value after the step, given that the step does not reject it. -/
def Step.rewrite (step : Step) (value : Value) : Value :=
  match step with
  | .check _ => value
  | .replace transform => (transform.replace? value).getD value

/-- The value after the steps, given that none of them rejects it. -/
def Step.rewriteAll (steps : List Step) (value : Value) : Value :=
  steps.foldl (fun value step => step.rewrite value) value

/-- Every check among the steps accepts the value that stands before it. -/
def Step.Pass (steps : List Step) (value : Value) : Prop :=
  ∀ (i : Nat) (rule : Rule), steps[i]? = some (.check rule) →
    rule.check (Step.rewriteAll (steps.take i) value) = true

variable {step : Step} {steps front later : List Step} {rule : Rule} {key : String} {value : Value}

theorem Step.rewriteAll_cons (step : Step) (rest : List Step) (value : Value) :
    Step.rewriteAll (step :: rest) value = Step.rewriteAll rest (step.rewrite value) := rfl

theorem Step.Pass.tail {rest : List Step} (pass : Step.Pass (step :: rest) value) :
    Step.Pass rest (step.rewrite value) := by
  intro i rule there
  exact pass (i + 1) rule there

theorem Step.Pass.take {i : Nat}
    (earlier : ∀ j < i, ∀ rule : Rule, steps[j]? = some (.check rule) →
      rule.check (Step.rewriteAll (steps.take j) value) = true) :
    Step.Pass (steps.take i) value := by
  intro j rule there
  rw [List.getElem?_take] at there
  split at there
  · rename_i before
    rw [List.take_take, Nat.min_eq_left (Nat.le_of_lt before)]
    exact earlier j before rule there
  · contradiction

/-! ## Single steps on a valid state -/

theorem Step.apply_of_accepted (accepted : rule.check value = true) :
    (Step.check rule).apply ⟨key, some value, .valid⟩ = ⟨key, some value, .valid⟩ := by
  show (if rule.check value then _ else _) = _
  rw [if_pos accepted]

theorem Step.apply_of_rejected (rejected : rule.check value = false) :
    (Step.check rule).apply ⟨key, some value, .valid⟩ =
      ⟨key, some value, .failed ⟨rule.kind, key, some value, rule.parameter⟩⟩ := by
  show (if rule.check value then _ else _) = _
  rw [if_neg (by rw [rejected]; exact Bool.false_ne_true)]
  rfl

theorem Step.apply_replace (transform : Transform) (key : String) (value : Value) :
    (Step.replace transform).apply ⟨key, some value, .valid⟩ =
      ⟨key, some ((Step.replace transform).rewrite value), .valid⟩ := by
  cases replaced : transform.replace? value with
  | none => simp [Step.apply, Step.act, Step.rewrite, replaced]
  | some next => simp [Step.apply, Step.act, Step.rewrite, replaced, FieldState.withValue]

theorem Step.apply_of_pass {rest : List Step} (pass : Step.Pass (step :: rest) value) :
    step.apply ⟨key, some value, .valid⟩ = ⟨key, some (step.rewrite value), .valid⟩ := by
  cases step with
  | check rule => exact Step.apply_of_accepted (pass 0 rule rfl)
  | replace transform => exact Step.apply_replace transform key value

/-! ## Runs -/

/-- The state after the steps. -/
def Step.run (steps : List Step) (state : FieldState) : FieldState :=
  steps.foldl (fun state step => step.apply state) state

theorem Step.run_cons (step : Step) (rest : List Step) (state : FieldState) :
    Step.run (step :: rest) state = Step.run rest (step.apply state) := rfl

theorem Step.run_append (front later : List Step) (state : FieldState) :
    Step.run (front ++ later) state = Step.run later (Step.run front state) :=
  List.foldl_append

theorem Step.run_of_failed (steps : List Step) {state : FieldState} {failure : Failure}
    (failed : state.outcome = .failed failure) : Step.run steps state = state := by
  induction steps with
  | nil => rfl
  | cons step rest ih => rw [Step.run_cons, step.apply_of_failed failed, ih]

theorem Step.run_of_absent (steps : List Step) {state : FieldState}
    (absent : state.value = none) : Step.run steps state = state := by
  induction steps with
  | nil => rfl
  | cons step rest ih => rw [Step.run_cons, step.apply_of_value_eq_none absent, ih]

/-- A run past checks that accept leaves the field valid with the rewritten value. -/
theorem Step.run_of_pass (pass : Step.Pass steps value) :
    Step.run steps ⟨key, some value, .valid⟩ =
      ⟨key, some (Step.rewriteAll steps value), .valid⟩ := by
  induction steps generalizing value with
  | nil => rfl
  | cons step rest ih =>
    rw [Step.run_cons, Step.apply_of_pass pass, ih pass.tail, Step.rewriteAll_cons]

/-- The first rejection decides the final state: the steps behind it do not matter. -/
theorem Step.run_of_rejection (pass : Step.Pass front value)
    (rejected : rule.check (Step.rewriteAll front value) = false) :
    Step.run (front ++ .check rule :: later) ⟨key, some value, .valid⟩ =
      ⟨key, some (Step.rewriteAll front value),
        .failed ⟨rule.kind, key, some (Step.rewriteAll front value), rule.parameter⟩⟩ := by
  rw [Step.run_append, Step.run_of_pass pass, Step.run_cons, Step.apply_of_rejected rejected]
  exact Step.run_of_failed later rfl

/-! ## Whole pipelines -/

theorem Pipeline.validate_some (pipeline : Pipeline) (key : String) (value : Value) :
    pipeline.validate key (some value) =
      Step.run pipeline.steps ⟨key, some value, .valid⟩ := by
  unfold Pipeline.validate Pipeline.start
  rw [Option.isNone_some, Bool.and_false]
  rfl

theorem Pipeline.validate_none (pipeline : Pipeline) (key : String) :
    pipeline.validate key none =
      ⟨key, none, if pipeline.required then .failed ⟨.required, key, none, .none⟩ else .valid⟩ := by
  obtain ⟨required, steps⟩ := pipeline
  cases required with
  | false => exact Step.run_of_absent steps rfl
  | true => exact Step.run_of_absent steps rfl

/-- The value that the `i`-th step finds, if the run comes that far. -/
def Pipeline.valueBefore (pipeline : Pipeline) (value : Value) (i : Nat) : Value :=
  Step.rewriteAll (pipeline.steps.take i) value

/-- Every check of the pipeline accepts the value that it finds. -/
def Pipeline.Accepts (pipeline : Pipeline) (value : Value) : Prop :=
  ∀ (i : Nat) (rule : Rule), pipeline.steps[i]? = some (.check rule) →
    rule.check (pipeline.valueBefore value i) = true

/-- The `i`-th step checks a rule that rejects the value it finds, and no check before it does. -/
structure Pipeline.FirstRejection (pipeline : Pipeline) (value : Value) (i : Nat) (rule : Rule) :
    Prop where
  there : pipeline.steps[i]? = some (.check rule)
  rejected : rule.check (pipeline.valueBefore value i) = false
  earlier : ∀ j < i, ∀ other : Rule, pipeline.steps[j]? = some (.check other) →
    other.check (pipeline.valueBefore value j) = true

/-- Of the checks that reject the value they find, one comes first. -/
theorem Pipeline.exists_firstRejection {pipeline : Pipeline} {value : Value}
    (refused : ¬ pipeline.Accepts value) : ∃ i rule, pipeline.FirstRejection value i rule := by
  classical
  have some : ∃ i, ∃ rule : Rule, pipeline.steps[i]? = some (.check rule) ∧
      rule.check (pipeline.valueBefore value i) = false := by
    simp only [Pipeline.Accepts, not_forall] at refused
    obtain ⟨i, rule, there, rejects⟩ := refused
    exact ⟨i, rule, there, Bool.eq_false_iff.mpr rejects⟩
  obtain ⟨rule, there, rejected⟩ := Nat.find_spec some
  refine ⟨Nat.find some, rule, there, rejected, ?_⟩
  intro j before other otherThere
  by_contra rejects
  exact Nat.find_min some before ⟨other, otherThere, Bool.eq_false_iff.mpr rejects⟩

theorem Pipeline.FirstRejection.validate {pipeline : Pipeline} {value : Value} {i : Nat}
    {rule : Rule} (first : pipeline.FirstRejection value i rule) (key : String)
    (later : List Step) :
    { pipeline with steps := pipeline.steps.take (i + 1) ++ later }.validate key (some value) =
      ⟨key, some (pipeline.valueBefore value i),
        .failed ⟨rule.kind, key, some (pipeline.valueBefore value i), rule.parameter⟩⟩ := by
  have upTo : pipeline.steps.take (i + 1) = pipeline.steps.take i ++ [.check rule] := by
    rw [List.take_add_one, first.there, Option.toList_some]
  rw [Pipeline.validate_some, upTo, List.append_assoc]
  exact Step.run_of_rejection (Step.Pass.take first.earlier) first.rejected

/-- A failure carries the final value. Either a required value is absent, or a check of the
pipeline rejects what it finds. -/
theorem Pipeline.eq_of_failed {pipeline : Pipeline} {value : Option Value} {failure : Failure}
    (failed : (pipeline.validate key value).outcome = .failed failure) :
    (failure = ⟨.required, key, none, .none⟩ ∧ (pipeline.validate key value).value = none) ∨
      ∃ rule, .check rule ∈ pipeline.steps ∧
        failure =
          ⟨rule.kind, key, (pipeline.validate key value).value, rule.parameter⟩ := by
  cases value with
  | none =>
    rw [Pipeline.validate_none] at failed ⊢
    dsimp only at failed
    split at failed
    · exact .inl ⟨(Outcome.failed.inj failed).symm, rfl⟩
    · cases failed
  | some value =>
    by_cases accepts : pipeline.Accepts value
    · rw [Pipeline.validate_some, Step.run_of_pass accepts] at failed
      cases failed
    · obtain ⟨i, rule, first⟩ := Pipeline.exists_firstRejection accepts
      have final := first.validate key (pipeline.steps.drop (i + 1))
      rw [List.take_append_drop] at final
      rw [final] at failed ⊢
      exact .inr ⟨rule, List.mem_of_getElem? first.there, (Outcome.failed.inj failed).symm⟩

/-- What a pipeline makes of a field, for every key and every value.

An absent field stays absent and fails exactly if it is required. A present
value passes with all rewrites applied if every check accepts the value it
finds. Otherwise there is a first check that does not; the field fails with the
kind and parameter of that check and keeps the value that the check found, and
any other steps behind it would leave the same final state. -/
theorem Pipeline.validate_meaning (pipeline : Pipeline) (key : String) :
    pipeline.validate key none =
        ⟨key, none,
          if pipeline.required then .failed ⟨.required, key, none, .none⟩ else .valid⟩ ∧
      ∀ value : Value,
        (pipeline.Accepts value →
          pipeline.validate key (some value) =
            ⟨key, some (pipeline.valueBefore value pipeline.steps.length), .valid⟩) ∧
        (¬ pipeline.Accepts value → ∃ i rule, pipeline.FirstRejection value i rule) ∧
        ∀ i rule, pipeline.FirstRejection value i rule →
          pipeline.validate key (some value) =
              ⟨key, some (pipeline.valueBefore value i),
                .failed ⟨rule.kind, key, some (pipeline.valueBefore value i), rule.parameter⟩⟩ ∧
            ∀ later : List Step,
              { pipeline with steps := pipeline.steps.take (i + 1) ++ later }.validate key
                  (some value) =
                pipeline.validate key (some value) := by
  refine ⟨pipeline.validate_none key, fun value => ⟨?_, Pipeline.exists_firstRejection, ?_⟩⟩
  · intro accepts
    rw [Pipeline.validate_some, Step.run_of_pass accepts, Pipeline.valueBefore, List.take_length]
  · intro i rule first
    have own := first.validate key (pipeline.steps.drop (i + 1))
    rw [List.take_append_drop] at own
    exact ⟨own, fun later => (first.validate key later).trans own.symm⟩

/-- A pipeline that puts the explicit null for a string, accepts nothing else than null, and
then answers `true`. -/
def Pipeline.nullForString : Pipeline where
  steps :=
    [.replace ⟨"NullForString", fun value => value.string?.map fun _ => .null⟩,
     .check (.typeMatch .null),
     .replace ⟨"Found", fun _ => some (.boolean true)⟩]

/-- A string passes `nullForString` as `true`; a truth value stops at its check unchanged. -/
theorem Pipeline.validate_meaning_nullForString :
    (nullForString.Accepts (.string "a") ∧
      nullForString.validate "k" (some (.string "a")) = ⟨"k", some (.boolean true), .valid⟩) ∧
    (¬ nullForString.Accepts (.boolean false) ∧
      nullForString.FirstRejection (.boolean false) 1 (.typeMatch .null) ∧
      nullForString.validate "k" (some (.boolean false)) =
        ⟨"k", some (.boolean false),
          .failed ⟨.type, "k", some (.boolean false), .expected "null"⟩⟩) := by
  have accepts : nullForString.Accepts (.string "a") := by
    intro i rule there
    rcases i with _ | _ | _ | i
    · cases there
    · cases there; rfl
    · cases there
    · cases there
  have first : nullForString.FirstRejection (.boolean false) 1 (.typeMatch .null) := by
    refine ⟨rfl, rfl, ?_⟩
    intro j before other there
    obtain rfl : j = 0 := Nat.lt_one_iff.mp before
    cases there
  have refused : ¬ nullForString.Accepts (.boolean false) := fun all =>
    Bool.false_ne_true (first.rejected.symm.trans (all 1 _ first.there))
  exact ⟨⟨accepts, ((nullForString.validate_meaning "k").2 (.string "a")).1 accepts⟩,
    refused, first,
    (((nullForString.validate_meaning "k").2 (.boolean false)).2.2 1 _ first).1⟩

end RecordCheck
