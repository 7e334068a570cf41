import RecordCheck.Proofs.Builder.Canonical
import RecordCheck.Proofs.Builder.Run

/-!
# Validating the outcome once more

In a pipeline that a chain has built all coercions stand in front of all checks.
So every check looks at one and the same value, and this value is what the field
ends with, whether it passes or fails. Coercing it again changes nothing, so
validating the final value once more runs the same checks on the same value.

* `Pipeline.Buildable` are the pipelines that chains build, and
  `Pipeline.Buildable.steps_eq` is the shape they have.
* `Step.value_run_checks`: what the checks find is what the field ends with.

Pipelines of other shapes have no such property: a rewrite behind a check can
turn an accepted value into one that the check rejects.
-/

namespace RecordCheck

/-! ## Pipelines that chains build -/

/-- The builders that chains begin with: the one without any check, and the starts. -/
inductive Builder.Initial : Builder → Prop
  | bare : Initial .bare
  | start (start : Start) : Initial start.builder

/-- Some chain of calls builds the pipeline. -/
def Pipeline.Buildable (pipeline : Pipeline) : Prop :=
  ∃ initial calls builder, Builder.Initial initial ∧ initial.chain calls = .ok builder ∧
    builder.pipeline = pipeline

/-- The rules that chains put into pipelines. -/
inductive Rule.Standard : Rule → Prop
  | typeMatch (target : Tag) : Standard (.typeMatch target)
  | refinement (subtype : Subtype) : Standard subtype.rule
  | bound (method : BoundMethod) (measure : Measure) (n : Nat) : Standard (method.rule measure n)

section Chains

variable {builder next made : Builder} {call : Call} {calls rest : List Call}

theorem Builder.chain_cons :
    builder.chain (call :: rest) = (builder.call call).bind fun next => next.chain rest :=
  List.foldlM_cons

theorem Builder.stage_addBound {kind : FailureKind} {argument : Numeral} {rule : Nat → Rule}
    (added : builder.addBound kind argument rule = .ok next) : next.stage = builder.stage := by
  unfold Builder.addBound at added
  cases value : argument.toBound kind with
  | error cause =>
    rw [value] at added
    cases added
  | ok n =>
    rw [value] at added
    cases added
    rfl

theorem Builder.stage_addLength {kind : FailureKind} {argument : Numeral}
    {rule : Nat → Measure → Rule}
    (added : builder.addLength call kind argument rule = .ok next) :
    next.stage = builder.stage := by
  unfold Builder.addLength at added
  cases measured : builder.stage.measure? with
  | none =>
    rw [measured] at added
    cases added
  | some measure =>
    rw [measured] at added
    exact Builder.stage_addBound added

/-- A call that succeeds is admitted, and leads to the stage after it. -/
theorem Builder.admittedAt_of_call (done : builder.call call = .ok next) :
    call.admittedAt builder.stage = true ∧ next.stage = builder.stage.after call := by
  unfold Builder.call at done
  split at done
  · next admitted =>
    refine ⟨admitted, ?_⟩
    cases call with
    | required | greedy | integer | float =>
      cases done
      rfl
    | maxLength argument | minLength argument | length argument =>
      exact Builder.stage_addLength done
    | decimal argument => exact Builder.stage_addBound done
  · cases done

/-- A chain that builds is admitted. -/
theorem Builder.admits_of_chain (built : builder.chain calls = .ok made) :
    builder.stage.Admits calls := by
  induction calls generalizing builder with
  | nil => trivial
  | cons call rest ih =>
    rw [Builder.chain_cons] at built
    cases done : builder.call call with
    | error cause =>
      rw [done] at built
      cases built
    | ok next =>
      rw [done] at built
      obtain ⟨admitted, stage⟩ := Builder.admittedAt_of_call done
      exact ⟨admitted, stage ▸ ih built⟩

/-- Without a start only `required` is admitted, and it adds no step. -/
theorem Builder.steps_of_bare (bare : builder.stage = .bare)
    (built : builder.chain calls = .ok made) :
    made.pipeline.steps = builder.pipeline.steps := by
  induction calls generalizing builder with
  | nil =>
    cases built
    rfl
  | cons call rest ih =>
    obtain ⟨admitted, -⟩ := Builder.admits_of_chain built
    rw [bare] at admitted
    cases call with
    | required => exact @ih (builder.mapPipeline .markRequired) bare built
    | _ => cases admitted

theorem Rule.Standard.of_bounds {measure : Measure} {bounds : List BoundCall} {rules : List Rule}
    (made : bounds.mapM (BoundCall.rule measure) = .ok rules) {rule : Rule} (member : rule ∈ rules) :
    rule.Standard := by
  have image : Except.ok rule ∈ bounds.map (BoundCall.rule measure) := by
    rw [mapM_eq_ok_iff.mp made]
    exact List.mem_map_of_mem member
  obtain ⟨bound, -, same⟩ := List.mem_map.mp image
  unfold BoundCall.rule at same
  cases value : bound.value with
  | error cause =>
    rw [value] at same
    cases same
  | ok n =>
    rw [value] at same
    cases same
    exact .bound bound.method measure n

/-- What a chain has built coerces first, and then checks rules of the library. -/
theorem Pipeline.Buildable.steps_eq {pipeline : Pipeline} (buildable : pipeline.Buildable) :
    ∃ (coercions : Nat) (rules : List Rule),
      pipeline.steps =
        List.replicate coercions (.replace .numericCoercion) ++ rules.map .check ∧
      ∀ rule ∈ rules, rule.Standard := by
  obtain ⟨initial, calls, builder, begins, built, rfl⟩ := buildable
  cases begins with
  | bare =>
    refine ⟨0, [], Builder.steps_of_bare rfl built, ?_⟩
    intro rule member
    cases member
  | start start =>
    rw [start.chain_eq (Builder.admits_of_chain built)] at built
    obtain ⟨bounds, made, rfl⟩ := Plan.built_eq_ok_iff.mp built
    refine ⟨_, ((start.plan.afterAll calls).withRules bounds).checks, rfl, ?_⟩
    intro rule member
    rcases List.mem_cons.mp member with rfl | member
    · exact .typeMatch _
    · rcases List.mem_append.mp member with refined | bound
      · obtain ⟨subtype, -, rfl⟩ := List.mem_map.mp refined
        exact .refinement subtype
      · rw [Plan.afterAll_eq] at bound
        exact .of_bounds made bound

end Chains

/-! ## Validating once more -/

/-- Checks leave the value of a field as it is. -/
theorem Step.value_run_checks (rules : List Rule) (state : FieldState) :
    (Step.run (rules.map .check) state).value = state.value := by
  induction rules generalizing state with
  | nil => rfl
  | cons rule rest ih =>
    rw [List.map_cons, Step.run_cons, ih]
    unfold Step.apply
    split
    · next value _ _ =>
      show (if rule.check value then state else state.fail rule.kind rule.parameter).value = _
      split
      · rfl
      · exact state.value_fail rule.kind rule.parameter
    · rfl

/-- Validating what a validation has left changes nothing.

For every pipeline that some chain builds, every key and every value, present or absent: the
final value is brought to the same final state, the verdict and the failure included, and so is
the value that a failure carries. -/
theorem Pipeline.validate_fixpoint {pipeline : Pipeline} (buildable : pipeline.Buildable)
    (key : String) (value : Option Value) :
    pipeline.validate key (pipeline.validate key value).value = pipeline.validate key value ∧
      ∀ failure, (pipeline.validate key value).outcome = .failed failure →
        pipeline.validate key failure.value = pipeline.validate key value := by
  have again :
      pipeline.validate key (pipeline.validate key value).value = pipeline.validate key value := by
    cases value with
    | none => rw [Pipeline.validate_none, Pipeline.validate_none]
    | some value =>
      obtain ⟨coercions, rules, shape, -⟩ := buildable.steps_eq
      have run (value : Value) : pipeline.validate key (some value) =
          Step.run (rules.map .check) ⟨key, some (value.coercedBy coercions), .valid⟩ := by
        rw [Pipeline.validate_some, shape, Step.run_coercions_checks]
      have final : (pipeline.validate key (some value)).value =
          some (value.coercedBy coercions) := by
        rw [run, Step.value_run_checks]
      rw [final, run, run, Value.coercedBy_coercedBy]
  refine ⟨again, fun failure failed => ?_⟩
  have carried : failure.value = (pipeline.validate key value).value := by
    rcases Pipeline.eq_of_failed failed with ⟨rfl, absent⟩ | ⟨rule, -, rfl⟩
    · exact absent.symm
    · rfl
  rw [carried, again]

/-- Numbers of at most two digits, with coercion asked for on both sides of the bound. -/
def Pipeline.twoDigits : Pipeline where
  steps :=
    [.replace .numericCoercion, .replace .numericCoercion, .check (.typeMatch .number),
     .check (.maxLength 2 .digits)]

/-- A string that spells a number of three digits fails as this number, and the number that the
failure carries fails alike. -/
theorem Pipeline.validate_fixpoint_twoDigits :
    twoDigits.Buildable ∧
      twoDigits.validate "age" (some (.string " 1e2")) =
        ⟨"age", some (.number (.ofInt 100)),
          .failed ⟨.maxLength, "age", some (.number (.ofInt 100)), .bound 2⟩⟩ ∧
      twoDigits.validate "age" (some (.number (.ofInt 100))) =
        twoDigits.validate "age" (some (.string " 1e2")) := by
  have buildable : twoDigits.Buildable :=
    ⟨_, [.greedy, .maxLength (.unsigned 2), .greedy], _, .start (.digits .number), rfl, rfl⟩
  have spelled : parseNumber? " 1e2" = some (.ofInt 100) := by decide +kernel
  have long : (Rule.maxLength 2 .digits).check (.number (.ofInt 100)) = false := by decide +kernel
  have fails : twoDigits.validate "age" (some (.string " 1e2")) =
      ⟨"age", some (.number (.ofInt 100)),
        .failed ⟨.maxLength, "age", some (.number (.ofInt 100)), .bound 2⟩⟩ := by
    have coerced : (Value.string " 1e2").coercedBy 2 = .number (.ofInt 100) := by
      rw [Value.coercedBy, if_neg (by decide), Value.coerced_of_spelled spelled]
    have shape : twoDigits.steps = List.replicate 2 (.replace .numericCoercion) ++
        [Rule.typeMatch .number, .maxLength 2 .digits].map .check := rfl
    rw [Pipeline.validate_some, shape, Step.run_coercions_checks, coerced, List.map_cons,
      List.map_cons, List.map_nil, Step.run_cons, Step.apply_of_accepted rfl, Step.run_cons,
      Step.apply_of_rejected long]
    rfl
  obtain ⟨-, carried⟩ := Pipeline.validate_fixpoint buildable "age" (some (.string " 1e2"))
  have failed := congrArg FieldState.outcome fails
  exact ⟨buildable, fails,
    carried ⟨.maxLength, "age", some (.number (.ofInt 100)), .bound 2⟩ failed⟩

end RecordCheck
