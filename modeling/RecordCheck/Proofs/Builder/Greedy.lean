import RecordCheck.Proofs.Builder.Canonical
import RecordCheck.Proofs.Builder.Run

/-!
# Coercion extends a chain

Calling `greedy` anywhere in a chain on numbers that does not coerce puts one
coercion in front of the same checks (`Start.exists_plan`). So the new chain
makes of a value what the old one makes of the coerced value
(`Plan.validate_coerced`), and it only differs on strings that spell a number,
all of which the old chain rejects: a value of another tag fails the first check
(`Plan.validate_of_tag_ne`).
-/

namespace RecordCheck

section Plans

variable {plan : Plan}

/-- One more coercion in front of a plan without any. -/
theorem Plan.validate_coerced (plain : plan.coercions = 0) (key : String) (value : Option Value) :
    { plan with coercions := plan.coercions + 1 }.pipeline.validate key value =
      plan.pipeline.validate key (value.map Value.coerced) := by
  cases value with
  | none =>
    rw [Option.map_none, Pipeline.validate_none, Pipeline.validate_none]
    rfl
  | some value =>
    have kept : plan.checked value.coerced = value.coerced := if_pos plain
    rw [Option.map_some, Plan.validate_some, Plan.validate_some, kept]
    rfl

/-- A value of another tag fails at once, and stays as the checks find it. -/
theorem Plan.validate_of_tag_ne (key : String) {value : Value}
    (other : (plan.checked value).tag ≠ plan.target) :
    plan.pipeline.validate key (some value) =
      ⟨key, some (plan.checked value),
        .failed ⟨.type, key, some (plan.checked value), .expected plan.target.name⟩⟩ := by
  have rejected : (Rule.typeMatch plan.target).check (plan.checked value) = false :=
    decide_eq_false other
  rw [Plan.validate_some, Plan.checks, List.map_cons, Step.run_cons,
    Step.apply_of_rejected rejected]
  exact Step.run_of_failed _ rfl

/-- What passes a plan without coercions has its tag. -/
theorem Plan.tag_of_isValid (plain : plan.coercions = 0) {key : String} {value : Value}
    (passes : (plan.pipeline.validate key (some value)).isValid = true) :
    value.tag = plan.target := by
  by_contra other
  have found : plan.checked value = value := if_pos plain
  rw [Plan.validate_of_tag_ne key (found.symm ▸ other)] at passes
  exact Bool.false_ne_true passes

end Plans

/-! ## The call in a chain -/

section Chains

variable {stage : Stage} {before after : List Call}

theorem Stage.measure?_afterAll {calls : List Call} (admitted : stage.Admits calls) :
    (stage.afterAll calls).measure? = stage.measure? := by
  induction calls generalizing stage with
  | nil => rfl
  | cons call rest ih => exact (ih admitted.2).trans (Stage.measure?_after admitted.1)

/-- Where numbers are measured, coercion may be asked for after every call. -/
theorem Stage.admits_greedy (measured : stage.measure? = some .digits)
    (admitted : stage.Admits (before ++ after)) : stage.Admits (before ++ .greedy :: after) := by
  obtain ⟨front, back⟩ := Stage.admits_append.mp admitted
  have here : (stage.afterAll before).measure? = some .digits :=
    (Stage.measure?_afterAll front).trans measured
  exact Stage.admits_append.mpr ⟨front, decide_eq_true here, back⟩

theorem Call.bounds_greedy : Call.bounds (before ++ .greedy :: after) =
    Call.bounds (before ++ after) := by
  rw [Call.bounds, List.filterMap_append, List.filterMap_cons_none rfl, ← List.filterMap_append,
    Call.bounds]

theorem Plan.afterAll_greedy (plan : Plan) :
    plan.afterAll (before ++ .greedy :: after) =
      { plan.afterAll (before ++ after) with
        coercions := (plan.afterAll (before ++ after)).coercions + 1 } := by
  have stage : plan.stage.afterAll (before ++ .greedy :: after) =
      plan.stage.afterAll (before ++ after) := by
    rw [Stage.afterAll, List.foldl_append, Stage.afterAll, List.foldl_append]
    rfl
  have required : (before ++ .greedy :: after).any Call.isRequired =
      (before ++ after).any Call.isRequired := by
    simp only [List.any_append, List.any_cons, Call.isRequired, Bool.false_or]
  have coercions : (before ++ .greedy :: after).countP Call.isGreedy =
      (before ++ after).countP Call.isGreedy + 1 := by
    simp only [List.countP_append, List.countP_cons, Call.isGreedy, if_true, Nat.add_assoc]
  simp only [Plan.afterAll_eq, stage, required, coercions, Nat.add_assoc]

end Chains

/-! ## Chains on numbers -/

/-- A chain without coercion builds a plan without any, and the chain with `greedy` called
somewhere builds the same plan with one. -/
theorem Start.exists_plan (start : Start) {before after : List Call} {plain : Builder}
    (measured : start.stage.measure? = some .digits)
    (admitted : start.stage.Admits (before ++ after))
    (uncoerced : (before ++ after).any Call.isGreedy = false)
    (built : start.builder.chain (before ++ after) = .ok plain) :
    ∃ plan : Plan, plan.target = start.target ∧ plan.coercions = 0 ∧ plain = plan.builder ∧
      start.builder.chain (before ++ .greedy :: after) =
        .ok { plan with coercions := plan.coercions + 1 }.builder := by
  rw [start.chain_eq admitted, Plan.built_eq_ok_iff] at built
  obtain ⟨rules, made, rfl⟩ := built
  have zero : (start.plan.afterAll (before ++ after)).coercions = 0 := by
    have counted : (before ++ after).countP Call.isGreedy = 0 :=
      List.countP_eq_zero.mpr (List.any_eq_false.mp uncoerced)
    rw [Plan.afterAll_eq, counted]
    rfl
  have target : (start.plan.afterAll (before ++ after)).target = start.target := by
    rw [Plan.afterAll_eq]
    rfl
  refine ⟨(start.plan.afterAll (before ++ after)).withRules rules, target, zero, rfl, ?_⟩
  rw [start.chain_eq (Stage.admits_greedy measured admitted), Call.bounds_greedy, made,
    Plan.afterAll_greedy]
  rfl

/-- Calling `greedy` anywhere in a chain on numbers extends what the chain does to the strings
that spell a number, and changes nothing else.

Such a string fares as its number does, down to the value that a failure reports; every other
value fares as before, so a string that spells none stays and fails as what it is. Whatever the
chain accepted is accepted with the same final value. -/
theorem Start.greedy_extends {before after : List Call}
    (admitted : (Start.digits .number).stage.Admits (before ++ after))
    (uncoerced : (before ++ after).any Call.isGreedy = false) {plain : Builder}
    (built : (Start.digits .number).builder.chain (before ++ after) = .ok plain) :
    (Start.digits .number).stage.Admits (before ++ .greedy :: after) ∧
    ∃ greedy, (Start.digits .number).builder.chain (before ++ .greedy :: after) = .ok greedy ∧
      (∀ key text x, parseNumber? text = some x →
        greedy.pipeline.validate key (some (.string text)) =
          plain.pipeline.validate key (some (.number x))) ∧
      (∀ key value, (∀ text x, value = some (.string text) → parseNumber? text ≠ some x) →
        greedy.pipeline.validate key value = plain.pipeline.validate key value) ∧
      (∀ key text, parseNumber? text = none →
        greedy.pipeline.validate key (some (.string text)) =
          ⟨key, some (.string text),
            .failed ⟨.type, key, some (.string text), .expected "number"⟩⟩) ∧
      ∀ key value, (plain.pipeline.validate key value).isValid = true →
        greedy.pipeline.validate key value = plain.pipeline.validate key value := by
  obtain ⟨plan, target, zero, rfl, greedyBuilt⟩ :=
    (Start.digits .number).exists_plan rfl admitted uncoerced built
  have coerced : ∀ key value,
      { plan with coercions := plan.coercions + 1 }.builder.pipeline.validate key value =
        plan.builder.pipeline.validate key (value.map Value.coerced) :=
    fun key value => Plan.validate_coerced zero key value
  refine ⟨Stage.admits_greedy rfl admitted, _, greedyBuilt, ?_, ?_, ?_, ?_⟩
  · intro key text x spelled
    rw [coerced, Option.map_some, Value.coerced_of_spelled spelled]
  · intro key value other
    have same : value.map Value.coerced = value := by
      cases value with
      | none => rfl
      | some value =>
        rw [Option.map_some, Value.coerced_of_not_spelled fun text x string =>
          other text x (congrArg some string)]
    rw [coerced, same]
  · intro key text unread
    have kept : (Value.string text).coerced = .string text := by
      refine Value.coerced_of_not_spelled fun other x string => ?_
      cases string
      rw [unread]
      nofun
    have found : plan.checked (.string text) = .string text := if_pos zero
    have differs : (plan.checked (.string text)).tag ≠ plan.target := by
      rw [found, target]
      nofun
    have fails := Plan.validate_of_tag_ne key differs
    rw [found, target] at fails
    rw [coerced, Option.map_some, kept]
    exact fails
  · intro key value passes
    rw [coerced]
    cases value with
    | none => rfl
    | some value =>
      have number : value.tag = .number := (Plan.tag_of_isValid zero passes).trans target
      have kept : value.coerced = value := by
        refine Value.coerced_of_not_spelled fun text x string => ?_
        subst string
        cases number
      rw [Option.map_some, kept]

/-- Coercion asked for between a bound and the refinement: a string of too many digits fails as the
number that it spells, a word fails as a word, and a number passes as before. -/
theorem Start.greedy_extends_maxLength :
    ∃ plain greedy : Builder,
      (Start.digits .number).stage.Admits ([.maxLength (.unsigned 2)] ++ [.integer]) ∧
      (Start.digits .number).builder.chain ([.maxLength (.unsigned 2)] ++ [.integer]) =
        .ok plain ∧
      (Start.digits .number).builder.chain ([.maxLength (.unsigned 2)] ++ .greedy :: [.integer]) =
        .ok greedy ∧
      parseNumber? " 1e2" = some (.ofInt 100) ∧
      greedy.pipeline.validate "age" (some (.string " 1e2")) =
        ⟨"age", some (.number (.ofInt 100)),
          .failed ⟨.maxLength, "age", some (.number (.ofInt 100)), .bound 2⟩⟩ ∧
      parseNumber? "abc" = none ∧
      greedy.pipeline.validate "age" (some (.string "abc")) =
        ⟨"age", some (.string "abc"),
          .failed ⟨.type, "age", some (.string "abc"), .expected "number"⟩⟩ ∧
      greedy.pipeline.validate "age" (some (.boolean true)) =
        plain.pipeline.validate "age" (some (.boolean true)) ∧
      greedy.pipeline.validate "age" none = ⟨"age", none, .valid⟩ := by
  have admitted :
      (Start.digits .number).stage.Admits ([.maxLength (.unsigned 2)] ++ [.integer]) :=
    ⟨rfl, rfl, trivial⟩
  have spelled : parseNumber? " 1e2" = some (.ofInt 100) := by decide +kernel
  have word : parseNumber? "abc" = none := by decide +kernel
  have built : (Start.digits .number).builder.chain ([.maxLength (.unsigned 2)] ++ [.integer]) =
      .ok ⟨.refined .integer, ⟨false, [.check (.typeMatch .number), .check .isInteger,
        .check (.maxLength 2 .digits)]⟩⟩ := rfl
  obtain ⟨-, greedy, greedyBuilt, number, other, stays, accepted⟩ :=
    Start.greedy_extends admitted rfl built
  refine ⟨_, greedy, admitted, built, greedyBuilt, spelled, ?_, word, stays "age" "abc" word,
    other "age" _ nofun, accepted "age" none rfl⟩
  rw [number "age" _ _ spelled]
  have integer : Rule.isInteger.check (.number (.ofInt 100)) = true := by decide +kernel
  have long : (Rule.maxLength 2 .digits).check (.number (.ofInt 100)) = false := by decide +kernel
  rw [Pipeline.validate_some, Step.run_cons, Step.apply_of_accepted rfl, Step.run_cons,
    Step.apply_of_accepted integer, Step.run_cons, Step.apply_of_rejected long]
  rfl

end RecordCheck
