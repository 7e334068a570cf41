import RecordCheck.Proofs.Builder.Run

/-!
# The order of calls cannot be observed

Two chains from one start are alike if they set the same bounds in the same
order, choose the same refinement, and both or neither ask for presence and for
coercion (`Call.Alike`). Such chains fail with the same error, or they build
pipelines that bring every field to the same final state
(`Start.indistinct_of_alike`). So the modifiers `required` and `greedy` may stand
anywhere and any number of times.
-/

namespace RecordCheck

/-! ## Chains that ask for the same -/

/-- The method of a bound and what its argument stands for. -/
def BoundCall.asked (bound : BoundCall) : BoundMethod × Except BoundError Nat :=
  (bound.method, bound.value)

/-- The rule of a method with what the argument stands for. -/
def BoundCall.ruleAsked (measure : Measure) (asked : BoundMethod × Except BoundError Nat) :
    Except BoundError Rule :=
  asked.2.map (asked.1.rule measure)

/-- Two chains ask for the same, if not in the same places nor equally often. -/
structure Call.Alike (calls others : List Call) : Prop where
  bounds : (Call.bounds calls).map BoundCall.asked = (Call.bounds others).map BoundCall.asked
  subtype : calls.findSome? Call.subtype? = others.findSome? Call.subtype?
  required : calls.any Call.isRequired = others.any Call.isRequired
  greedy : calls.any Call.isGreedy = others.any Call.isGreedy

/-- Two results of chains that no field can tell apart: the same error, or builders that bring
every field to the same final state. -/
def Builder.Indistinct : Except ChainError Builder → Except ChainError Builder → Prop
  | .ok builder, .ok other =>
    ∀ key value, builder.pipeline.validate key value = other.pipeline.validate key value
  | .error error, .error other => error = other
  | _, _ => False

theorem BoundCall.mapM_rule_eq (measure : Measure) (bounds : List BoundCall) :
    bounds.mapM (BoundCall.rule measure) =
      (bounds.map BoundCall.asked).mapM (BoundCall.ruleAsked measure) := by
  rw [List.mapM_map]
  rfl

/-- Plans with the same checks and flag that both or neither coerce give the same final states. -/
theorem Plan.validate_congr {plan other : Plan} (checks : plan.checks = other.checks)
    (required : plan.required = other.required)
    (coercions : plan.coercions = 0 ↔ other.coercions = 0) (key : String) (value : Option Value) :
    plan.pipeline.validate key value = other.pipeline.validate key value := by
  cases value with
  | none =>
    rw [Pipeline.validate_none, Pipeline.validate_none]
    show FieldState.mk key none (if plan.required then _ else _) = _
    rw [required]
    rfl
  | some value =>
    have checked : plan.checked value = other.checked value := by
      unfold Plan.checked
      simp only [coercions]
    rw [Plan.validate_some, Plan.validate_some, checks, checked]

theorem Call.countP_isGreedy_eq_zero_iff {calls : List Call} :
    calls.countP Call.isGreedy = 0 ↔ calls.any Call.isGreedy = false := by
  rw [List.countP_eq_zero, List.any_eq_false]

/-- Chains that ask for the same cannot be told apart. -/
theorem Start.indistinct_of_alike (start : Start) {calls others : List Call}
    (admitted : start.stage.Admits calls) (othersAdmitted : start.stage.Admits others)
    (alike : Call.Alike calls others) :
    Builder.Indistinct (start.builder.chain calls) (start.builder.chain others) := by
  rw [start.chain_eq admitted, start.chain_eq othersAdmitted,
    BoundCall.mapM_rule_eq, BoundCall.mapM_rule_eq, alike.bounds]
  cases ((Call.bounds others).map BoundCall.asked).mapM
    (BoundCall.ruleAsked start.stage.measure) with
  | error cause => rfl
  | ok rules =>
    have subtype :
        (start.stage.afterAll calls).subtype? = (start.stage.afterAll others).subtype? := by
      rw [Stage.subtype?_afterAll admitted, Stage.subtype?_afterAll othersAdmitted, alike.subtype]
    apply Plan.validate_congr
    · rw [Plan.afterAll_eq, Plan.afterAll_eq]
      show Rule.typeMatch _ :: ((start.stage.afterAll calls).subtype?.toList.map _ ++ _) = _
      rw [subtype]
      rfl
    · rw [Plan.afterAll_eq, Plan.afterAll_eq]
      show (false || calls.any _) = (false || others.any _)
      rw [alike.required]
    · rw [Plan.afterAll_eq, Plan.afterAll_eq]
      show 0 + calls.countP _ = 0 ↔ 0 + others.countP _ = 0
      rw [Nat.zero_add, Nat.zero_add, Call.countP_isGreedy_eq_zero_iff,
        Call.countP_isGreedy_eq_zero_iff, alike.greedy]

/-! ## Modifiers -/

/-- The calls that may stand anywhere in a chain: `required` and `greedy`. -/
def Call.isModifier (call : Call) : Bool := call.isRequired || call.isGreedy

section Modifiers

variable {modifier other : Call} {before after : List Call} {stage : Stage}

theorem Call.bound?_of_modifier (anywhere : modifier.isModifier = true) :
    modifier.bound? = none := by
  cases modifier <;> first | rfl | cases anywhere

theorem Call.subtype?_of_modifier (anywhere : modifier.isModifier = true) :
    modifier.subtype? = none := by
  cases modifier <;> first | rfl | cases anywhere

theorem Stage.after_modifier (anywhere : modifier.isModifier = true) :
    stage.after modifier = stage := by
  cases modifier <;> first | rfl | cases anywhere

theorem Call.admittedAt_of_measure? {next : Stage} (anywhere : modifier.isModifier = true)
    (same : next.measure? = stage.measure?) :
    modifier.admittedAt next = modifier.admittedAt stage := by
  cases modifier with
  | required => rfl
  | greedy => rw [Call.admittedAt, same, Call.admittedAt]
  | _ => cases anywhere

theorem Stage.admits_swap_iff (anywhere : modifier.isModifier = true) :
    stage.Admits (before ++ modifier :: other :: after) ↔
      stage.Admits (before ++ other :: modifier :: after) := by
  rw [Stage.admits_append, Stage.admits_append]
  refine and_congr_right fun _ => ?_
  show _ ∧ _ ∧ (((stage.afterAll before).after modifier).after other).Admits after ↔
    _ ∧ _ ∧ (((stage.afterAll before).after other).after modifier).Admits after
  rw [Stage.after_modifier anywhere, Stage.after_modifier anywhere]
  constructor
  · rintro ⟨modifierThere, otherThere, rest⟩
    rw [Call.admittedAt_of_measure? anywhere (Stage.measure?_after otherThere)]
    exact ⟨otherThere, modifierThere, rest⟩
  · rintro ⟨otherThere, modifierThere, rest⟩
    rw [Call.admittedAt_of_measure? anywhere (Stage.measure?_after otherThere)] at modifierThere
    exact ⟨modifierThere, otherThere, rest⟩

theorem Stage.admits_twice_iff (anywhere : modifier.isModifier = true) :
    stage.Admits (before ++ modifier :: modifier :: after) ↔
      stage.Admits (before ++ modifier :: after) := by
  rw [Stage.admits_append, Stage.admits_append]
  refine and_congr_right fun _ => ?_
  show _ ∧ _ ∧ (((stage.afterAll before).after modifier).after modifier).Admits after ↔
    _ ∧ ((stage.afterAll before).after modifier).Admits after
  rw [Stage.after_modifier anywhere, Stage.after_modifier anywhere]
  exact ⟨fun admitted => admitted.2, fun admitted => ⟨admitted.1, admitted⟩⟩

theorem Call.alike_swap (anywhere : modifier.isModifier = true) :
    Call.Alike (before ++ modifier :: other :: after) (before ++ other :: modifier :: after) where
  bounds := by
    simp only [Call.bounds, List.filterMap_append, List.filterMap_cons,
      Call.bound?_of_modifier anywhere]
  subtype := by
    simp only [List.findSome?_append, List.findSome?_cons, Call.subtype?_of_modifier anywhere]
  required := by
    simp only [List.any_append, List.any_cons, Bool.or_left_comm]
  greedy := by
    simp only [List.any_append, List.any_cons, Bool.or_left_comm]

theorem Call.alike_twice (anywhere : modifier.isModifier = true) :
    Call.Alike (before ++ modifier :: modifier :: after) (before ++ modifier :: after) where
  bounds := by
    simp only [Call.bounds, List.filterMap_append, List.filterMap_cons,
      Call.bound?_of_modifier anywhere]
  subtype := by
    simp only [List.findSome?_append, List.findSome?_cons, Call.subtype?_of_modifier anywhere]
  required := by
    simp only [List.any_append, List.any_cons, Bool.or_self_left]
  greedy := by
    simp only [List.any_append, List.any_cons, Bool.or_self_left]

end Modifiers

/-- The places and the number of modifiers cannot be observed.

Two admitted chains from one start that build and ask for the same bring every field to the
same final state. In particular a modifier may be exchanged with the call next to it, and given
twice instead of once: the stages admit the chain as before, and it ends with the same error or
with a pipeline of the same final states. -/
theorem Start.call_order_unobservable (start : Start) :
    (∀ calls others builder other,
      start.stage.Admits calls → start.stage.Admits others →
      start.builder.chain calls = .ok builder → start.builder.chain others = .ok other →
      Call.Alike calls others →
      ∀ key value,
        builder.pipeline.validate key value = other.pipeline.validate key value) ∧
    ∀ before modifier after, modifier.isModifier = true →
      (∀ other,
        (start.stage.Admits (before ++ modifier :: other :: after) ↔
          start.stage.Admits (before ++ other :: modifier :: after)) ∧
        (start.stage.Admits (before ++ modifier :: other :: after) →
          Builder.Indistinct (start.builder.chain (before ++ modifier :: other :: after))
            (start.builder.chain (before ++ other :: modifier :: after)))) ∧
      (start.stage.Admits (before ++ modifier :: modifier :: after) ↔
        start.stage.Admits (before ++ modifier :: after)) ∧
      (start.stage.Admits (before ++ modifier :: after) →
        Builder.Indistinct (start.builder.chain (before ++ modifier :: modifier :: after))
          (start.builder.chain (before ++ modifier :: after))) := by
  constructor
  · intro calls others builder other admitted othersAdmitted built otherBuilt alike
    have indistinct := start.indistinct_of_alike admitted othersAdmitted alike
    rw [built, otherBuilt] at indistinct
    exact indistinct
  · intro before modifier after anywhere
    refine ⟨fun other => ⟨Stage.admits_swap_iff anywhere, fun admitted => ?_⟩,
      Stage.admits_twice_iff anywhere, fun admitted => ?_⟩
    · exact start.indistinct_of_alike admitted
        ((Stage.admits_swap_iff anywhere).mp admitted) (Call.alike_swap anywhere)
    · exact start.indistinct_of_alike ((Stage.admits_twice_iff anywhere).mpr admitted) admitted
        (Call.alike_twice anywhere)

/-- Five calls and four calls that ask for the same: the pipelines differ in length, and no field
can tell. The modifier `greedy` may change places with the refinement. -/
theorem Start.call_order_unobservable_late_integer :
    ∃ calls others : List Call, ∃ builder other : Builder,
      ((Start.digits .number).stage.Admits calls ∧ (Start.digits .number).stage.Admits others ∧
        (Start.digits .number).builder.chain calls = .ok builder ∧
        (Start.digits .number).builder.chain others = .ok other ∧ Call.Alike calls others ∧
        builder.pipeline.steps.length = 5 ∧ other.pipeline.steps.length = 4 ∧
        ∀ key value,
          builder.pipeline.validate key value = other.pipeline.validate key value) ∧
      Call.greedy.isModifier = true ∧
      (Start.digits .number).stage.Admits ([.required] ++ .greedy :: .integer :: []) ∧
      Builder.Indistinct ((Start.digits .number).builder.chain [.required, .greedy, .integer])
        ((Start.digits .number).builder.chain [.required, .integer, .greedy]) := by
  let calls : List Call := [.maxLength (.unsigned 2), .greedy, .required, .integer, .greedy]
  let others : List Call := [.required, .integer, .greedy, .maxLength (.signed 2)]
  have admitted : (Start.digits .number).stage.Admits calls := ⟨rfl, rfl, rfl, rfl, rfl, trivial⟩
  have othersAdmitted : (Start.digits .number).stage.Admits others := ⟨rfl, rfl, rfl, rfl, trivial⟩
  have alike : Call.Alike calls others := ⟨rfl, rfl, rfl, rfl⟩
  have modified : (Start.digits .number).stage.Admits ([.required] ++ .greedy :: .integer :: []) :=
    ⟨rfl, rfl, rfl, trivial⟩
  obtain ⟨agree, modify⟩ := (Start.digits .number).call_order_unobservable
  exact ⟨calls, others, _, _,
    ⟨admitted, othersAdmitted, rfl, rfl, alike, rfl, rfl,
      agree calls others _ _ admitted othersAdmitted rfl rfl alike⟩,
    rfl, modified, ((modify [.required] .greedy [] rfl).1 .integer).2 modified⟩

end RecordCheck
