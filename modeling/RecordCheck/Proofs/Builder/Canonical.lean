import RecordCheck.Proofs.Builder.Plan

/-!
# The canonical pipeline of a chain

Whatever order the calls of an admitted chain come in, the pipeline evaluates in
one order: coercions, the check of the tag, the refinement, and the bounds in
the order of their calls. A chain builds unless it sets a bound that is none,
and the first such bound is what it reports. `Start.chain_canonical` states this
for every prefix of an admitted chain, so it holds after each call.
-/

namespace RecordCheck

/-! ## Lists of results -/

section Results

variable {α β ε : Type} {f : α → Except ε β} {items : List α}

theorem mapM_cons_of_error {item : α} {rest : List α} {cause : ε} (bad : f item = .error cause) :
    (item :: rest).mapM f = .error cause := by
  rw [List.mapM_cons, bad]
  rfl

theorem mapM_cons_of_ok {item : α} {rest : List α} {result : β} (good : f item = .ok result) :
    (item :: rest).mapM f = (rest.mapM f).map (result :: ·) := by
  rw [List.mapM_cons, good]
  rfl

theorem mapM_eq_ok_iff {results : List β} :
    items.mapM f = .ok results ↔ items.map f = results.map .ok := by
  induction items generalizing results with
  | nil => cases results <;> simp [pure, Except.pure]
  | cons item rest ih =>
    rw [List.map_cons]
    cases first : f item with
    | error cause =>
      rw [mapM_cons_of_error first]
      cases results <;> simp
    | ok result =>
      rw [mapM_cons_of_ok first]
      cases results with
      | nil => cases rest.mapM f <;> simp [Except.map]
      | cons head tail =>
        rw [List.map_cons, List.cons.injEq, ← ih, Except.ok.injEq]
        cases rest.mapM f <;> simp [Except.map]

theorem mapM_eq_error_iff {cause : ε} :
    items.mapM f = .error cause ↔
      ∃ before item after, items = before ++ item :: after ∧
        (∀ other ∈ before, ∃ result, f other = .ok result) ∧ f item = .error cause := by
  induction items with
  | nil => simp [pure, Except.pure]
  | cons head rest ih =>
    cases first : f head with
    | error other =>
      rw [mapM_cons_of_error first]
      constructor
      · rintro ⟨⟩
        exact ⟨[], head, rest, rfl, by simp, first⟩
      · rintro ⟨before, item, after, same, fine, bad⟩
        cases before with
        | nil =>
          cases same
          exact congrArg Except.error (Except.error.inj (first.symm.trans bad))
        | cons start before =>
          cases same
          obtain ⟨result, good⟩ := fine head List.mem_cons_self
          cases first.symm.trans good
    | ok result =>
      have later : (rest.mapM f).map (result :: ·) = .error cause ↔ rest.mapM f = .error cause := by
        cases rest.mapM f <;> simp [Except.map]
      rw [mapM_cons_of_ok first, later, ih]
      constructor
      · rintro ⟨before, item, after, rfl, fine, bad⟩
        refine ⟨head :: before, item, after, rfl, ?_, bad⟩
        intro other member
        rcases List.mem_cons.mp member with rfl | member
        · exact ⟨result, first⟩
        · exact fine other member
      · rintro ⟨before, item, after, same, fine, bad⟩
        cases before with
        | nil =>
          cases same
          cases first.symm.trans bad
        | cons start before =>
          cases same
          exact ⟨before, item, after, rfl,
            fun other member => fine other (List.mem_cons_of_mem _ member), bad⟩

theorem exists_mapM_eq_ok_iff :
    (∃ results, items.mapM f = .ok results) ↔ ∀ item ∈ items, ∃ result, f item = .ok result := by
  constructor
  · rintro ⟨results, done⟩ item member
    have image : f item ∈ results.map Except.ok := by
      rw [← mapM_eq_ok_iff.mp done]
      exact List.mem_map_of_mem member
    obtain ⟨result, -, same⟩ := List.mem_map.mp image
    exact ⟨result, same.symm⟩
  · intro fine
    cases done : items.mapM f with
    | ok results => exact ⟨results, rfl⟩
    | error cause =>
      obtain ⟨before, item, after, rfl, -, bad⟩ := mapM_eq_error_iff.mp done
      obtain ⟨result, good⟩ := fine item (List.mem_append_right _ List.mem_cons_self)
      cases bad.symm.trans good

end Results

/-! ## What chains build -/

/-- Of the bounds that the calls set, the first that is none reports this cause. -/
def Call.FirstBadBound (calls : List Call) (cause : BoundError) : Prop :=
  ∃ before bound after, Call.bounds calls = before ++ bound :: after ∧
    (∀ other ∈ before, ∃ n, other.value = .ok n) ∧ bound.value = .error cause

theorem BoundCall.rule_eq_error_iff {measure : Measure} {bound : BoundCall} {cause : BoundError} :
    bound.rule measure = .error cause ↔ bound.value = .error cause := by
  unfold BoundCall.rule
  cases bound.value <;> simp [Except.map]

theorem BoundCall.exists_rule_iff {measure : Measure} {bound : BoundCall} :
    (∃ rule, bound.rule measure = .ok rule) ↔ ∃ n, bound.value = .ok n := by
  unfold BoundCall.rule
  cases bound.value <;> simp [Except.map]

theorem Plan.built_eq_ok_iff {plan : Plan} {rules : Except BoundError (List Rule)}
    {builder : Builder} :
    plan.built rules = .ok builder ↔
      ∃ made, rules = .ok made ∧ (plan.withRules made).builder = builder := by
  cases rules <;> simp [Plan.built]

theorem Plan.built_eq_error_iff {plan : Plan} {rules : Except BoundError (List Rule)}
    {error : ChainError} :
    plan.built rules = .error error ↔ ∃ cause, rules = .error cause ∧ error = .badBound cause := by
  cases rules <;> simp [Plan.built, eq_comm]

theorem Stage.Admits.of_prefix {stage : Stage} {made calls : List Call}
    (admitted : stage.Admits calls) (sofar : made <+: calls) : stage.Admits made := by
  obtain ⟨rest, rfl⟩ := sofar
  exact (Stage.admits_append.mp admitted).1

/-- The steps of the plan of a chain, counted off from its calls. -/
theorem Start.steps_afterAll (start : Start) {calls : List Call}
    (admitted : start.stage.Admits calls) (rules : List Rule) :
    ((start.plan.afterAll calls).withRules rules).steps =
      List.replicate (calls.countP Call.isGreedy) (.replace .numericCoercion) ++
        .check (.typeMatch start.target) ::
          (((start.stage.subtype?.or (calls.findSome? Call.subtype?)).toList.map
              fun subtype => .check subtype.rule) ++
            rules.map .check) := by
  rw [Plan.afterAll_eq, ← Stage.subtype?_afterAll admitted]
  simp only [Plan.steps, Plan.checks, Plan.withRules, Start.plan, Nat.zero_add, List.nil_append,
    List.map_cons, List.map_append, List.map_map, Function.comp_def]

/-- After every call of an admitted chain, from every start, and so from every factory: the calls
so far build exactly if every bound they set is one, and otherwise they report the first that is
none. What they build is required exactly if `required` was called, and its steps are one coercion
for each `greedy`, the check of the tag, the check of the refinement if there is one, and one check
for each bound in the order of the calls, on the measure of the start. -/
theorem Start.chain_canonical (start : Start) {calls made : List Call}
    (admitted : start.stage.Admits calls) (sofar : made <+: calls) :
    (∀ name, (name, start) ∈ Start.factories → Builder.named? name = some start.builder) ∧
      start.stage.measure? = start.measure? ∧
      ((∃ builder, start.builder.chain made = .ok builder) ↔
        ∀ bound ∈ Call.bounds made, ∃ n, bound.value = .ok n) ∧
      (∀ error, start.builder.chain made = .error error ↔
        ∃ cause, Call.FirstBadBound made cause ∧ error = .badBound cause) ∧
      ∀ builder, start.builder.chain made = .ok builder →
        ∃ rules : List Rule,
          (Call.bounds made).map (BoundCall.rule start.stage.measure) = rules.map .ok ∧
          builder.pipeline.required = made.any Call.isRequired ∧
          builder.pipeline.steps =
            List.replicate (made.countP Call.isGreedy) (.replace .numericCoercion) ++
              .check (.typeMatch start.target) ::
                (((start.stage.subtype?.or (made.findSome? Call.subtype?)).toList.map
                    fun subtype => .check subtype.rule) ++
                  rules.map .check) := by
  have admitted := admitted.of_prefix sofar
  rw [start.chain_eq admitted]
  refine ⟨fun name listed => Start.named?_factory _ listed, start.stage_measure?, ?_, ?_, ?_⟩
  · simp only [Plan.built_eq_ok_iff]
    constructor
    · rintro ⟨_, rules, done, -⟩ bound member
      exact BoundCall.exists_rule_iff.mp (exists_mapM_eq_ok_iff.mp ⟨rules, done⟩ bound member)
    · intro fine
      obtain ⟨rules, done⟩ := exists_mapM_eq_ok_iff.mpr fun bound member =>
        BoundCall.exists_rule_iff.mpr (fine bound member)
      exact ⟨_, rules, done, rfl⟩
  · intro error
    simp only [Plan.built_eq_error_iff, mapM_eq_error_iff, BoundCall.exists_rule_iff,
      BoundCall.rule_eq_error_iff, Call.FirstBadBound]
  · intro builder built
    obtain ⟨rules, done, rfl⟩ := Plan.built_eq_ok_iff.mp built
    refine ⟨rules, mapM_eq_ok_iff.mp done, ?_, start.steps_afterAll admitted rules⟩
    rw [Plan.afterAll_eq]
    exact Bool.false_or _

/-- Numbers with their calls in an order far from that of evaluation: a bound, two coercions
around the refinement and the flag, another bound, and a bound that is none. -/
def Call.scattered : List Call :=
  [.maxLength (.unsigned 2), .greedy, .required, .integer, .greedy, .minLength (.signed 1),
   .length (.signed (-1))]

/-- From the factory of numbers, the steps come in the order of evaluation, and the bound that is
none is reported. -/
theorem Start.chain_canonical_scattered :
    Builder.named? "number" = some (Start.digits .number).builder ∧
      (Start.digits .number).stage.Admits Call.scattered ∧
      Call.scattered.take 6 <+: Call.scattered ∧
      (∃ builder, (Start.digits .number).builder.chain (Call.scattered.take 6) = .ok builder ∧
        builder.pipeline.required = true ∧
        builder.pipeline.steps =
          [.replace .numericCoercion, .replace .numericCoercion, .check (.typeMatch .number),
           .check .isInteger, .check (.maxLength 2 .digits), .check (.minLength 1 .digits)]) ∧
      (Start.digits .number).builder.chain Call.scattered =
        .error (.badBound (.negative .length (.ofInt (-1)))) := by
  have admitted : (Start.digits .number).stage.Admits Call.scattered :=
    ⟨rfl, rfl, rfl, rfl, rfl, rfl, rfl, trivial⟩
  have sofar : Call.scattered.take 6 <+: Call.scattered := List.take_prefix 6 _
  have fine : ∀ bound ∈ Call.bounds (Call.scattered.take 6), ∃ n, bound.value = .ok n := by
    intro bound member
    rcases List.mem_cons.mp member with rfl | member
    · exact ⟨2, rfl⟩
    · rcases List.mem_cons.mp member with rfl | member
      · exact ⟨1, rfl⟩
      · cases member
  have listed : ("number", Start.digits .number) ∈ Start.factories := by
    simp [Start.factories]
  obtain ⟨factory, -, builds, -, canonical⟩ :=
    (Start.digits .number).chain_canonical admitted sofar
  obtain ⟨-, -, -, fails, -⟩ := (Start.digits .number).chain_canonical admitted List.prefix_rfl
  refine ⟨factory "number" listed, admitted, sofar, ?_,
    (fails _).mpr ⟨_, ⟨_, _, [], rfl, fine, rfl⟩, rfl⟩⟩
  obtain ⟨builder, built⟩ := builds.mpr fine
  obtain ⟨rules, made, required, steps⟩ := canonical builder built
  have same : rules = [.maxLength 2 .digits, .minLength 1 .digits] :=
    (List.map_inj_right fun _ _ => Except.ok.inj).mp made.symm
  subst same
  exact ⟨builder, built, required, steps⟩

end RecordCheck
