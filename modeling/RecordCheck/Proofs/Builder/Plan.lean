import RecordCheck.Builder

/-!
# Plans of builder chains

`Builder.chain` changes a pipeline call by call: coercions come in at the front,
the refinement searches for its place, bounds go to the end. A `Plan` holds what
the calls so far have asked for, whatever their order: a flag, a number of
coercions, the stage with its refinement, and the rules of the bounds.
`Plan.steps` lists the steps in their one order of evaluation.

* `Stage.Admits` says which chains the stages admit, and `Call.bounds` which
  bounds a chain sets.
* `Plan.call_builder`: a call on the builder of a plan gives the builder of the
  plan with the call, or the error of the bound that the call sets.
* `Start.chain_eq`: so does a whole chain from any start.
* `Start.named?_factory`: the factories give the builders of their starts.
-/

namespace RecordCheck

/-! ## Chains that the stages admit -/

/-- The stage after an admitted call. -/
def Stage.after (stage : Stage) (call : Call) : Stage :=
  match call with
  | .integer => .refined .integer
  | .float => .refined .float
  | _ => stage

/-- The stage after admitted calls. -/
def Stage.afterAll (stage : Stage) (calls : List Call) : Stage := calls.foldl Stage.after stage

/-- Every call is admitted at the stage that the calls before it lead to. -/
def Stage.Admits (stage : Stage) : List Call → Prop
  | [] => True
  | call :: rest => call.admittedAt stage = true ∧ (stage.after call).Admits rest

/-- The measure of bounds on the length. Stages without one admit no such bound. -/
def Stage.measure (stage : Stage) : Measure := stage.measure?.getD .collection

theorem Stage.admits_append {stage : Stage} {front rest : List Call} :
    stage.Admits (front ++ rest) ↔ stage.Admits front ∧ (stage.afterAll front).Admits rest := by
  induction front generalizing stage with
  | nil => exact (iff_of_eq (true_and _)).symm
  | cons call front ih =>
    show _ ∧ (stage.after call).Admits (front ++ rest) ↔ (_ ∧ _) ∧ _
    rw [ih, and_assoc]
    rfl

theorem Stage.measure?_after {stage : Stage} {call : Call}
    (admitted : call.admittedAt stage = true) : (stage.after call).measure? = stage.measure? := by
  cases call <;> try rfl
  all_goals
    simp only [Call.admittedAt, Bool.and_eq_true, decide_eq_true_eq] at admitted
    rw [admitted.1]
    rfl

theorem Stage.measure_after {stage : Stage} {call : Call}
    (admitted : call.admittedAt stage = true) : (stage.after call).measure = stage.measure := by
  rw [Stage.measure, Stage.measure?_after admitted, Stage.measure]

/-! ## What a call asks for -/

/-- The calls that set a bound, without their arguments. -/
inductive BoundMethod
  | maxLength
  | minLength
  | length
  | decimal
  deriving DecidableEq

/-- The kind of rule that the bound is for. -/
def BoundMethod.kind : BoundMethod → FailureKind
  | .maxLength => .maxLength
  | .minLength => .minLength
  | .length => .length
  | .decimal => .decimal

/-- The rule with a bound. -/
def BoundMethod.rule (method : BoundMethod) (measure : Measure) (n : Nat) : Rule :=
  match method with
  | .maxLength => .maxLength n measure
  | .minLength => .minLength n measure
  | .length => .exactLength n measure
  | .decimal => .decimalPlaces n

/-- A call that sets a bound. -/
structure BoundCall where
  method : BoundMethod
  argument : Numeral

/-- The bound that the argument stands for. -/
def BoundCall.value (bound : BoundCall) : Except BoundError Nat :=
  bound.argument.toBound bound.method.kind

/-- The rule that the call appends. -/
def BoundCall.rule (measure : Measure) (bound : BoundCall) : Except BoundError Rule :=
  bound.value.map (bound.method.rule measure)

namespace Call

/-- The bound that the call sets, if it sets one. -/
def bound? : Call → Option BoundCall
  | .maxLength argument => some ⟨.maxLength, argument⟩
  | .minLength argument => some ⟨.minLength, argument⟩
  | .length argument => some ⟨.length, argument⟩
  | .decimal argument => some ⟨.decimal, argument⟩
  | _ => none

/-- The bounds that the calls set, in the order of the calls. -/
def bounds (calls : List Call) : List BoundCall := calls.filterMap bound?

/-- The refinement that the call chooses, if it chooses one. -/
def subtype? : Call → Option Subtype
  | .integer => some .integer
  | .float => some .float
  | _ => none

/-- Whether the call makes absence a failure. -/
def isRequired : Call → Bool
  | .required => true
  | _ => false

/-- Whether the call asks for coercion. -/
def isGreedy : Call → Bool
  | .greedy => true
  | _ => false

end Call

theorem Call.bounds_cons (call : Call) (rest : List Call) :
    Call.bounds (call :: rest) = call.bound?.toList ++ Call.bounds rest := by
  cases sets : call.bound? with
  | none => rw [Call.bounds, List.filterMap_cons_none sets]; rfl
  | some bound => rw [Call.bounds, List.filterMap_cons_some sets]; rfl

theorem Stage.subtype?_after {stage : Stage} {call : Call}
    (admitted : call.admittedAt stage = true) :
    (stage.after call).subtype? = stage.subtype?.or call.subtype? := by
  cases call with
  | integer | float =>
    simp only [Call.admittedAt, Bool.and_eq_true, Option.isNone_iff_eq_none] at admitted
    rw [admitted.2]
    rfl
  | _ => exact (Option.or_none).symm

theorem Stage.subtype?_afterAll {stage : Stage} {calls : List Call}
    (admitted : stage.Admits calls) :
    (stage.afterAll calls).subtype? = stage.subtype?.or (calls.findSome? Call.subtype?) := by
  induction calls generalizing stage with
  | nil => exact (Option.or_none).symm
  | cons call rest ih =>
    show ((stage.after call).afterAll rest).subtype? = _
    rw [ih admitted.2, Stage.subtype?_after admitted.1, Option.or_assoc, List.findSome?_cons]
    cases call.subtype? <;> rfl

/-! ## Plans -/

/-- What a chain has asked for so far. -/
structure Plan where
  stage : Stage
  target : Tag
  required : Bool := false
  coercions : Nat := 0
  rules : List Rule := []

namespace Plan

/-- The checks in the order of their evaluation: the tag, the refinement, the bounds. -/
def checks (plan : Plan) : List Rule :=
  .typeMatch plan.target :: (plan.stage.subtype?.toList.map Subtype.rule ++ plan.rules)

/-- The steps in the order of their evaluation: coercions come before all checks. -/
def steps (plan : Plan) : List Step :=
  List.replicate plan.coercions (.replace .numericCoercion) ++ plan.checks.map .check

/-- The pipeline that does what the plan asks for. -/
def pipeline (plan : Plan) : Pipeline := ⟨plan.required, plan.steps⟩

/-- The builder that stands where the plan does. -/
def builder (plan : Plan) : Builder := ⟨plan.stage, plan.pipeline⟩

/-- The plan with what a call asks for besides a bound. -/
def after (plan : Plan) (call : Call) : Plan :=
  { plan with
    stage := plan.stage.after call
    required := plan.required || call.isRequired
    coercions := plan.coercions + if call.isGreedy then 1 else 0 }

/-- The plan with what the calls ask for besides bounds. -/
def afterAll (plan : Plan) (calls : List Call) : Plan := calls.foldl after plan

/-- The plan with more rules of bounds. -/
def withRules (plan : Plan) (rules : List Rule) : Plan := { plan with rules := plan.rules ++ rules }

/-- What a chain gives: the builder of the plan with the rules, or the error of a bound. -/
def built (plan : Plan) (rules : Except BoundError (List Rule)) : Except ChainError Builder :=
  match rules with
  | .ok rules => .ok (plan.withRules rules).builder
  | .error cause => .error (.badBound cause)

end Plan

section Plans

variable {plan : Plan} {call : Call}

theorem Plan.withRules_nil (plan : Plan) : plan.withRules [] = plan := by
  rw [Plan.withRules, List.append_nil]

theorem Plan.withRules_withRules (plan : Plan) (rules more : List Rule) :
    (plan.withRules rules).withRules more = plan.withRules (rules ++ more) := by
  rw [Plan.withRules, Plan.withRules, Plan.withRules, List.append_assoc]

theorem Plan.afterAll_withRules (plan : Plan) (rules : List Rule) (calls : List Call) :
    (plan.withRules rules).afterAll calls = (plan.afterAll calls).withRules rules := by
  induction calls generalizing plan with
  | nil => rfl
  | cons call rest ih => exact ih (plan.after call)

/-- What is asked for counts, and the order of the calls does not. -/
theorem Plan.afterAll_eq (plan : Plan) (calls : List Call) :
    plan.afterAll calls =
      { plan with
        stage := plan.stage.afterAll calls
        required := plan.required || calls.any Call.isRequired
        coercions := plan.coercions + calls.countP Call.isGreedy } := by
  induction calls generalizing plan with
  | nil => rw [List.any_nil, Bool.or_false]; rfl
  | cons call rest ih =>
    show (plan.after call).afterAll rest = _
    rw [ih, List.any_cons, List.countP_cons, ← Bool.or_assoc, Nat.add_comm (rest.countP _),
      ← Nat.add_assoc]
    rfl

/-! ## Calls on the builder of a plan -/

/-- The place behind the first check of a type, when nothing before it is one. -/
theorem Pipeline.insertAfterType_append {front rest : List Step} {first : Step} (step : Step)
    (plain : ∀ other ∈ front, other.checksType = false) (checks : first.checksType = true) :
    Pipeline.insertAfterType (front ++ first :: rest) step = front ++ first :: step :: rest := by
  induction front with
  | nil => exact if_pos checks
  | cons other front ih =>
    have here : other.checksType = false := plain other List.mem_cons_self
    have there := ih fun another member => plain another (List.mem_cons_of_mem other member)
    show (if other.checksType then _ else other :: Pipeline.insertAfterType (front ++ _) step) = _
    rw [here, if_neg Bool.false_ne_true, there]
    rfl

theorem Plan.prepend_pipeline (plan : Plan) :
    plan.pipeline.prepend (.replace .numericCoercion) = (plan.after .greedy).pipeline := by
  show Pipeline.mk plan.required _ = Pipeline.mk (plan.required || false) _
  rw [Bool.or_false]
  rfl

theorem Plan.append_pipeline (plan : Plan) (rule : Rule) :
    plan.pipeline.append (.check rule) = (plan.withRules [rule]).pipeline := by
  simp only [Pipeline.append, Plan.pipeline, Plan.steps, Plan.checks, Plan.withRules,
    List.map_cons, List.map_append, List.map_nil, List.append_assoc, List.cons_append]

/-- The first check of a plan is the one of the tag, so the refinement comes right behind it. -/
theorem Plan.refine_pipeline {subtype : Subtype} (unrefined : plan.stage.subtype? = none) :
    plan.pipeline.refine (.check subtype.rule) =
      { plan with stage := .refined subtype }.pipeline := by
  have coercionsOnly : ∀ other ∈ List.replicate plan.coercions (Step.replace .numericCoercion),
      other.checksType = false := by
    intro other member
    rw [List.eq_of_mem_replicate member]
    rfl
  simp only [Pipeline.refine, Plan.pipeline, Plan.steps, Plan.checks, unrefined,
    Option.toList_none, List.map_nil, List.nil_append, List.map_cons]
  rw [Pipeline.insertAfterType_append _ coercionsOnly rfl]
  rfl

theorem Plan.addBound_builder (plan : Plan) (kind : FailureKind) (argument : Numeral)
    (rule : Nat → Rule) :
    plan.builder.addBound kind argument rule =
      plan.built (((argument.toBound kind).map rule).map fun rule => [rule]) := by
  unfold Builder.addBound
  cases argument.toBound kind with
  | error cause => rfl
  | ok n =>
    show Except.ok (Builder.mk plan.stage (plan.pipeline.append (.check (rule n)))) = _
    rw [Plan.append_pipeline]
    rfl

theorem Plan.addLength_builder {kind : FailureKind} {argument : Numeral}
    {rule : Nat → Measure → Rule} (measured : plan.stage.measure?.isSome) :
    plan.builder.addLength call kind argument rule =
      plan.built (((argument.toBound kind).map (rule · plan.stage.measure)).map
        fun rule => [rule]) := by
  obtain ⟨measure, found⟩ := Option.isSome_iff_exists.mp measured
  have same : plan.stage.measure = measure := by rw [Stage.measure, found]; rfl
  have there : plan.builder.stage.measure? = some measure := found
  unfold Builder.addLength
  rw [← Plan.addBound_builder, same, there]

theorem Plan.markRequired_pipeline (plan : Plan) :
    plan.pipeline.markRequired = (plan.after .required).pipeline := by
  show Pipeline.mk true _ = Pipeline.mk (plan.required || true) _
  rw [Bool.or_true]
  rfl

theorem Plan.built_nil (plan : Plan) : plan.built (.ok []) = .ok plan.builder := by
  rw [Plan.built, Plan.withRules_nil]

theorem Plan.after_of_bound {bound : BoundCall} (sets : call.bound? = some bound) :
    plan.after call = plan := by
  cases call with
  | required | greedy | integer | float => cases sets
  | maxLength | minLength | length | decimal =>
    show { plan with required := plan.required || false } = plan
    rw [Bool.or_false]

theorem BoundCall.mapM_rule_singleton (measure : Measure) (bound : BoundCall) :
    [bound].mapM (BoundCall.rule measure) = (bound.rule measure).map fun rule => [rule] := by
  rw [List.mapM_cons, List.mapM_nil]
  cases bound.rule measure <;> rfl

/-- A call on the builder of a plan gives the builder of the plan with the call, unless the
call sets a bound that is none. -/
theorem Plan.call_builder (admitted : call.admittedAt plan.stage = true) :
    plan.builder.call call =
      (plan.after call).built (call.bound?.toList.mapM (BoundCall.rule plan.stage.measure)) := by
  have there : call.admittedAt plan.builder.stage = true := admitted
  unfold Builder.call
  rw [if_pos there]
  cases call with
  | required =>
    show Except.ok (Builder.mk plan.stage plan.pipeline.markRequired) = Plan.built _ (.ok [])
    rw [Plan.markRequired_pipeline, Plan.built_nil]
    rfl
  | greedy =>
    show Except.ok (Builder.mk plan.stage (plan.pipeline.prepend _)) = Plan.built _ (.ok [])
    rw [Plan.prepend_pipeline, Plan.built_nil]
    rfl
  | integer | float =>
    simp only [Call.admittedAt, Bool.and_eq_true, Option.isNone_iff_eq_none] at admitted
    show Except.ok (Builder.mk _ (plan.pipeline.refine (.check _))) = Plan.built _ (.ok [])
    rw [Plan.refine_pipeline admitted.2, Plan.built_nil]
    show _ = Except.ok (Builder.mk _ (Pipeline.mk (plan.required || false) _))
    rw [Bool.or_false]
    rfl
  | maxLength argument | minLength argument | length argument =>
    rw [Plan.after_of_bound rfl]
    show plan.builder.addLength _ _ _ _ = plan.built ([_].mapM _)
    rw [Plan.addLength_builder admitted, BoundCall.mapM_rule_singleton]
    rfl
  | decimal argument =>
    rw [Plan.after_of_bound rfl]
    show plan.builder.addBound _ _ _ = plan.built ([_].mapM _)
    rw [Plan.addBound_builder, BoundCall.mapM_rule_singleton]
    rfl

/-- So does a chain of calls; the first bound that is none ends it. -/
theorem Plan.chain_builder (plan : Plan) {calls : List Call} (admitted : plan.stage.Admits calls) :
    plan.builder.chain calls =
      (plan.afterAll calls).built
        ((Call.bounds calls).mapM (BoundCall.rule plan.stage.measure)) := by
  induction calls generalizing plan with
  | nil => exact (Plan.built_nil plan).symm
  | cons call rest ih =>
    obtain ⟨here, there⟩ := admitted
    have chained : plan.builder.chain (call :: rest) =
        (plan.builder.call call).bind fun builder => builder.chain rest := List.foldlM_cons
    rw [chained, Plan.call_builder here, Call.bounds_cons, List.mapM_append]
    cases call.bound?.toList.mapM (BoundCall.rule plan.stage.measure) with
    | error cause => rfl
    | ok rules =>
      show ((plan.after call).withRules rules).builder.chain rest = _
      have measured : ((plan.after call).withRules rules).stage.measure = plan.stage.measure :=
        Stage.measure_after here
      rw [ih _ there, measured, Plan.afterAll_withRules]
      cases (Call.bounds rest).mapM (BoundCall.rule plan.stage.measure) with
      | error cause => rfl
      | ok more =>
        show Except.ok (Plan.builder _) = _
        rw [Plan.withRules_withRules]
        rfl

end Plans

/-! ## Starts -/

/-- What a chain starts from: a tag under one of the markers, or a refinement of the numbers. -/
inductive Start
  | unbounded (target : Tag)
  | collection (target : Tag)
  | digits (target : Tag)
  | refined (subtype : Subtype)

namespace Start

/-- The builder before the first call. -/
def builder : Start → Builder
  | .unbounded target => .unbounded target
  | .collection target => .collection target
  | .digits target => .digits target
  | .refined .integer => .integer
  | .refined .float => .float

/-- The tag that is checked. -/
def target : Start → Tag
  | .unbounded target => target
  | .collection target => target
  | .digits target => target
  | .refined _ => .number

/-- The stage before the first call. -/
def stage (start : Start) : Stage := start.builder.stage

/-- The plan before the first call. -/
def plan (start : Start) : Plan := { stage := start.stage, target := start.target }

theorem builder_eq (start : Start) : start.builder = start.plan.builder := by
  cases start with
  | refined subtype => cases subtype <;> rfl
  | _ => rfl

/-- The measure of bounds on the length that the marker stands for, if it allows such bounds. -/
def measure? : Start → Option Measure
  | .unbounded _ => none
  | .collection _ => some .collection
  | .digits _ => some .digits
  | .refined _ => some .digits

theorem stage_measure? (start : Start) : start.stage.measure? = start.measure? := by
  cases start with
  | refined subtype => cases subtype <;> rfl
  | _ => rfl

/-- The factories by their names, each with the start that it stands for. -/
def factories : List (String × Start) :=
  [("string", .collection .string), ("array", .collection .array), ("number", .digits .number),
   ("integer", .refined .integer), ("float", .refined .float), ("double", .refined .float),
   ("boolean", .unbounded .boolean), ("object", .unbounded .object),
   ("function", .unbounded .function), ("symbol", .unbounded .symbol),
   ("regex", .unbounded .regex), ("date", .unbounded .date), ("null", .unbounded .null)]

theorem named?_factory :
    ∀ factory ∈ factories, Builder.named? factory.1 = some factory.2.builder := by
  simp only [factories, List.forall_mem_cons]
  exact ⟨rfl, rfl, rfl, rfl, rfl, rfl, rfl, rfl, rfl, rfl, rfl, rfl, rfl, nofun⟩

/-- A chain from a start gives the builder of the plan that its calls ask for, or the error of
the first bound that is none. -/
theorem chain_eq (start : Start) {calls : List Call} (admitted : start.stage.Admits calls) :
    start.builder.chain calls =
      (start.plan.afterAll calls).built
        ((Call.bounds calls).mapM (BoundCall.rule start.stage.measure)) := by
  rw [start.builder_eq]
  exact start.plan.chain_builder admitted

end Start

end RecordCheck
