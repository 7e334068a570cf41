import RecordCheck.Proofs.Builder.Canonical
import RecordCheck.Proofs.Builder.CallOrder

/-!
# The verdict of a chain

The checks that a chain has put together do not depend on each other, so the
verdict on a present value is their conjunction. This module says what each of
them comes to, for the starts whose values have a length.

* `Value.HasLength` is the length that bounds speak of, whatever the measure.
* `BoundMethod.Meets` says when a value keeps one bound, and `Subtype.Fits` when
  it fits a refinement.
* `Start.isValid_iff_kept`: a present value is valid exactly if, coerced where
  the chain coerces, it has the tag, fits the refinement and keeps every bound.
* `Start.exists_bound_of_failed`: a failure that is not about the type comes from
  a bound that the value does not keep.
-/

namespace RecordCheck

/-! ## Lengths -/

/-- The length of a value that has one: the characters of a string and the elements of an array,
if there are any, and the digits of a number. -/
inductive Value.HasLength : Value → Nat → Prop
  | string {s : String} (filled : s ≠ "") : HasLength (.string s) s.length
  | array {items : List Value} (filled : items ≠ []) : HasLength (.array items) items.length
  | number (x : Binary64) : HasLength (.number x) (digitLength x)

section Lengths

variable {value : Value} {n length : Nat}

theorem Value.HasLength.unique {other : Nat} (has : value.HasLength length)
    (hasOther : value.HasLength other) : length = other := by
  cases has <;> cases hasOther <;> rfl

/-- The start asks for values that have a length by the measure of its bounds. -/
def Start.Sized : Start → Prop
  | .unbounded _ => False
  | .collection target => target = .string ∨ target = .array
  | .digits target => target = .number
  | .refined _ => True

theorem Measure.length?_string {s : String} :
    Measure.collection.length? (.string s) = some n ↔ (Value.string s).HasLength n := by
  show (some s.length).filter (0 < ·) = some n ↔ _
  rw [Option.filter_eq_some_iff, Option.some.injEq, decide_eq_true_eq]
  constructor
  · rintro ⟨rfl, positive⟩
    refine .string fun empty => ?_
    rw [empty] at positive
    exact absurd positive (Nat.lt_irrefl 0)
  · intro has
    cases has with
    | string filled =>
      exact ⟨rfl, Nat.pos_of_ne_zero fun zero => filled (String.length_eq_zero_iff.mp zero)⟩

theorem Measure.length?_array {items : List Value} :
    Measure.collection.length? (.array items) = some n ↔ (Value.array items).HasLength n := by
  show (some items.length).filter (0 < ·) = some n ↔ _
  rw [Option.filter_eq_some_iff, Option.some.injEq, decide_eq_true_eq]
  constructor
  · rintro ⟨rfl, positive⟩
    exact .array (List.ne_nil_of_length_pos positive)
  · intro has
    cases has with
    | array filled => exact ⟨rfl, List.length_pos_iff.mpr filled⟩

theorem Measure.length?_number {x : Binary64} :
    Measure.digits.length? (.number x) = some n ↔ (Value.number x).HasLength n := by
  show some (digitLength x) = some n ↔ _
  rw [Option.some.injEq]
  constructor
  · rintro rfl
    exact .number x
  · rintro ⟨⟩
    rfl

/-- On values of its tag, the measure of a start gives the length. -/
theorem Start.length?_eq_some_iff {start : Start} (sized : start.Sized)
    (tagged : value.tag = start.target) :
    start.stage.measure.length? value = some n ↔ value.HasLength n := by
  cases start with
  | unbounded target => cases sized
  | collection target =>
    rcases sized with rfl | rfl
    · cases value <;> first | exact Measure.length?_string | cases tagged
    · cases value <;> first | exact Measure.length?_array | cases tagged
  | digits target =>
    cases sized
    cases value <;> first | exact Measure.length?_number | cases tagged
  | refined subtype =>
    cases subtype <;> cases value <;> first | exact Measure.length?_number | cases tagged

end Lengths

/-! ## One bound, one refinement -/

/-- The value keeps the bound that the method sets. -/
def BoundMethod.Meets (method : BoundMethod) (n : Nat) (value : Value) : Prop :=
  match method with
  | .maxLength => ∃ length, value.HasLength length ∧ length ≤ n
  | .minLength => ∃ length, value.HasLength length ∧ n ≤ length
  | .length => ∃ length, value.HasLength length ∧ length = n
  | .decimal => ∃ x, value = .number x ∧ decimalPlaces x ≤ n

/-- The value keeps the bound of a call, whichever integer the argument stands for. -/
def BoundCall.Kept (bound : BoundCall) (value : Value) : Prop :=
  ∀ n, bound.value = .ok n → bound.method.Meets n value

/-- The value is a number whose fractional part is zero, or is not. -/
def Subtype.Fits (subtype : Subtype) (value : Value) : Prop :=
  match subtype with
  | .integer => ∃ x, value = .number x ∧ x.isIntegral = true
  | .float => ∃ x, value = .number x ∧ x.isIntegral = false

section Checks

variable {value : Value} {n : Nat}

theorem Value.any_number?_iff {p : Binary64 → Bool} :
    value.number?.any p = true ↔ ∃ x, value = .number x ∧ p x = true := by
  cases value <;> simp [Value.number?]

theorem Subtype.check_rule_iff (subtype : Subtype) :
    subtype.rule.check value = true ↔ subtype.Fits value := by
  cases subtype with
  | integer => exact Value.any_number?_iff
  | float =>
    show value.number?.any (!·.isIntegral) = true ↔ _
    rw [Value.any_number?_iff]
    simp only [Bool.not_eq_true', Subtype.Fits]

/-- On values of the tag, the rule of a bound accepts what keeps the bound. -/
theorem BoundMethod.check_rule_iff {start : Start} (sized : start.Sized)
    (tagged : value.tag = start.target) (method : BoundMethod) :
    (method.rule start.stage.measure n).check value = true ↔ method.Meets n value := by
  have measured : ∀ length,
      start.stage.measure.length? value = some length ↔ value.HasLength length :=
    fun length => start.length?_eq_some_iff sized tagged
  cases method with
  | maxLength =>
    show (start.stage.measure.length? value).any (· ≤ n) = true ↔ _
    simp only [Option.any_eq_true, decide_eq_true_eq, measured, BoundMethod.Meets]
  | minLength =>
    show (start.stage.measure.length? value).any (n ≤ ·) = true ↔ _
    simp only [Option.any_eq_true, decide_eq_true_eq, measured, BoundMethod.Meets]
  | length =>
    show (start.stage.measure.length? value == some n) = true ↔ _
    simp only [beq_iff_eq, measured, BoundMethod.Meets, exists_eq_right]
  | decimal =>
    show value.number?.any (decimalPlaces · ≤ n) = true ↔ _
    simp only [Value.any_number?_iff, decide_eq_true_eq, BoundMethod.Meets]

/-- One exact length is the same as an upper and a lower bound of that length. -/
theorem BoundMethod.meets_length_iff :
    BoundMethod.length.Meets n value ↔
      BoundMethod.maxLength.Meets n value ∧ BoundMethod.minLength.Meets n value := by
  constructor
  · rintro ⟨length, has, rfl⟩
    exact ⟨⟨length, has, Nat.le_refl length⟩, ⟨length, has, Nat.le_refl length⟩⟩
  · rintro ⟨⟨length, has, atMost⟩, ⟨other, hasOther, atLeast⟩⟩
    have same : other = length := hasOther.unique has
    subst same
    exact ⟨other, has, Nat.le_antisymm atMost atLeast⟩

/-- Nothing empty keeps a bound: it has no length, and it is no number either. -/
theorem BoundMethod.not_meets_of_empty (empty : value = .string "" ∨ value = .array [])
    (method : BoundMethod) : ¬ method.Meets n value := by
  have lengthless : ∀ length, ¬ value.HasLength length := by
    intro length has
    rcases empty with rfl | rfl <;> cases has <;> contradiction
  intro meets
  cases method with
  | maxLength | minLength | length =>
    obtain ⟨length, has, -⟩ := meets
    exact lengthless length has
  | decimal =>
    obtain ⟨x, rfl, -⟩ := meets
    rcases empty with empty | empty <;> cases empty

end Checks

/-! ## The verdict as a conjunction -/

/-- A run of checks alone ends valid exactly if each of them accepts the value. -/
theorem Step.isValid_run_checks (rules : List Rule) (key : String) (value : Value) :
    (Step.run (rules.map .check) ⟨key, some value, .valid⟩).isValid =
      rules.all fun rule => rule.check value := by
  induction rules with
  | nil => rfl
  | cons rule rest ih =>
    rw [List.map_cons, Step.run_cons, List.all_cons]
    cases accepted : rule.check value with
    | true => rw [Step.apply_of_accepted accepted, ih, Bool.true_and]
    | false =>
      rw [Step.apply_of_rejected accepted, Step.run_of_failed _ rfl]
      rfl

/-- A failed run of checks alone is the rejection by one of them. -/
theorem Step.exists_rejected_of_failed {rules : List Rule} {key : String} {value : Value}
    {failure : Failure}
    (failed : (Step.run (rules.map .check) ⟨key, some value, .valid⟩).outcome = .failed failure) :
    ∃ rule ∈ rules, rule.check value = false ∧
      failure = ⟨rule.kind, key, some value, rule.parameter⟩ := by
  induction rules with
  | nil => cases failed
  | cons rule rest ih =>
    rw [List.map_cons, Step.run_cons] at failed
    cases accepted : rule.check value with
    | true =>
      rw [Step.apply_of_accepted accepted] at failed
      obtain ⟨other, member, rejection⟩ := ih failed
      exact ⟨other, List.mem_cons_of_mem _ member, rejection⟩
    | false =>
      rw [Step.apply_of_rejected accepted, Step.run_of_failed _ rfl] at failed
      exact ⟨rule, List.mem_cons_self, accepted, (Outcome.failed.inj failed).symm⟩

/-- The refinement of the start or of the calls. -/
def Start.chosen (start : Start) (calls : List Call) : Option Subtype :=
  start.stage.subtype?.or (calls.findSome? Call.subtype?)

/-- The value that the checks of a chain find: the number in place of a string that spells one
if the chain coerces, and the value itself if not. -/
def Call.found (calls : List Call) (value : Value) : Value :=
  if calls.any Call.isGreedy then value.coerced else value

section Verdict

variable {start : Start} {calls : List Call} {builder : Builder}

/-- A chain builds exactly if every bound that it sets is one. -/
theorem Start.exists_chain_iff (admitted : start.stage.Admits calls) :
    (∃ builder, start.builder.chain calls = .ok builder) ↔
      ∀ bound ∈ Call.bounds calls, ∃ n, bound.value = .ok n := by
  simp only [start.chain_eq admitted, Plan.built_eq_ok_iff]
  constructor
  · rintro ⟨_, rules, made, -⟩ bound member
    exact BoundCall.exists_rule_iff.mp (exists_mapM_eq_ok_iff.mp ⟨rules, made⟩ bound member)
  · intro fine
    obtain ⟨rules, made⟩ := exists_mapM_eq_ok_iff.mpr fun bound member =>
      BoundCall.exists_rule_iff.mpr (fine bound member)
    exact ⟨_, rules, made, rfl⟩

/-- What holds of all rules holds of the rule of every bound. -/
theorem BoundCall.forall_rules_iff {measure : Measure} {bounds : List BoundCall}
    {rules : List Rule} (made : bounds.map (BoundCall.rule measure) = rules.map .ok)
    (P : Rule → Prop) :
    (∀ rule ∈ rules, P rule) ↔
      ∀ bound ∈ bounds, ∀ n, bound.value = .ok n → P (bound.method.rule measure n) := by
  have given : ∀ (bound : BoundCall) (rule : Rule), bound.rule measure = .ok rule ↔
      ∃ n, bound.value = .ok n ∧ bound.method.rule measure n = rule := by
    intro bound rule
    unfold BoundCall.rule
    cases bound.value <;> simp [Except.map]
  constructor
  · intro all bound member n value
    have image : bound.rule measure ∈ rules.map Except.ok := by
      rw [← made]
      exact List.mem_map_of_mem member
    obtain ⟨rule, there, same⟩ := List.mem_map.mp image
    obtain ⟨other, otherValue, rfl⟩ := (given bound rule).mp same.symm
    cases value.symm.trans otherValue
    exact all _ there
  · intro all rule member
    have image : Except.ok rule ∈ bounds.map (BoundCall.rule measure) := by
      rw [made]
      exact List.mem_map_of_mem member
    obtain ⟨bound, there, same⟩ := List.mem_map.mp image
    obtain ⟨n, value, rfl⟩ := (given bound rule).mp same
    exact all bound there n value

theorem Start.isValid_none (admitted : start.stage.Admits calls)
    (built : start.builder.chain calls = .ok builder) (key : String) :
    (builder.pipeline.validate key none).isValid = !calls.any Call.isRequired := by
  rw [start.chain_eq admitted, Plan.built_eq_ok_iff] at built
  obtain ⟨rules, -, rfl⟩ := built
  rw [Plan.afterAll_eq, Pipeline.validate_none]
  show (FieldState.mk key none (if (false || calls.any _) then _ else _)).isValid = _
  rw [Bool.false_or]
  cases calls.any Call.isRequired <;> rfl

theorem Start.checked_afterAll (start : Start) (calls : List Call) (rules : List Rule)
    (value : Value) :
    ((start.plan.afterAll calls).withRules rules).checked value = Call.found calls value := by
  show (if (start.plan.afterAll calls).coercions = 0 then value else value.coerced) = _
  have coercions : (start.plan.afterAll calls).coercions = calls.countP Call.isGreedy := by
    rw [Plan.afterAll_eq]
    exact Nat.zero_add _
  simp only [coercions, Call.countP_isGreedy_eq_zero_iff, Call.found]
  cases calls.any Call.isGreedy <;> rfl

theorem Start.checks_afterAll (admitted : start.stage.Admits calls) (rules : List Rule) :
    ((start.plan.afterAll calls).withRules rules).checks =
      .typeMatch start.target :: ((start.chosen calls).toList.map Subtype.rule ++ rules) := by
  show Rule.typeMatch (start.plan.afterAll calls).target ::
    ((start.plan.afterAll calls).stage.subtype?.toList.map _ ++
      ((start.plan.afterAll calls).rules ++ rules)) = _
  rw [Plan.afterAll_eq, Start.chosen, ← Stage.subtype?_afterAll admitted]
  rfl

/-- A present value is valid exactly if what the checks find has the tag, fits the refinement
and keeps every bound. -/
theorem Start.isValid_iff_kept (sized : start.Sized) (admitted : start.stage.Admits calls)
    (built : start.builder.chain calls = .ok builder) (key : String) (value : Value) :
    (builder.pipeline.validate key (some value)).isValid = true ↔
      (Call.found calls value).tag = start.target ∧
        (∀ subtype, start.chosen calls = some subtype →
          subtype.Fits (Call.found calls value)) ∧
        ∀ bound ∈ Call.bounds calls, bound.Kept (Call.found calls value) := by
  rw [start.chain_eq admitted, Plan.built_eq_ok_iff] at built
  obtain ⟨rules, made, rfl⟩ := built
  have tag : (Rule.typeMatch start.target).check (Call.found calls value) = true ↔
      (Call.found calls value).tag = start.target := decide_eq_true_iff
  show (Pipeline.validate (Plan.pipeline _) key (some value)).isValid = true ↔ _
  rw [Plan.validate_some, Step.isValid_run_checks, Start.checked_afterAll,
    Start.checks_afterAll admitted, List.all_cons, Bool.and_eq_true, List.all_append,
    Bool.and_eq_true, List.all_eq_true, List.all_eq_true,
    BoundCall.forall_rules_iff (mapM_eq_ok_iff.mp made), tag]
  refine and_congr_right fun tagged => and_congr ?_ ?_
  · simp only [List.forall_mem_map, Option.mem_toList, Subtype.check_rule_iff]
  · simp only [BoundMethod.check_rule_iff sized tagged, BoundCall.Kept]

/-- One bound behind a start builds if it is one, and then adds its own condition. -/
theorem Start.exists_chain_bound (sized : start.Sized) (call : Call) {bound : BoundCall} {n : Nat}
    (admitted : call.admittedAt start.stage = true) (sets : call.bound? = some bound)
    (given : bound.value = .ok n) :
    ∃ builder, start.builder.chain [call] = .ok builder ∧ ∀ (key : String) (value : Value),
      (builder.pipeline.validate key (some value)).isValid = true ↔
        value.tag = start.target ∧
          (∀ subtype, start.stage.subtype? = some subtype → subtype.Fits value) ∧
          bound.method.Meets n value := by
  have alone : Call.bounds [call] = [bound] := List.filterMap_cons_some sets
  have nothingElse : call.subtype? = none ∧ call.isGreedy = false := by
    cases call <;> first | exact ⟨rfl, rfl⟩ | cases sets
  have chosen : start.chosen [call] = start.stage.subtype? := by
    rw [Start.chosen, List.findSome?_cons, nothingElse.1]
    exact Option.or_none
  have admits : start.stage.Admits [call] := ⟨admitted, trivial⟩
  obtain ⟨builder, built⟩ := (Start.exists_chain_iff admits).mpr fun other member => by
    rw [alone, List.mem_singleton] at member
    exact ⟨n, member ▸ given⟩
  refine ⟨builder, built, fun key value => ?_⟩
  have found : Call.found [call] value = value := by
    rw [Call.found, List.any_cons, nothingElse.2]
    rfl
  have kept : bound.Kept value ↔ bound.method.Meets n value := by
    rw [BoundCall.Kept, given]
    exact ⟨fun all => all n rfl, fun meets _ same => Except.ok.inj same ▸ meets⟩
  rw [Start.isValid_iff_kept sized admits built, found, chosen, alone, List.forall_mem_singleton,
    kept]

theorem BoundMethod.kind_rule (method : BoundMethod) (measure : Measure) (n : Nat) :
    (method.rule measure n).kind = method.kind := by
  cases method <;> rfl

/-- A failure that is not about the type comes from a bound that what the checks find does not
keep. -/
theorem Start.exists_bound_of_failed (admitted : start.stage.Admits calls)
    (built : start.builder.chain calls = .ok builder) {key : String} {value : Value}
    {failure : Failure}
    (failed : (builder.pipeline.validate key (some value)).outcome = .failed failure) :
    failure.kind = .type ∨
      ∃ bound ∈ Call.bounds calls, ∃ n, bound.value = .ok n ∧ failure.kind = bound.method.kind ∧
        (bound.method.rule start.stage.measure n).check (Call.found calls value) = false := by
  rw [start.chain_eq admitted, Plan.built_eq_ok_iff] at built
  obtain ⟨rules, made, rfl⟩ := built
  replace failed : ((Plan.pipeline _).validate key (some value)).outcome = _ := failed
  rw [Plan.validate_some, Start.checked_afterAll, Start.checks_afterAll admitted] at failed
  obtain ⟨rule, member, rejected, rfl⟩ := Step.exists_rejected_of_failed failed
  rcases List.mem_cons.mp member with rfl | member
  · exact .inl rfl
  · rcases List.mem_append.mp member with chosen | bound
    · obtain ⟨subtype, -, rfl⟩ := List.mem_map.mp chosen
      cases subtype <;> exact .inl rfl
    · refine .inr ?_
      by_contra none
      refine (BoundCall.forall_rules_iff (mapM_eq_ok_iff.mp made) (fun other => other ≠ rule)).mpr
        ?_ rule bound rfl
      rintro asked there n given rfl
      exact none ⟨asked, there, n, given, asked.method.kind_rule _ _, rejected⟩

end Verdict

end RecordCheck
