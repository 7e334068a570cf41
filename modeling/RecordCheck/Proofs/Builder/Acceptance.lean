import RecordCheck.Proofs.Builder.Verdict

/-!
# What a chain accepts

Put together, the bounds of a chain come to one condition: a length that is at
most every upper bound, at least every lower one and equal to every exact one,
and no more decimal places than any bound on them (`Start.Accepts`). So only the
set of the bounds matters to the verdict.

* `Start.accepts_iff_kept`: a value keeps the bounds one by one exactly if one
  length of it keeps them all.
* `Start.isValid_of_asksWithin`: what passes a chain passes every chain that
  asks for less, such as the chain with a bound left out.
* `Start.exists_same_verdict`: chains that ask for no more than each other give
  one verdict, such as chains with the same bounds in another order and number,
  and chains that ask for a length exactly or from both sides.
-/

namespace RecordCheck

/-! ## The bounds put together -/

/-- The chain sets this bound by this method. -/
def Call.Sets (calls : List Call) (method : BoundMethod) (n : Nat) : Prop :=
  ∃ bound ∈ Call.bounds calls, bound.method = method ∧ bound.value = .ok n

/-- What a chain accepts: values of the tag that fit the refinement, with no more decimal places
than any bound on them, and, if the chain bounds the length at all, with a length that keeps
every bound on it. -/
structure Start.Accepts (start : Start) (calls : List Call) (value : Value) : Prop where
  tag : value.tag = start.target
  subtype : ∀ subtype, start.chosen calls = some subtype → subtype.Fits value
  places : ∀ n, Call.Sets calls .decimal n → ∃ x, value = .number x ∧ decimalPlaces x ≤ n
  length : (∀ bound ∈ Call.bounds calls, bound.method = .decimal) ∨
    ∃ length, value.HasLength length ∧
      (∀ n, Call.Sets calls .maxLength n → length ≤ n) ∧
      (∀ n, Call.Sets calls .minLength n → n ≤ length) ∧
      ∀ n, Call.Sets calls .length n → length = n

section Together

variable {start : Start} {calls others : List Call} {builder other : Builder} {value : Value}

theorem BoundMethod.Meets.hasLength {method : BoundMethod} {n : Nat} (meets : method.Meets n value)
    (bounds : method ≠ .decimal) : ∃ length, value.HasLength length := by
  cases method with
  | maxLength | minLength | length =>
    obtain ⟨length, has, -⟩ := meets
    exact ⟨length, has⟩
  | decimal => exact absurd rfl bounds

/-- A value keeps every bound one by one exactly if one length of it keeps them all. -/
theorem Start.accepts_iff_kept (fine : ∀ bound ∈ Call.bounds calls, ∃ n, bound.value = .ok n) :
    start.Accepts calls value ↔
      value.tag = start.target ∧
        (∀ subtype, start.chosen calls = some subtype → subtype.Fits value) ∧
        ∀ bound ∈ Call.bounds calls, bound.Kept value := by
  constructor
  · rintro ⟨tag, subtype, places, length⟩
    refine ⟨tag, subtype, fun bound member n given => ?_⟩
    have sets : Call.Sets calls bound.method n := ⟨bound, member, rfl, given⟩
    rcases length with unbounded | ⟨length, has, atMost, atLeast, exactly⟩
    · rw [unbounded bound member] at sets ⊢
      exact places n sets
    · cases method : bound.method with
      | maxLength => exact ⟨length, has, atMost n (method ▸ sets)⟩
      | minLength => exact ⟨length, has, atLeast n (method ▸ sets)⟩
      | length => exact ⟨length, has, exactly n (method ▸ sets)⟩
      | decimal => exact places n (method ▸ sets)
  · rintro ⟨tag, subtype, kept⟩
    have meets : ∀ method n, Call.Sets calls method n → method.Meets n value := by
      rintro _ n ⟨bound, member, rfl, given⟩
      exact kept bound member n given
    refine ⟨tag, subtype, meets .decimal, ?_⟩
    by_cases unbounded : ∀ bound ∈ Call.bounds calls, bound.method = .decimal
    · exact .inl unbounded
    · -- some bound is on the length, so there is one, and it is the one of every other bound
      simp only [not_forall] at unbounded
      obtain ⟨bound, member, onLength⟩ := unbounded
      obtain ⟨n, given⟩ := fine bound member
      obtain ⟨length, has⟩ := (kept bound member n given).hasLength onLength
      refine .inr ⟨length, has, fun n sets => ?_, fun n sets => ?_, fun n sets => ?_⟩
      · obtain ⟨_, hasOther, atMost⟩ := meets .maxLength n sets
        exact has.unique hasOther ▸ atMost
      · obtain ⟨_, hasOther, atLeast⟩ := meets .minLength n sets
        exact has.unique hasOther ▸ atLeast
      · obtain ⟨_, hasOther, exactly⟩ := meets .length n sets
        exact has.unique hasOther ▸ exactly

/-! ## Chains that ask for less -/

/-- The one chain asks for no more than the other: whatever keeps the bounds of the other keeps
its own, and for the rest both ask for the same. -/
structure Call.AsksWithin (calls others : List Call) : Prop where
  fine : (∀ bound ∈ Call.bounds others, ∃ n, bound.value = .ok n) →
    ∀ bound ∈ Call.bounds calls, ∃ n, bound.value = .ok n
  kept : ∀ value, (∀ bound ∈ Call.bounds others, bound.Kept value) →
    ∀ bound ∈ Call.bounds calls, bound.Kept value
  subtype : calls.findSome? Call.subtype? = others.findSome? Call.subtype?
  required : calls.any Call.isRequired = others.any Call.isRequired
  greedy : calls.any Call.isGreedy = others.any Call.isGreedy

/-- If the other chain builds, so does the one that asks for less. -/
theorem Start.exists_chain_of_asksWithin (admitted : start.stage.Admits calls)
    (othersAdmitted : start.stage.Admits others) (within : Call.AsksWithin calls others)
    (othersBuilt : start.builder.chain others = .ok other) :
    ∃ builder, start.builder.chain calls = .ok builder :=
  (Start.exists_chain_iff admitted).mpr
    (within.fine ((Start.exists_chain_iff othersAdmitted).mp ⟨other, othersBuilt⟩))

/-- What passes a chain passes every chain that asks for less. -/
theorem Start.isValid_of_asksWithin (sized : start.Sized) (admitted : start.stage.Admits calls)
    (othersAdmitted : start.stage.Admits others) (within : Call.AsksWithin calls others)
    (built : start.builder.chain calls = .ok builder)
    (othersBuilt : start.builder.chain others = .ok other) {key : String} {value : Option Value}
    (passes : (other.pipeline.validate key value).isValid = true) :
    (builder.pipeline.validate key value).isValid = true := by
  cases value with
  | none =>
    rw [Start.isValid_none othersAdmitted othersBuilt] at passes
    rw [Start.isValid_none admitted built, within.required]
    exact passes
  | some value =>
    rw [Start.isValid_iff_kept sized othersAdmitted othersBuilt] at passes
    rw [Start.isValid_iff_kept sized admitted built]
    obtain ⟨tag, subtype, kept⟩ := passes
    have found : Call.found calls value = Call.found others value := by
      rw [Call.found, within.greedy, Call.found]
    have chosen : start.chosen calls = start.chosen others := by
      rw [Start.chosen, within.subtype, Start.chosen]
    rw [found, chosen]
    exact ⟨tag, subtype, within.kept _ kept⟩

/-- Two chains that ask for no more than each other build together and give one verdict. -/
theorem Start.exists_same_verdict (sized : start.Sized) (admitted : start.stage.Admits calls)
    (othersAdmitted : start.stage.Admits others) (within : Call.AsksWithin calls others)
    (contains : Call.AsksWithin others calls)
    (built : start.builder.chain calls = .ok builder) :
    ∃ other, start.builder.chain others = .ok other ∧ ∀ key value,
      (other.pipeline.validate key value).isValid =
        (builder.pipeline.validate key value).isValid := by
  obtain ⟨other, otherBuilt⟩ :=
    Start.exists_chain_of_asksWithin othersAdmitted admitted contains built
  refine ⟨other, otherBuilt, fun key value => Bool.eq_iff_iff.mpr ⟨?_, ?_⟩⟩
  · exact Start.isValid_of_asksWithin sized admitted othersAdmitted within built otherBuilt
  · exact Start.isValid_of_asksWithin sized othersAdmitted admitted contains otherBuilt built

/-! ### Bounds in another order and number -/

/-- Two chains set the same bounds, in whatever order and however often, and for the rest ask for
the same. -/
structure Call.Shuffled (calls others : List Call) : Prop where
  bounds : ∀ asked, asked ∈ (Call.bounds calls).map BoundCall.asked ↔
    asked ∈ (Call.bounds others).map BoundCall.asked
  subtype : calls.findSome? Call.subtype? = others.findSome? Call.subtype?
  required : calls.any Call.isRequired = others.any Call.isRequired
  greedy : calls.any Call.isGreedy = others.any Call.isGreedy

theorem Call.Shuffled.symm (shuffled : Call.Shuffled calls others) : Call.Shuffled others calls :=
  ⟨fun asked => (shuffled.bounds asked).symm, shuffled.subtype.symm, shuffled.required.symm,
    shuffled.greedy.symm⟩

theorem Call.Shuffled.asksWithin (shuffled : Call.Shuffled calls others) :
    Call.AsksWithin calls others := by
  have twin : ∀ bound ∈ Call.bounds calls, ∃ other ∈ Call.bounds others,
      other.method = bound.method ∧ other.value = bound.value := by
    intro bound member
    obtain ⟨other, there, same⟩ :=
      List.mem_map.mp ((shuffled.bounds bound.asked).mp (List.mem_map_of_mem member))
    exact ⟨other, there, congrArg Prod.fst same, congrArg Prod.snd same⟩
  refine ⟨fun fine bound member => ?_, fun value kept bound member n given => ?_,
    shuffled.subtype, shuffled.required, shuffled.greedy⟩
  · obtain ⟨other, there, -, same⟩ := twin bound member
    exact same ▸ fine other there
  · obtain ⟨other, there, method, same⟩ := twin bound member
    exact method ▸ kept other there n (same.trans given)

/-! ### One bound less -/

section Left

variable {before after : List Call} {call : Call}

theorem Call.asksWithin_of_bound (sets : call.bound?.isSome = true) :
    Call.AsksWithin (before ++ after) (before ++ call :: after) := by
  have nothingElse : call.subtype? = none ∧ call.isRequired = false ∧ call.isGreedy = false := by
    cases call <;> first | exact ⟨rfl, rfl, rfl⟩ | cases sets
  obtain ⟨subtype, required, greedy⟩ := nothingElse
  have fewer : ∀ bound ∈ Call.bounds (before ++ after),
      bound ∈ Call.bounds (before ++ call :: after) := by
    intro bound member
    have sublist : (before ++ after).Sublist (before ++ call :: after) :=
      (List.sublist_cons_self call after).append_left before
    exact (sublist.filterMap Call.bound?).subset member
  refine ⟨fun fine bound member => fine bound (fewer bound member),
    fun value kept bound member => kept bound (fewer bound member), ?_, ?_, ?_⟩
  · simp only [List.findSome?_append, List.findSome?_cons, subtype]
  · simp only [List.any_append, List.any_cons, required, Bool.false_or]
  · simp only [List.any_append, List.any_cons, greedy, Bool.false_or]

theorem Stage.admits_of_bound {stage : Stage} (sets : call.bound?.isSome = true)
    (admitted : stage.Admits (before ++ call :: after)) : stage.Admits (before ++ after) := by
  have stays : ∀ stage : Stage, stage.after call = stage := by
    intro stage
    cases call <;> first | rfl | cases sets
  obtain ⟨front, -, back⟩ := Stage.admits_append.mp admitted
  rw [stays] at back
  exact Stage.admits_append.mpr ⟨front, back⟩

end Left

/-! ### An exact length as two bounds -/

/-- Which integer a number is as a bound does not depend on what the bound is for. -/
theorem Numeral.toBound_eq_ok {argument : Numeral} {kind : FailureKind} {n : Nat}
    (given : argument.toBound kind = .ok n) (other : FailureKind) :
    argument.toBound other = .ok n := by
  have double : ∀ x : Binary64, x.toBound kind = .ok n → x.toBound other = .ok n := by
    intro x given
    cases x with
    | nan | infinity => cases given
    | finite negative m =>
      unfold Binary64.toBound at given ⊢
      dsimp only at given ⊢
      split at given
      · cases given
      · rename_i integral
        split at given
        · cases given
        · rename_i positive
          rw [if_neg integral, if_neg positive, given]
  cases argument with
  | unsigned k => exact given
  | signed k =>
    unfold Numeral.toBound at given ⊢
    dsimp only at given ⊢
    split at given
    · cases given
    · rename_i positive
      rw [if_neg positive, given]
  | single x => exact double _ given
  | double x => exact double _ given

theorem BoundCall.kept_iff {method : BoundMethod} {argument : Numeral} (kind : FailureKind) :
    BoundCall.Kept ⟨method, argument⟩ value ↔
      ∀ n, argument.toBound kind = .ok n → method.Meets n value :=
  ⟨fun kept n given => kept n (Numeral.toBound_eq_ok given method.kind),
    fun kept n given => kept n (Numeral.toBound_eq_ok given kind)⟩

section Exact

variable {before after : List Call} {argument : Numeral}

/-- What splits along an exact length splits along the bounds of the whole chain. -/
theorem Call.forall_bounds_exact_iff {P : BoundCall → Prop}
    (split : P ⟨.length, argument⟩ ↔ P ⟨.maxLength, argument⟩ ∧ P ⟨.minLength, argument⟩) :
    (∀ bound ∈ Call.bounds (before ++ .maxLength argument :: .minLength argument :: after),
        P bound) ↔
      ∀ bound ∈ Call.bounds (before ++ .length argument :: after), P bound := by
  simp only [Call.bounds, List.filterMap_append, List.filterMap_cons, Call.bound?,
    List.forall_mem_append, List.forall_mem_cons, split, and_assoc]

theorem BoundCall.fine_exact_iff :
    (∃ n, BoundCall.value ⟨.length, argument⟩ = .ok n) ↔
      (∃ n, BoundCall.value ⟨.maxLength, argument⟩ = .ok n) ∧
        ∃ n, BoundCall.value ⟨.minLength, argument⟩ = .ok n := by
  constructor
  · rintro ⟨n, given⟩
    exact ⟨⟨n, Numeral.toBound_eq_ok given _⟩, ⟨n, Numeral.toBound_eq_ok given _⟩⟩
  · rintro ⟨⟨n, given⟩, -⟩
    exact ⟨n, Numeral.toBound_eq_ok given _⟩

theorem BoundCall.kept_exact_iff :
    BoundCall.Kept ⟨.length, argument⟩ value ↔
      BoundCall.Kept ⟨.maxLength, argument⟩ value ∧
        BoundCall.Kept ⟨.minLength, argument⟩ value := by
  simp only [BoundCall.kept_iff .length, BoundMethod.meets_length_iff, forall_and]

theorem Call.asksWithin_exact :
    Call.AsksWithin (before ++ .maxLength argument :: .minLength argument :: after)
      (before ++ .length argument :: after) where
  fine := (Call.forall_bounds_exact_iff BoundCall.fine_exact_iff).mpr
  kept _ := (Call.forall_bounds_exact_iff BoundCall.kept_exact_iff).mpr
  subtype := by simp only [List.findSome?_append, List.findSome?_cons, Call.subtype?]
  required := by simp only [List.any_append, List.any_cons, Call.isRequired, Bool.false_or]
  greedy := by simp only [List.any_append, List.any_cons, Call.isGreedy, Bool.false_or]

theorem Call.exact_asksWithin :
    Call.AsksWithin (before ++ .length argument :: after)
      (before ++ .maxLength argument :: .minLength argument :: after) where
  fine := (Call.forall_bounds_exact_iff BoundCall.fine_exact_iff).mp
  kept _ := (Call.forall_bounds_exact_iff BoundCall.kept_exact_iff).mp
  subtype := Call.asksWithin_exact.subtype.symm
  required := Call.asksWithin_exact.required.symm
  greedy := Call.asksWithin_exact.greedy.symm

theorem Stage.admits_exact_iff {stage : Stage} :
    stage.Admits (before ++ .maxLength argument :: .minLength argument :: after) ↔
      stage.Admits (before ++ .length argument :: after) := by
  rw [Stage.admits_append, Stage.admits_append]
  refine and_congr_right fun _ => ?_
  show _ ∧ _ ∧ Stage.Admits _ after ↔ _ ∧ Stage.Admits _ after
  exact ⟨fun admitted => admitted.2, fun admitted => ⟨admitted.1, admitted⟩⟩

end Exact

end Together

/-! ## The closed form -/

theorem Value.coerced_of_empty {value : Value} (empty : value = .string "" ∨ value = .array []) :
    value.coerced = value := by
  rcases empty with rfl | rfl <;> rfl

/-- No chain with a bound lets anything empty pass. -/
theorem Start.isValid_of_empty {start : Start} {calls : List Call} {builder : Builder}
    {value : Value} (sized : start.Sized) (admitted : start.stage.Admits calls)
    (built : start.builder.chain calls = .ok builder) (bounded : Call.bounds calls ≠ [])
    (empty : value = .string "" ∨ value = .array []) (key : String) :
    (builder.pipeline.validate key (some value)).isValid = false := by
  have found : Call.found calls value = value := by
    rw [Call.found, Value.coerced_of_empty empty, ite_self]
  rw [← Bool.not_eq_true, Start.isValid_iff_kept sized admitted built, found]
  rintro ⟨-, -, kept⟩
  obtain ⟨bound, member⟩ := List.exists_mem_of_ne_nil _ bounded
  obtain ⟨n, given⟩ := (Start.exists_chain_iff admitted).mp ⟨builder, built⟩ bound member
  exact bound.method.not_meets_of_empty empty (kept bound member n given)

/-- What a chain accepts whose values have a length, in closed form.

A present value is valid exactly if what the checks find has the tag, fits the refinement if there
is one, has at most the places of every bound on decimal places, and, if the chain bounds the
length at all, has a length that is at most every upper bound, at least every lower bound and equal
to every exact one. So the verdict stays if the bounds come in another order or more than once, and
if an exact length is asked for as an upper and a lower bound; a chain with any bound rejects the
empty string and the empty array; and what the chain rejects without one of its bounds it rejects
with it. -/
theorem Start.verdict_closed_form (start : Start) (sized : start.Sized) {calls : List Call}
    (admitted : start.stage.Admits calls) {builder : Builder}
    (built : start.builder.chain calls = .ok builder) :
    (∀ key value, (builder.pipeline.validate key (some value)).isValid = true ↔
      start.Accepts calls (Call.found calls value)) ∧
    (∀ others, start.stage.Admits others → Call.Shuffled calls others →
      ∃ other, start.builder.chain others = .ok other ∧ ∀ key value,
        (other.pipeline.validate key value).isValid =
          (builder.pipeline.validate key value).isValid) ∧
    (∀ before argument after, calls = before ++ .length argument :: after →
      start.stage.Admits (before ++ .maxLength argument :: .minLength argument :: after) ∧
      ∃ other, start.builder.chain
          (before ++ .maxLength argument :: .minLength argument :: after) = .ok other ∧
        ∀ key value,
          (other.pipeline.validate key value).isValid =
            (builder.pipeline.validate key value).isValid) ∧
    (Call.bounds calls ≠ [] → ∀ key,
      (builder.pipeline.validate key (some (.string ""))).isValid = false ∧
        (builder.pipeline.validate key (some (.array []))).isValid = false) ∧
    ∀ before call after, calls = before ++ call :: after → call.bound?.isSome = true →
      start.stage.Admits (before ++ after) ∧
      ∃ other, start.builder.chain (before ++ after) = .ok other ∧ ∀ key value,
        (other.pipeline.validate key value).isValid = false →
          (builder.pipeline.validate key value).isValid = false := by
  refine ⟨fun key value => ?_, fun others othersAdmitted shuffled => ?_, ?_,
    fun bounded key => ⟨?_, ?_⟩, ?_⟩
  · have fine := (Start.exists_chain_iff admitted).mp ⟨builder, built⟩
    rw [Start.isValid_iff_kept sized admitted built, Start.accepts_iff_kept fine]
  · exact Start.exists_same_verdict sized admitted othersAdmitted shuffled.asksWithin
      shuffled.symm.asksWithin built
  · rintro before argument after rfl
    have splitAdmitted := Stage.admits_exact_iff.mpr admitted
    exact ⟨splitAdmitted, Start.exists_same_verdict sized admitted splitAdmitted
      Call.exact_asksWithin Call.asksWithin_exact built⟩
  · exact Start.isValid_of_empty sized admitted built bounded (.inl rfl) key
  · exact Start.isValid_of_empty sized admitted built bounded (.inr rfl) key
  · rintro before call after rfl sets
    have fewerAdmitted := Stage.admits_of_bound sets admitted
    have within : Call.AsksWithin (before ++ after) (before ++ call :: after) :=
      Call.asksWithin_of_bound sets
    obtain ⟨other, otherBuilt⟩ :=
      Start.exists_chain_of_asksWithin fewerAdmitted admitted within built
    refine ⟨fewerAdmitted, other, otherBuilt, fun key value rejects => ?_⟩
    rw [← Bool.not_eq_true] at rejects ⊢
    exact fun passes => rejects
      (Start.isValid_of_asksWithin sized fewerAdmitted admitted within otherBuilt built passes)

/-- Integers of two digits, also where a string spells them. -/
def Call.twoDigits : List Call := [.length (.signed 2), .greedy, .integer]

/-- The calls of `twoDigits` in another order, one of them twice. -/
def Call.twoDigitsTwice : List Call :=
  [.greedy, .length (.unsigned 2), .integer, .length (.signed 2)]

/-- Texts of two or three characters. -/
def Call.twoOrThree : List Call := [.maxLength (.unsigned 3), .minLength (.unsigned 2)]

theorem Start.accepts_twoOrThree_iff {text : String} :
    (Start.collection .string).Accepts Call.twoOrThree (.string text) ↔
      2 ≤ text.length ∧ text.length ≤ 3 := by
  constructor
  · intro accepts
    rcases accepts.length with places | ⟨length, has, atMost, atLeast, -⟩
    · cases places ⟨.maxLength, .unsigned 3⟩ List.mem_cons_self
    · cases has
      exact ⟨atLeast 2 ⟨_, List.mem_cons_of_mem _ List.mem_cons_self, rfl, rfl⟩,
        atMost 3 ⟨_, List.mem_cons_self, rfl, rfl⟩⟩
  · rintro ⟨least, most⟩
    have filled : text ≠ "" := by
      rintro rfl
      exact absurd least (by decide)
    have asks : ∀ method n, Call.Sets Call.twoOrThree method n →
        method = .maxLength ∧ n = 3 ∨ method = .minLength ∧ n = 2 := by
      rintro _ n ⟨bound, member, rfl, given⟩
      rcases List.mem_cons.mp member with rfl | member
      · cases given
        exact .inl ⟨rfl, rfl⟩
      · cases List.mem_singleton.mp member
        cases given
        exact .inr ⟨rfl, rfl⟩
    refine ⟨rfl, nofun, fun n asked => ?_, .inr ⟨text.length, .string filled, fun n asked => ?_,
      fun n asked => ?_, fun n asked => ?_⟩⟩
    all_goals obtain ⟨⟨⟩, rfl⟩ | ⟨⟨⟩, rfl⟩ := asks _ n asked
    · exact most
    · exact least

/-- The number that a string spells has two digits in every form of the chain; nothing empty has,
and a truth value does not even pass without the bound. A string is measured by its characters. -/
theorem Start.verdict_closed_form_twoDigits :
    (Start.digits .number).Sized ∧
      (Start.digits .number).stage.Admits Call.twoDigits ∧
      (Start.digits .number).stage.Admits Call.twoDigitsTwice ∧
      Call.Shuffled Call.twoDigits Call.twoDigitsTwice ∧
      Call.bounds Call.twoDigits ≠ [] ∧
      (Call.length (.signed 2)).bound?.isSome = true ∧
      ∃ builder, (Start.digits .number).builder.chain Call.twoDigits = .ok builder ∧
        (builder.pipeline.validate "age" (some (.string " 42 "))).isValid = true ∧
        (builder.pipeline.validate "age" (some (.string ""))).isValid = false ∧
        (builder.pipeline.validate "age" (some (.boolean true))).isValid = false ∧
        (∃ other, (Start.digits .number).builder.chain Call.twoDigitsTwice = .ok other ∧
          (other.pipeline.validate "age" (some (.string " 42 "))).isValid = true) ∧
        (∃ other, (Start.digits .number).builder.chain
            [.maxLength (.signed 2), .minLength (.signed 2), .greedy, .integer] = .ok other ∧
          (other.pipeline.validate "age" (some (.string " 42 "))).isValid = true) ∧
        ∃ text, (Start.collection .string).builder.chain Call.twoOrThree = .ok text ∧
          (text.pipeline.validate "name" (some (.string "né"))).isValid = true ∧
          (text.pipeline.validate "name" (some (.string "four"))).isValid = false := by
  have admitted : (Start.digits .number).stage.Admits Call.twoDigits := ⟨rfl, rfl, rfl, trivial⟩
  have othersAdmitted : (Start.digits .number).stage.Admits Call.twoDigitsTwice :=
    ⟨rfl, rfl, rfl, rfl, trivial⟩
  have shuffled : Call.Shuffled Call.twoDigits Call.twoDigitsTwice := by
    refine ⟨fun asked => ?_, rfl, rfl, rfl⟩
    show asked ∈ [(BoundMethod.length, Except.ok 2)] ↔
      asked ∈ [(BoundMethod.length, Except.ok 2), (BoundMethod.length, Except.ok 2)]
    simp only [List.mem_cons, List.not_mem_nil, or_false, or_self]
  have bounded : Call.bounds Call.twoDigits ≠ [] := nofun
  have found : Call.found Call.twoDigits (.string " 42 ") = .number (.ofInt 42) := by
    have spelled : parseNumber? " 42 " = some (.ofInt 42) := by decide +kernel
    have greedy : Call.twoDigits.any Call.isGreedy = true := rfl
    rw [Call.found, if_pos greedy, Value.coerced_of_spelled spelled]
  have accepts : (Start.digits .number).Accepts Call.twoDigits
      (Call.found Call.twoDigits (.string " 42 ")) := by
    have digits : digitLength (.ofInt 42) = 2 := by decide +kernel
    have has : (Value.number (.ofInt 42)).HasLength 2 := digits ▸ .number (.ofInt 42)
    rw [found]
    refine ⟨rfl, ?_, ?_, .inr ⟨2, has, ?_, ?_, ?_⟩⟩
    · rintro subtype ⟨⟩
      exact ⟨_, rfl, by decide +kernel⟩
    all_goals
      rintro n ⟨bound, member, method, given⟩
      cases List.mem_singleton.mp member
      cases method
    cases given
    rfl
  obtain ⟨closed, same, split, empty, fewer⟩ :=
    (Start.digits .number).verdict_closed_form rfl admitted rfl
  have passes := (closed "age" (.string " 42 ")).mpr accepts
  obtain ⟨other, otherBuilt, verdict⟩ := same _ othersAdmitted shuffled
  obtain ⟨-, another, anotherBuilt, anotherVerdict⟩ := split [] _ [.greedy, .integer] rfl
  obtain ⟨-, plain, plainBuilt, rejects⟩ := fewer [] _ [.greedy, .integer] rfl rfl
  have plainRejects : (plain.pipeline.validate "age" (some (.boolean true))).isValid = false := by
    cases plainBuilt
    rfl
  have textAdmitted : (Start.collection .string).stage.Admits Call.twoOrThree :=
    ⟨rfl, rfl, trivial⟩
  obtain ⟨byLength, -⟩ :=
    (Start.collection .string).verdict_closed_form (.inl rfl) textAdmitted rfl
  have short := Start.accepts_twoOrThree_iff.mpr (show 2 ≤ "né".length ∧ "né".length ≤ 3 by decide)
  have long := mt Start.accepts_twoOrThree_iff.mp (show ¬ (_ ∧ "four".length ≤ 3) by decide)
  exact ⟨rfl, admitted, othersAdmitted, shuffled, bounded, rfl, _, rfl, passes,
    (empty bounded "age").1, rejects "age" _ plainRejects,
    ⟨other, otherBuilt, (verdict "age" _).trans passes⟩,
    ⟨another, anotherBuilt, (anotherVerdict "age" _).trans passes⟩,
    _, rfl, (byLength "name" _).mpr short,
    Bool.eq_false_iff.mpr fun valid => long ((byLength "name" _).mp valid)⟩

end RecordCheck
