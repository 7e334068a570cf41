import RecordCheck.Proofs.Builder.Fixpoint
import RecordCheck.Proofs.Value.History

/-!
# Equal values are not told apart

Equality is coarser than identity: `0` equals `-0`, the entries of an object may stand in any
order, and two functions are compared by identity alone. Nothing that a validation does with a
value sees the difference: not its tag, not a measurement, rule or coercion of the library, and
not its JSON form. So a pipeline brings equal values to equal states
(`Workshop.indistinct_of_equal`).

* `Value.equal_cases` says once in which ways values can be equal.
* `Step.Respects` is what a step has to satisfy, and `Step.run_respects` carries it along a run.
* Only the JSON form needs that values were made by a history: it shows the names of functions.
-/

namespace RecordCheck

/-! ## Numbers -/

section Numbers

variable {x y : Binary64}

theorem Magnitude.isIntegral_of_isZero {f : Format} {m : Magnitude f} (zero : m.isZero = true) :
    m.isIntegral = true := by
  rw [isIntegral, (isZero_iff m).mp zero, Nat.zero_mod]
  rfl

theorem Binary.isIntegral_eq_of_equal (same : x.equal y = true) : x.isIntegral = y.isIntegral := by
  rcases eq_or_zero_of_equal same with rfl | ⟨s, t, m, -, rfl, rfl⟩
  · rfl
  · rfl

theorem digitLength_eq_of_equal (same : x.equal y = true) : digitLength x = digitLength y := by
  rcases Binary.eq_or_zero_of_equal same with rfl | ⟨s, t, m, zero, rfl, rfl⟩
  · rfl
  · -- Rounding down goes away from zero below it, but both zeros are integral.
    have integral := Magnitude.isIntegral_of_isZero zero
    simp only [digitLength, Binary.isIntegral, integral, if_true]
    rfl

theorem decimalPlaces_eq_of_equal (same : x.equal y = true) :
    decimalPlaces x = decimalPlaces y := by
  rcases Binary.eq_or_zero_of_equal same with rfl | ⟨s, t, m, -, rfl, rfl⟩
  · rfl
  · rfl

theorem Json.ofBinary64_equal (same : x.equal y = true) :
    (ofBinary64 x).equal (ofBinary64 y) = true := by
  cases x <;> cases y <;> first | exact same | cases same | rfl

end Numbers

/-! ## Measurements, rules and coercions -/

namespace Value

variable {a b : Value}

/-- The ways in which values are equal. -/
theorem equal_cases (same : a.equal b = true) :
    a = b ∨
      (∃ x y, a = .number x ∧ b = .number y ∧ x.equal y = true) ∨
      (∃ items others, a = .array items ∧ b = .array others ∧ equalItems items others = true) ∨
      (∃ entries others, a = .object entries ∧ b = .object others) ∨
      ∃ f g, a = .function f ∧ b = .function g := by
  cases a <;> cases b <;> simp_all [equal]

/-- What is computed from a number, and respects equality of numbers, respects equality. -/
theorem number?_congr {β : Type} (f : Option Binary64 → β)
    (respects : ∀ x y : Binary64, x.equal y = true → f (some x) = f (some y))
    (same : a.equal b = true) : f a.number? = f b.number? := by
  rcases equal_cases same with
    rfl | ⟨x, y, rfl, rfl, equal⟩ | ⟨_, _, rfl, rfl, -⟩ | ⟨_, _, rfl, rfl⟩ | ⟨_, _, rfl, rfl⟩
  · rfl
  · exact respects x y equal
  · rfl
  · rfl
  · rfl

theorem collectionLength?_eq_of_equal (same : a.equal b = true) :
    collectionLength? a = collectionLength? b := by
  rcases equal_cases same with
    rfl | ⟨_, _, rfl, rfl, -⟩ | ⟨_, _, rfl, rfl, items⟩ | ⟨_, _, rfl, rfl⟩ | ⟨_, _, rfl, rfl⟩
  · rfl
  · rfl
  · exact congrArg some (length_eq_of_equalItems items)
  · rfl
  · rfl

theorem length?_eq_of_equal (measure : Measure) (same : a.equal b = true) :
    measure.length? a = measure.length? b := by
  cases measure with
  | collection => exact congrArg (Option.filter (0 < ·)) (collectionLength?_eq_of_equal same)
  | digits =>
    exact number?_congr (Option.map digitLength)
      (fun x y equal => congrArg some (digitLength_eq_of_equal equal)) same

theorem string?_eq_of_equal (same : a.equal b = true) : a.string? = b.string? := by
  rcases equal_cases same with
    rfl | ⟨_, _, rfl, rfl, -⟩ | ⟨_, _, rfl, rfl, -⟩ | ⟨_, _, rfl, rfl⟩ | ⟨_, _, rfl, rfl⟩
  all_goals rfl

/-- Only finite numbers come out of a coercion, and these equal themselves. -/
theorem coerceNumber?_equal (same : a.equal b = true) :
    (coerceNumber? a == coerceNumber? b) = true := by
  rw [coerceNumber?, coerceNumber?, string?_eq_of_equal same]
  cases spelled : b.string?.bind parseNumber? with
  | none => rfl
  | some x =>
    obtain ⟨text, -, read⟩ := Option.bind_eq_some_iff.mp spelled
    have finite : x.isFinite = true := (Option.filter_eq_some_iff.mp read).2
    have number : x ≠ .nan := by
      rintro rfl
      cases finite
    exact (Binary.equal_self_iff x).mpr number

end Value

theorem Rule.Standard.check_eq_of_equal {rule : Rule} (standard : rule.Standard) {a b : Value}
    (same : a.equal b = true) : rule.check a = rule.check b := by
  cases standard with
  | typeMatch target => exact congrArg (decide <| · = target) (Value.tag_eq_of_equal same)
  | refinement subtype =>
    cases subtype with
    | integer =>
      exact Value.number?_congr (Option.any Binary.isIntegral)
        (fun x y equal => Binary.isIntegral_eq_of_equal equal) same
    | float =>
      exact Value.number?_congr (Option.any (!·.isIntegral))
        (fun x y equal => congrArg not (Binary.isIntegral_eq_of_equal equal)) same
  | bound method measure n =>
    have lengths := Value.length?_eq_of_equal measure same
    cases method with
    | maxLength => exact congrArg (Option.any (· ≤ n)) lengths
    | minLength => exact congrArg (Option.any (n ≤ ·)) lengths
    | length => exact congrArg (· == some n) lengths
    | decimal =>
      exact Value.number?_congr (Option.any (RecordCheck.decimalPlaces · ≤ n))
        (fun x y equal => congrArg (decide <| · ≤ n) (decimalPlaces_eq_of_equal equal)) same

/-! ## Pipelines -/

namespace FieldState

variable {key : String} {a b : Value}

theorem equal_valid (same : a.equal b = true) :
    ((⟨key, some a, .valid⟩ : FieldState) == ⟨key, some b, .valid⟩) = true := by
  show (key == key && a.equal b && true) = true
  rw [beq_self_eq_true, same]
  rfl

theorem equal_failed (kind : FailureKind) (parameter : Parameter) (same : a.equal b = true) :
    ((⟨key, some a, .failed ⟨kind, key, some a, parameter⟩⟩ : FieldState) ==
      ⟨key, some b, .failed ⟨kind, key, some b, parameter⟩⟩) = true := by
  show (key == key && a.equal b &&
    (kind == kind && key == key && a.equal b && parameter == parameter)) = true
  rw [beq_self_eq_true, beq_self_eq_true, beq_self_eq_true, same]
  rfl

end FieldState

/-- The step makes no difference between equal values. -/
def Step.Respects : Step → Prop
  | .check rule => ∀ a b : Value, a.equal b = true → rule.check a = rule.check b
  | .replace transform => ∀ a b : Value, a.equal b = true →
    (transform.replace? a == transform.replace? b) = true

theorem Step.rewrite_equal {transform : Transform} {a b : Value}
    (respects : (Step.replace transform).Respects) (same : a.equal b = true) :
    ((Step.replace transform).rewrite a).equal ((Step.replace transform).rewrite b) = true := by
  have replaced := respects a b same
  unfold rewrite
  dsimp only
  cases left : transform.replace? a <;> cases right : transform.replace? b <;>
    rw [left, right] at replaced
  · exact same
  · cases replaced
  · cases replaced
  · exact replaced

/-- Steps that respect equality bring equal values to equal states. -/
theorem Step.run_respects {steps : List Step} (respects : ∀ step ∈ steps, step.Respects)
    (key : String) {a b : Value} (same : a.equal b = true) :
    (Step.run steps ⟨key, some a, .valid⟩ == Step.run steps ⟨key, some b, .valid⟩) = true := by
  induction steps generalizing a b with
  | nil => exact FieldState.equal_valid same
  | cons step rest ih =>
    obtain ⟨here, later⟩ := List.forall_mem_cons.mp respects
    rw [Step.run_cons, Step.run_cons]
    cases step with
    | check rule =>
      cases accepted : rule.check a with
      | true =>
        rw [Step.apply_of_accepted accepted, Step.apply_of_accepted (here a b same ▸ accepted)]
        exact ih later same
      | false =>
        rw [Step.apply_of_rejected accepted, Step.apply_of_rejected (here a b same ▸ accepted),
          Step.run_of_failed rest rfl, Step.run_of_failed rest rfl]
        exact FieldState.equal_failed rule.kind rule.parameter same
    | replace transform =>
      rw [Step.apply_replace, Step.apply_replace]
      exact ih later (Step.rewrite_equal here same)

/-- A pipeline that a chain builds brings equal values to equal states. -/
theorem Pipeline.Buildable.validate_equal {pipeline : Pipeline} (buildable : pipeline.Buildable)
    (key : String) {a b : Value} (same : a.equal b = true) :
    (pipeline.validate key (some a) == pipeline.validate key (some b)) = true := by
  obtain ⟨coercions, rules, shape, standard⟩ := buildable.steps_eq
  rw [Pipeline.validate_some, Pipeline.validate_some]
  refine Step.run_respects (fun step member => ?_) key same
  rw [shape, List.mem_append] at member
  rcases member with coercion | check
  · rw [List.eq_of_mem_replicate coercion]
    exact fun a b same => Value.coerceNumber?_equal same
  · obtain ⟨rule, inside, rfl⟩ := List.mem_map.mp check
    exact fun a b same => (standard rule inside).check_eq_of_equal same

/-! ## JSON forms -/

namespace Json

/-- Members of the same keys in the same order are equal if their values are, key by key. -/
theorem equalMembers_of_keys_eq {members others : List (String × Json)}
    (keys : members.map Prod.fst = others.map Prod.fst)
    (values : ∀ key x y, (key, x) ∈ members → (key, y) ∈ others → x.equal y = true) :
    equalMembers members others = true := by
  induction members generalizing others with
  | nil =>
    cases others with
    | nil => rfl
    | cons => cases keys
  | cons member rest ih =>
    cases others with
    | nil => cases keys
    | cons other others =>
      obtain ⟨key, x⟩ := member
      obtain ⟨key', y⟩ := other
      obtain ⟨same, later⟩ := List.cons.inj keys
      cases same
      rw [equalMembers, Bool.and_eq_true, Bool.and_eq_true]
      refine ⟨⟨beq_self_eq_true key, values key x y List.mem_cons_self List.mem_cons_self⟩,
        ih later fun k x y left right => ?_⟩
      exact values k x y (List.mem_cons_of_mem _ left) (List.mem_cons_of_mem _ right)

end Json

namespace SortedEntries

universe u v

/-- The order of the keys is all that is left of two objects of the same keys. -/
theorem map_fst_ofList_eq {α : Type u} {β : Type v} {entries : List (String × α)}
    {others : List (String × β)} (unique : (entries.map Prod.fst).Nodup)
    (unique' : (others.map Prod.fst).Nodup)
    (keys : ∀ key, key ∈ entries.map Prod.fst ↔ key ∈ others.map Prod.fst) :
    (ofList entries).map Prod.fst = (ofList others).map Prod.fst := by
  have permuted : (entries.map Prod.fst).Perm (others.map Prod.fst) :=
    (List.perm_ext_iff_of_nodup unique unique').mpr keys
  have permuted : ((ofList entries).map Prod.fst).Perm ((ofList others).map Prod.fst) :=
    (((ofList_perm unique).map Prod.fst).trans permuted).trans
      ((ofList_perm unique').map Prod.fst).symm
  exact permuted.eq_of_pairwise (fun _ _ _ _ before after => absurd after (String.lt_asymm before))
    (sorted_ofList entries) (sorted_ofList others)

end SortedEntries

namespace Value

variable {names : List (Option String)} {a b : Value}

theorem toJsonItems_equal {items others : List Value}
    (each : ∀ item ∈ items, ∀ other ∈ others, item.equal other = true →
      item.toJson.equal other.toJson = true)
    (same : equalItems items others = true) :
    Json.equalItems (toJsonItems items) (toJsonItems others) = true := by
  induction items generalizing others with
  | nil =>
    cases others with
    | nil => rfl
    | cons => cases same
  | cons item rest ih =>
    cases others with
    | nil => cases same
    | cons other others =>
      rw [equalItems, Bool.and_eq_true] at same
      obtain ⟨here, there⟩ := List.forall_mem_cons.mp each
      rw [toJsonItems, toJsonItems, Json.equalItems, Bool.and_eq_true]
      exact ⟨here other List.mem_cons_self same.1,
        ih (fun a member b member' => there a member b (List.mem_cons_of_mem _ member')) same.2⟩

theorem map_fst_toJsonEntries (entries : List (String × Value)) :
    (toJsonEntries entries).map Prod.fst = entries.map Prod.fst := by
  rw [toJsonEntries_eq_map, List.map_map]
  rfl

theorem exists_of_mem_toJsonEntries {entries : List (String × Value)} {key : String} {json : Json}
    (member : (key, json) ∈ toJsonEntries entries) :
    ∃ value, (key, value) ∈ entries ∧ json = value.toJson := by
  rw [toJsonEntries_eq_map] at member
  obtain ⟨⟨k, value⟩, inside, same⟩ := List.mem_map.mp member
  cases same
  exact ⟨value, inside, rfl⟩

/-- Equal values have equal JSON forms. -/
theorem toJson_equal (left : a.WellFormed names) (right : b.WellFormed names)
    (same : a.equal b = true) : a.toJson.equal b.toJson = true := by
  induction left generalizing b with
  | array each ih =>
    obtain ⟨others, rfl, items⟩ := exists_array_of_equal same
    have each' := wellFormed_array_iff.mp right
    exact toJsonItems_equal (fun item member other member' => ih item member (each' other member'))
      items
  | object unique each ih =>
    obtain ⟨others, rfl⟩ := exists_object_of_equal same
    obtain ⟨unique', each'⟩ := wellFormed_object_iff.mp right
    rw [equal_object_iff unique unique', forall_sameLookup_iff] at same
    obtain ⟨keys, values⟩ := same
    refine Json.equalMembers_of_keys_eq (SortedEntries.map_fst_ofList_eq ?_ ?_ ?_) ?_
    · rwa [map_fst_toJsonEntries]
    · rwa [map_fst_toJsonEntries]
    · rwa [map_fst_toJsonEntries, map_fst_toJsonEntries]
    · intro key x y member member'
      obtain ⟨value, inside, rfl⟩ :=
        exists_of_mem_toJsonEntries (SortedEntries.mem_of_mem_ofList member)
      obtain ⟨other, inside', rfl⟩ :=
        exists_of_mem_toJsonEntries (SortedEntries.mem_of_mem_ofList member')
      have equal := values key value other ((Entries.get?_eq_some_iff unique).mpr inside)
        ((Entries.get?_eq_some_iff unique').mpr inside')
      exact ih _ inside (each' _ inside') equal
  | number x =>
    cases right with
    | number y => exact Json.ofBinary64_equal same
    | _ => cases same
  | function named =>
    cases right with
    | function named' =>
      -- Both have the name that their common identity was given.
      rw [equal, beq_iff_eq] at same
      rw [same, named', Option.some_inj] at named
      rw [toJson, toJson, Callable.shown, Callable.shown, named]
      exact beq_self_eq_true _
    | _ => cases same
  | null =>
    obtain rfl := eq_of_equal (by simp [tag]) same
    rfl
  | _ =>
    -- A truth value or a text.
    obtain rfl := eq_of_equal (by simp [tag]) same
    exact beq_self_eq_true _

/-- Nothing that a validation does with a value tells the two apart. -/
structure Indistinct (a b : Value) : Prop where
  tag : classify (some a) = classify (some b)
  json : (a.toJson == b.toJson) = true
  length : ∀ measure : Measure, measure.length? a = measure.length? b
  places : a.number?.map decimalPlaces = b.number?.map decimalPlaces
  coercion : (coerceNumber? a == coerceNumber? b) = true
  rule : ∀ rule : Rule, rule.Standard → rule.check a = rule.check b
  pipeline : ∀ pipeline : Pipeline, pipeline.Buildable → ∀ key,
    (pipeline.validate key (some a) == pipeline.validate key (some b)) = true

end Value

/-- Equal values of a history are not told apart, by whatever steps they were made. -/
theorem Workshop.indistinct_of_equal {makings : List Making} {w : Workshop} {a b : Value}
    (run : run? makings = some w) (left : a ∈ w.values) (right : b ∈ w.values)
    (same : (a == b) = true) : a.Indistinct b := by
  have each := (sound_of_run? run).each
  have same : a.equal b = true := same
  constructor
  case tag => exact Value.tag_eq_of_equal same
  case json => exact Value.toJson_equal (each a left) (each b right) same
  case length => exact fun measure => Value.length?_eq_of_equal measure same
  case places =>
    exact Value.number?_congr (Option.map decimalPlaces)
      (fun x y equal => congrArg some (decimalPlaces_eq_of_equal equal)) same
  case coercion => exact Value.coerceNumber?_equal same
  case rule => exact fun rule standard => standard.check_eq_of_equal same
  case pipeline => exact fun pipeline buildable key => buildable.validate_equal key same

/-- Two objects with both zeros under the keys, in either order. -/
def Workshop.zeros : List Making :=
  [.number (.double .zero), .number (.double (.finite true .zero)),
    .object [("a", 0), ("b", 1)], .object [("b", 0), ("a", 1)]]

theorem Workshop.indistinct_of_equal_zeros : ∃ w a b, run? zeros = some w ∧
    w.values[2]? = some a ∧ w.values[3]? = some b ∧ (a == b) = true ∧ a.Indistinct b := by
  obtain ⟨w, run, a, b, left, right, same⟩ : ∃ w, run? zeros = some w ∧ ∃ a b,
      w.values[2]? = some a ∧ w.values[3]? = some b ∧ (a == b) = true :=
    ⟨_, rfl, _, _, rfl, rfl, rfl⟩
  exact ⟨w, a, b, run, left, right, same,
    indistinct_of_equal run (List.mem_of_getElem? left) (List.mem_of_getElem? right) same⟩

end RecordCheck
