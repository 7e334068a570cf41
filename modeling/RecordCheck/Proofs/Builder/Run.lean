import RecordCheck.Proofs.Builder.Plan
import RecordCheck.Proofs.Pipeline.Meaning

/-!
# Runs of plans

A plan evaluates its coercions before its checks. A value that was coerced is a
number, and numbers are left alone, so it only matters whether there are
coercions and not how many (`Step.run_coercions_checks`). `Plan.validate_some`
runs the checks of a plan on `Plan.checked`, the value that all of them find.
-/

namespace RecordCheck

/-- The number in place of a string that spells one; every other value itself. -/
def Value.coerced (value : Value) : Value := (coerceNumber? value).getD value

theorem Value.coerced_coerced (value : Value) : value.coerced.coerced = value.coerced := by
  unfold Value.coerced
  cases spelled : coerceNumber? value with
  | none => rw [Option.getD_none, spelled, Option.getD_none]
  | some next =>
    obtain ⟨x, -, rfl⟩ := Option.map_eq_some_iff.mp spelled
    rfl

theorem Value.coerced_of_spelled {text : String} {x : Binary64}
    (spelled : parseNumber? text = some x) : (Value.string text).coerced = .number x := by
  simp only [Value.coerced, coerceNumber?, Value.string?, Option.bind_some, spelled,
    Option.map_some, Option.getD_some]

theorem Value.coerced_of_not_spelled {value : Value}
    (other : ∀ text x, value = .string text → parseNumber? text ≠ some x) :
    value.coerced = value := by
  cases value with
  | string text =>
    have unread : parseNumber? text = none :=
      Option.eq_none_iff_forall_ne_some.mpr fun x => other text x rfl
    simp only [Value.coerced, coerceNumber?, Value.string?, Option.bind_some, unread,
      Option.map_none, Option.getD_none]
  | _ => rfl

theorem Step.rewriteAll_coercions (n : Nat) (value : Value) :
    Step.rewriteAll (List.replicate n (.replace .numericCoercion)) value =
      if n = 0 then value else value.coerced := by
  induction n generalizing value with
  | zero => rfl
  | succ n ih =>
    rw [List.replicate_succ, Step.rewriteAll_cons, ih, if_neg (Nat.succ_ne_zero n)]
    split
    · rfl
    · exact value.coerced_coerced

theorem Step.pass_coercions (n : Nat) (value : Value) :
    Step.Pass (List.replicate n (.replace .numericCoercion)) value := by
  intro i rule there
  cases List.eq_of_mem_replicate (List.mem_of_getElem? there)

/-- The value that checks behind so many coercions find. -/
def Value.coercedBy (coercions : Nat) (value : Value) : Value :=
  if coercions = 0 then value else value.coerced

theorem Value.coercedBy_coercedBy (coercions : Nat) (value : Value) :
    (value.coercedBy coercions).coercedBy coercions = value.coercedBy coercions := by
  unfold Value.coercedBy
  split
  · rfl
  · exact value.coerced_coerced

/-- A present value is coerced if there are coercions at all, and then only checked. -/
theorem Step.run_coercions_checks (coercions : Nat) (rules : List Rule) (key : String)
    (value : Value) :
    Step.run (List.replicate coercions (.replace .numericCoercion) ++ rules.map .check)
        ⟨key, some value, .valid⟩ =
      Step.run (rules.map .check) ⟨key, some (value.coercedBy coercions), .valid⟩ := by
  rw [Step.run_append, Step.run_of_pass (Step.pass_coercions coercions value),
    Step.rewriteAll_coercions]
  rfl

/-- The value that the checks of a plan find. -/
def Plan.checked (plan : Plan) (value : Value) : Value :=
  if plan.coercions = 0 then value else value.coerced

theorem Plan.validate_some (plan : Plan) (key : String) (value : Value) :
    plan.pipeline.validate key (some value) =
      Step.run (plan.checks.map .check) ⟨key, some (plan.checked value), .valid⟩ := by
  rw [Pipeline.validate_some]
  exact Step.run_coercions_checks plan.coercions plan.checks key value

end RecordCheck
