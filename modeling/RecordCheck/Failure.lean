import RecordCheck.Value.Equality
import RecordCheck.Value.Json

/-!
# Failures

A failure says which kind of rule rejected which value of which field, and with
which parameter. Its message and its JSON form are for reports.
-/

namespace RecordCheck

/-! ## Kinds of failures -/

/-- The kinds of rules, by which failures are told apart. -/
inductive FailureKind
  | required
  | type
  | maxLength
  | minLength
  | length
  | decimal
  deriving DecidableEq

namespace FailureKind

/-- Every kind. -/
def all : List FailureKind := [.required, .type, .maxLength, .minLength, .length, .decimal]

theorem mem_all (kind : FailureKind) : kind ∈ all := by cases kind <;> decide

/-- The stable code of the kind. -/
def code : FailureKind → String
  | .required => "required"
  | .type => "type"
  | .maxLength => "max_length"
  | .minLength => "min_length"
  | .length => "length"
  | .decimal => "decimal"

/-- The capitalised name, for detailed texts. -/
def title : FailureKind → String
  | .required => "Required"
  | .type => "Type"
  | .maxLength => "MaxLength"
  | .minLength => "MinLength"
  | .length => "Length"
  | .decimal => "Decimal"

/-- The kind with exactly this code. -/
def parse? (code : String) : Option FailureKind := all.find? fun kind => kind.code == code

/-- The kind that a JSON value names by its code. -/
def ofJson? (json : Json) : Option FailureKind := json.word?.bind parse?

theorem parse?_code (kind : FailureKind) : parse? kind.code = some kind := by
  cases kind <;> rfl

end FailureKind

/-! ## Parameters -/

/-- What a rule compares with: nothing, a name, or a bound. -/
inductive Parameter
  | none
  | expected (name : String)
  | bound (n : Nat)
  deriving DecidableEq

namespace Parameter

/-- The bound, if the parameter is one. -/
def bound? : Parameter → Option Nat
  | .bound n => some n
  | _ => Option.none

/-- The name, if the parameter is one. -/
def expected? : Parameter → Option String
  | .expected name => some name
  | _ => Option.none

/-- The parameter in messages. -/
def text : Parameter → String
  | .none => ""
  | .expected name => name
  | .bound n => toString n

/-- The parameter as JSON. -/
def toJson : Parameter → Json
  | .none => .null
  | .expected name => .string name
  | .bound n => .integer n

end Parameter

/-! ## Failures -/

/-- The rejection of a field's value, which is absent if the field is. -/
structure Failure where
  kind : FailureKind
  key : String
  value : Option Value
  parameter : Parameter

namespace Failure

/-- The code of the kind. -/
def code (failure : Failure) : String := failure.kind.code

/-- The sentence that reports the failure. The value is not part of it. -/
def message (failure : Failure) : String :=
  let key := failure.key
  let parameter := failure.parameter.text
  match failure.kind with
  | .required => key ++ " is required, but it is undefined."
  | .type => "Incorrect type on " ++ key ++ ", should be " ++ parameter ++ "."
  | .maxLength => "Length exceeded: " ++ key ++ ", should be at most " ++ parameter ++ "."
  | .minLength => "Length insufficient: " ++ key ++ ", should be at least " ++ parameter ++ "."
  | .length => "Length not matched: " ++ key ++ ", should be " ++ parameter ++ "."
  | .decimal => "Too many decimal places: " ++ key ++ ", should be at most " ++ parameter ++ "."

/-- The JSON form of the value, `null` if it is absent. -/
def valueJson (failure : Failure) : Json :=
  match failure.value with
  | some value => value.toJson
  | none => .null

/-- The failure as JSON. -/
def toJson (failure : Failure) : Json :=
  .ofMembers
    [("code", .string failure.code), ("key", .string failure.key),
     ("parameter", failure.parameter.toJson), ("value", failure.valueJson)]

/-- Whether two failures are equal; their values are compared as values. -/
def equal (a b : Failure) : Bool :=
  a.kind == b.kind && a.key == b.key && a.value == b.value && a.parameter == b.parameter

instance : BEq Failure := ⟨equal⟩

end Failure

end RecordCheck
