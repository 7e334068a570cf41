import RecordCheck.Failure
import RecordCheck.Number.Numeral
import RecordCheck.Number.Text

/-!
# Bounds

A bound on a length or on a number of decimal places is given as a number of any
type. It has to be an integer that is not negative. Bounds are words of 64 bits;
larger integers count as the largest word.
-/

namespace RecordCheck

/-- Why a number is not a bound for a kind of rule. -/
inductive BoundError
  | notInteger (rule : FailureKind) (value : Binary64)
  | negative (rule : FailureKind) (value : Binary64)
  deriving DecidableEq

namespace BoundError

/-- The kind of rule that the bound was for. -/
def rule : BoundError → FailureKind
  | .notInteger rule _ => rule
  | .negative rule _ => rule

/-- The number that was given, to double precision. -/
def value : BoundError → Binary64
  | .notInteger _ value => value
  | .negative _ value => value

/-- The sentence that reports the error. -/
def message (e : BoundError) : String :=
  match e with
  | .notInteger rule value => rule.code ++ " bound should be an integer, got " ++ value.text
  | .negative rule value => rule.code ++ " bound should not be negative, got " ++ value.text

end BoundError

/-- The largest bound. -/
def maxBound : Nat := UInt64.size - 1

/-- A number of double precision as a bound. -/
def Binary64.toBound (rule : FailureKind) (x : Binary64) : Except BoundError Nat :=
  match x with
  | .finite _ m =>
    if !m.isIntegral then .error (.notInteger rule x)
    else if x.isBelowZero then .error (.negative rule x)
    else .ok (min m.floor maxBound)
  | _ => .error (.notInteger rule x)

/-- A number as a bound for a kind of rule. -/
def Numeral.toBound (rule : FailureKind) (n : Numeral) : Except BoundError Nat :=
  match n with
  | .unsigned k => .ok k.toNat
  | .signed k =>
    if k < 0 then .error (.negative rule n.toBinary64) else .ok k.toInt.toNat
  | .single x => Binary64.toBound rule x.convert
  | .double x => Binary64.toBound rule x

end RecordCheck
