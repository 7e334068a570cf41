import RecordCheck.Rule.Basic
import RecordCheck.Measure
import RecordCheck.Coercion
import RecordCheck.Value.Tag
import RecordCheck.Value.Text

/-!
# The rules of the library

Rules on tags, on the length of a value by either measure, on whether a number
has a fractional part and on its decimal places; and the one transform, which
takes strings for the numbers they spell.
-/

namespace RecordCheck

namespace Rule

/-- The value has the tag. -/
def typeMatch (expected : Tag) : Rule where
  label := detailedRecord "TypeMatch" [("expected", expected.title)]
  kind := .type
  parameter := .expected expected.name
  check value := value.tag = expected

/-- The value has a length, and it is at most the bound. -/
def maxLength (bound : Nat) (measure : Measure) : Rule where
  label := detailedRecord "MaxLen" [("max", toString bound), ("mode", measure.title)]
  kind := .maxLength
  parameter := .bound bound
  check value := (measure.length? value).any (· ≤ bound)

/-- The value has a length, and it is at least the bound. -/
def minLength (bound : Nat) (measure : Measure) : Rule where
  label := detailedRecord "MinLen" [("min", toString bound), ("mode", measure.title)]
  kind := .minLength
  parameter := .bound bound
  check value := (measure.length? value).any (bound ≤ ·)

/-- The value has exactly this length. -/
def exactLength (bound : Nat) (measure : Measure) : Rule where
  label := detailedRecord "ExactLen" [("length", toString bound), ("mode", measure.title)]
  kind := .length
  parameter := .bound bound
  check value := measure.length? value == some bound

/-- The value is a number without a fractional part. -/
def isInteger : Rule where
  label := "IsInteger"
  kind := .type
  parameter := .expected "integer"
  check value := value.number?.any Binary.isIntegral

/-- The value is a number, and its fractional part is not zero. -/
def isFloat : Rule where
  label := "IsFloat"
  kind := .type
  parameter := .expected "float"
  check value := value.number?.any (!·.isIntegral)

/-- The value is a number with at most so many decimal places. -/
def decimalPlaces (bound : Nat) : Rule where
  label := detailedRecord "DecimalPlaces" [("max", toString bound)]
  kind := .decimal
  parameter := .bound bound
  check value := value.number?.any (RecordCheck.decimalPlaces · ≤ bound)

end Rule

namespace Transform

/-- Takes a string for the number that it spells. -/
def numericCoercion : Transform where
  label := "NumericCoercion"
  replace? := coerceNumber?

end Transform

end RecordCheck
