import RecordCheck.FieldState

/-!
# Rules and transforms

A rule accepts or rejects a present value and says under which kind and
parameter a rejection is reported. A transform may put another value in place of
a present one. Both carry the text under which they are shown in a pipeline.
-/

namespace RecordCheck

/-- A test of a present value. -/
structure Rule where
  label : String
  kind : FailureKind
  parameter : Parameter
  check : Value → Bool

/-- A replacement of a present value; `none` leaves it alone. -/
structure Transform where
  label : String
  replace? : Value → Option Value

end RecordCheck
