import RecordCheck.Number.Rounding

/-!
# Numbers as callers hold them

A caller hands over numbers as machine integers or as numbers of either
precision. Integers of fewer bits are held as those of 64 bits with the same
value.
-/

namespace RecordCheck

/-- A number of a type that callers use. -/
inductive Numeral
  | unsigned (n : UInt64)
  | signed (n : Int64)
  | single (x : Binary32)
  | double (x : Binary64)

namespace Numeral

/-- The nearest number of double precision; only integers past 2^53 are changed by it. -/
def toBinary64 : Numeral → Binary64
  | .unsigned n => .ofInt n.toNat
  | .signed n => .ofInt n.toInt
  | .single x => x.convert
  | .double x => x

end Numeral

end RecordCheck
