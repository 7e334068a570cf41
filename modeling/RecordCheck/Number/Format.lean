/-!
# Binary formats

A format fixes how many binary digits a number keeps and how far its exponent
reaches. Everything about rounding and decimal text is stated over a format, so
single and double precision share one development.
-/

namespace RecordCheck

/-- A finite number of the format is a significand below `2 ^ precision` times
`2 ^ exponent` units, where the unit, the smallest positive number, is
`2 ^ -unit` and exponents go up to `top`. -/
structure Format where
  precision : Nat
  unit : Nat
  top : Nat
  precision_pos : 0 < precision := by decide

namespace Format

/-- Single precision: 24 binary digits, the largest number just below `2 ^ 128`. -/
def single : Format where
  precision := 24
  unit := 149
  top := 253

/-- Double precision: 53 binary digits, the largest number just below `2 ^ 1024`. -/
def double : Format where
  precision := 53
  unit := 1074
  top := 2045

end Format

end RecordCheck
