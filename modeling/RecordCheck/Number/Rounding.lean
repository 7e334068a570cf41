import RecordCheck.Number.Binary

/-!
# Rounding to the nearest number

A fraction is rounded to the nearest number of a format, and a fraction that
lies exactly between two goes to the one with the even significand. What rounds
past the largest number has no magnitude; with a sign it becomes an infinity.
-/

namespace RecordCheck

-- Powers of naturals are the core ones, whatever other instances are in scope.
attribute [local instance (high)] instPowNat

/-- The integer nearest to `num / den`, the even one of two equally near. -/
def roundHalfEven (num den : Nat) : Nat :=
  let quotient := num / den
  let remainder := num % den
  if 2 * remainder < den then quotient
  else if den < 2 * remainder then quotient + 1
  else quotient + quotient % 2

/-- An integer is nearest to itself. -/
theorem roundHalfEven_mul (q : Nat) {den : Nat} (positive : 0 < den) :
    roundHalfEven (q * den) den = q := by
  simp [roundHalfEven, Nat.mul_mod_left, Nat.mul_div_cancel q positive, positive]

/-- Rounding goes down or up by less than one. -/
theorem roundHalfEven_eq (num den : Nat) :
    roundHalfEven num den = num / den ∨ roundHalfEven num den = num / den + 1 := by
  unfold roundHalfEven
  have parity := Nat.mod_two_eq_zero_or_one (num / den)
  dsimp only
  split
  · exact .inl rfl
  · split
    · exact .inr rfl
    · rcases parity with even | odd
      · exact .inl (by rw [even, Nat.add_zero])
      · exact .inr (by rw [odd])

/-- Rounding depends on the fraction and not on how it is written. -/
theorem roundHalfEven_mul_mul (num den : Nat) {k : Nat} (positive : 0 < k) :
    roundHalfEven (num * k) (den * k) = roundHalfEven num den := by
  have below (a b : Nat) : a * k < b * k ↔ a < b := Nat.mul_lt_mul_right positive
  simp only [roundHalfEven, Nat.mul_div_mul_right _ _ positive, Nat.mul_mod_mul_right,
    ← Nat.mul_assoc, below]

namespace Magnitude

variable {f : Format}

/-- The parts of a magnitude make it up. -/
theorem ofParts?_parts (m : Magnitude f) :
    ofParts? m.significand m.exponent = some m := by
  obtain ⟨significand, exponent, small, low, normal⟩ := m
  simp [ofParts?, small, low, normal]

/-- The exponent of a magnitude is the one that leaves its units `precision` digits. -/
theorem exponent_eq (m : Magnitude f) : m.units.log2 + 1 - f.precision = m.exponent := by
  have digits := f.precision_pos
  have small := m.significand_lt
  by_cases zero : m.units = 0
  · rw [eq_zero_of_units zero, units_zero, Nat.log2_zero, Nat.zero_add]
    exact Nat.sub_eq_zero_of_le digits
  · have upper : m.units.log2 < f.precision + m.exponent := by
      rw [Nat.log2_lt zero, units, Nat.pow_add]
      exact Nat.mul_lt_mul_of_pos_right small (Nat.two_pow_pos _)
    rcases m.normal with least | full
    · omega
    · have lower : f.precision - 1 + m.exponent ≤ m.units.log2 := by
        rw [Nat.le_log2 zero, units, Nat.pow_add]
        exact Nat.mul_le_mul_right _ full
      omega

/-- The magnitude nearest to `num / den`, if it is not beyond the largest. The
significand is rounded at the exponent that leaves it `precision` digits; when
it rounds up to one digit more, it is a power of two and the exponent grows. -/
def nearest? (num den : Nat) : Option (Magnitude f) :=
  let scaled := num * 2 ^ f.unit
  let exponent := (scaled / den).log2 + 1 - f.precision
  let significand := roundHalfEven scaled (den * 2 ^ exponent)
  if significand < 2 ^ f.precision then
    ofParts? significand exponent
  else
    ofParts? (2 ^ (f.precision - 1)) (exponent + 1)

/-- A magnitude is nearest to itself. -/
theorem nearest?_units (m : Magnitude f) : nearest? m.units (2 ^ f.unit) = some m := by
  have unit := Nat.two_pow_pos f.unit
  have step : 0 < 2 ^ f.unit * 2 ^ m.exponent := Nat.mul_pos unit (Nat.two_pow_pos _)
  have exact : m.units * 2 ^ f.unit = m.significand * (2 ^ f.unit * 2 ^ m.exponent) := by
    rw [units, Nat.mul_assoc, Nat.mul_comm (2 ^ m.exponent)]
  simp only [nearest?, Nat.mul_div_cancel _ unit, exponent_eq]
  rw [exact, roundHalfEven_mul _ step, if_pos m.significand_lt, ofParts?_parts]

/-- The nearest magnitude depends on the fraction and not on how it is written. -/
theorem nearest?_mul_mul (num den : Nat) {k : Nat} (positive : 0 < k) :
    nearest? (f := f) (num * k) (den * k) = nearest? num den := by
  have scaled : num * k * 2 ^ f.unit = num * 2 ^ f.unit * k := Nat.mul_right_comm ..
  have step (e : Nat) : den * k * 2 ^ e = den * 2 ^ e * k := Nat.mul_right_comm ..
  simp only [nearest?, scaled, step, Nat.mul_div_mul_right _ _ positive,
    roundHalfEven_mul_mul _ _ positive]

/-- The magnitude nearest to `coefficient * 10 ^ exponent`. Powers of ten that
are out of reach in either direction are not computed: from `2 ^ (precision + top)`
on everything overflows, and below half a unit everything is zero. -/
def ofDecimal? (coefficient : Nat) : (exponent : Int) → Option (Magnitude f)
  | .ofNat k =>
    if coefficient = 0 then some zero
    else if f.precision + f.top ≤ 3 * k then none
    else nearest? (coefficient * 10 ^ k) 1
  | .negSucc k =>
    if coefficient.log2 + f.unit + 2 ≤ 3 * (k + 1) then some zero
    else nearest? coefficient (10 ^ (k + 1))

end Magnitude

namespace Binary

variable {f : Format}

/-- A rounded magnitude with its sign; one beyond the largest is infinite. -/
def ofRounded (negative : Bool) : Option (Magnitude f) → Binary f
  | some m => .finite negative m
  | none => .infinity negative

/-- The number nearest to `num / den` with the given sign. -/
def ofRatio (negative : Bool) (num den : Nat) : Binary f :=
  ofRounded negative (Magnitude.nearest? num den)

/-- The number nearest to an integer. -/
def ofInt (n : Int) : Binary f :=
  ofRatio (decide (n < 0)) n.natAbs 1

/-- The nearest number of another format; going to a wider one is exact. -/
def convert {g : Format} : Binary f → Binary g
  | .nan => .nan
  | .infinity negative => .infinity negative
  | .finite negative m => ofRatio negative m.units (2 ^ f.unit)

/-- The largest integral number that is not above the number. An integral
number, an infinity and `nan` stay as they are. -/
def floor : Binary f → Binary f
  | .finite negative m =>
    if m.isIntegral then .finite negative m
    else ofRatio negative (if negative then m.floor + 1 else m.floor) 1
  | x => x

end Binary

end RecordCheck
