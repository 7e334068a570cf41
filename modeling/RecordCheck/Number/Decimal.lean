import RecordCheck.Number.Rounding

/-!
# The shortest decimal that reads back

`Magnitude.shortest` finds the decimal with the fewest digits that is rounded
back to the magnitude it came from. The grid of multiples of `10 ^ p` is tried
from coarse to fine. On each grid only the two neighbours of the magnitude can
read back; the nearer one wins, and of two equally near the larger. The exact
decimal lies on the grid of `10 ^ -unit`, so the search always ends there.
-/

namespace RecordCheck

-- Powers of naturals are the core ones, whatever other instances are in scope.
attribute [local instance (high)] instPowNat

/-- The decimal number `coefficient * 10 ^ exponent`. -/
structure Decimal where
  coefficient : Nat
  exponent : Int
  deriving DecidableEq

namespace Decimal

/-- The decimal digits of the coefficient, the leading one first. -/
def digits (d : Decimal) : List Char := Nat.toDigits 10 d.coefficient

/-- How many digits stand after the point when no exponent is written. -/
def places (d : Decimal) : Nat := (-d.exponent).toNat

/-- The power of ten of the leading digit. -/
def leading (d : Decimal) : Int := d.exponent + d.digits.length - 1

end Decimal

namespace Magnitude

variable {f : Format}

/-- Whether `coefficient * 10 ^ exponent` is rounded to the magnitude. -/
def readsBack (m : Magnitude f) (coefficient : Nat) (exponent : Int) : Bool :=
  ofDecimal? coefficient exponent == some m

/-- The multiple of `10 ^ exponent` next to the magnitude that reads back. -/
def onGrid? (m : Magnitude f) (exponent : Int) : Option Nat :=
  let num := m.units * 10 ^ (-exponent).toNat
  let den := 2 ^ f.unit * 10 ^ exponent.toNat
  let low := num / den
  match m.readsBack low exponent, m.readsBack (low + 1) exponent with
  | true, true => if 2 * (num % den) < den then some low else some (low + 1)
  | true, false => some low
  | false, true => some (low + 1)
  | false, false => none

/-- The first hit on the grids of `10 ^ (n - unit)`, `10 ^ (n - 1 - unit)` and so on. -/
def shortestFrom (m : Magnitude f) : (n : Nat) → Decimal
  | 0 => ⟨m.units * 5 ^ f.unit, -f.unit⟩
  | n + 1 =>
    match m.onGrid? (n + 1 - f.unit) with
    | some coefficient => ⟨coefficient, n + 1 - f.unit⟩
    | none => shortestFrom m n

/-- A grid so coarse that the magnitude is below a tenth of its step: the size
in binary digits times a little more than the decimal logarithm of two. -/
def coarsest (m : Magnitude f) : Nat :=
  ((((m.units.log2 : Int) + 1 - f.unit) * 30103 / 100000) + 3 + f.unit).toNat

/-- The decimal with the fewest digits that reads back, nearest to the magnitude. -/
def shortest (m : Magnitude f) : Decimal :=
  if m.isZero then ⟨0, 0⟩ else m.shortestFrom m.coarsest

/-! ## The result reads back -/

/-- What is found on a grid reads back. -/
theorem readsBack_of_onGrid? {m : Magnitude f} {exponent : Int} {coefficient : Nat}
    (found : m.onGrid? exponent = some coefficient) :
    m.readsBack coefficient exponent = true := by
  unfold onGrid? at found
  dsimp only at found
  split at found
  · rename_i low high
    split at found
    · cases found; exact low
    · cases found; exact high
  · rename_i low _
    cases found; exact low
  · rename_i _ high
    cases found; exact high
  · cases found

/-- The exact decimal of a magnitude that is not zero reads back. -/
theorem readsBack_exact {m : Magnitude f} (nonzero : m.units ≠ 0) :
    m.readsBack (m.units * 5 ^ f.unit) (-f.unit) = true := by
  have positive : 0 < m.units := Nat.pos_of_ne_zero nonzero
  cases unit : f.unit with
  | zero =>
    have alone : nearest? m.units 1 = some m := by simpa [unit] using nearest?_units m
    have inside : ¬ f.precision + f.top ≤ 0 := by
      have := f.precision_pos
      omega
    have reading : ofDecimal? (m.units * 5 ^ 0) (Int.ofNat 0) = some m := by
      simp [ofDecimal?, nonzero, inside, alone]
    simpa [readsBack] using reading
  | succ n =>
    have coefficient : m.units * 5 ^ (n + 1) ≠ 0 :=
      Nat.mul_ne_zero nonzero (Nat.ne_of_gt (Nat.pow_pos (by decide)))
    have digits : 2 * (n + 1) ≤ (m.units * 5 ^ (n + 1)).log2 := by
      rw [Nat.le_log2 coefficient, Nat.pow_mul]
      exact Nat.le_trans (Nat.pow_le_pow_left (by decide) (n + 1))
        (Nat.le_mul_of_pos_left _ positive)
    have large : ¬ (m.units * 5 ^ (n + 1)).log2 + f.unit + 2 ≤ 3 * (n + 1) := by omega
    have fraction : nearest? (m.units * 5 ^ (n + 1)) (10 ^ (n + 1)) = some m := by
      rw [show (10 : Nat) = 2 * 5 from rfl, Nat.mul_pow,
        nearest?_mul_mul _ _ (Nat.pow_pos (by decide)), ← unit]
      exact nearest?_units m
    have reading : ofDecimal? (m.units * 5 ^ (n + 1)) (Int.negSucc n) = some m := by
      simp only [ofDecimal?, large, if_false, fraction]
    have form : -((n + 1 : Nat) : Int) = Int.negSucc n := rfl
    rw [form]
    simp [readsBack, reading]

/-- Every search ends with a decimal that reads back. -/
theorem readsBack_shortestFrom {m : Magnitude f} (nonzero : m.units ≠ 0) (n : Nat) :
    m.readsBack (m.shortestFrom n).coefficient (m.shortestFrom n).exponent = true := by
  induction n with
  | zero => exact readsBack_exact nonzero
  | succ n ih =>
    unfold shortestFrom
    split
    · rename_i coefficient found
      exact readsBack_of_onGrid? found
    · exact ih

/-- The shortest decimal of a magnitude reads back. -/
theorem readsBack_shortest (m : Magnitude f) :
    m.readsBack m.shortest.coefficient m.shortest.exponent = true := by
  unfold shortest
  split
  · rename_i zero
    rw [eq_zero_of_units ((isZero_iff m).mp zero)]
    simp [readsBack, ofDecimal?]
  · rename_i nonzero
    exact readsBack_shortestFrom (fun units => nonzero ((isZero_iff m).mpr units)) _

end Magnitude

end RecordCheck
