import Mathlib.Algebra.Order.Field.Rat
import Mathlib.Algebra.Order.Field.Basic
import Mathlib.Data.Nat.Dist
import Mathlib.Tactic.FieldSimp
import Mathlib.Tactic.Linarith
import Mathlib.Tactic.Ring
import RecordCheck.Number.Rounding

/-!
# Rounding gives the nearest number

Finite numbers are read as rational numbers here, and rounding is shown to do what
it is named for (`Binary.ofRatio_isNearest`): no finite number of the format, of
either sign, is nearer to the fraction than the one it is rounded to, and if another
is as near the significand is even. A fraction rounds past the largest number from
half a step above it on (`Magnitude.isSome_nearest?_iff`), so that every integer of
64 bits has a nearest number of double precision (`Binary.ofInt_isNearest`).

Rounding takes the nearest multiple of a power of two. All numbers of the format are
such multiples but for those of a smaller exponent, and these lie below a multiple
that is not above the fraction.
-/

namespace RecordCheck

-- Powers of naturals are the core ones, whatever other instances are in scope.
attribute [local instance (high)] instPowNat

/-! ## The nearest multiple -/

section Multiples

variable (num : Nat) {den : Nat} (positive : 0 < den)
include positive

/-- Rounding goes by at most a half, and by a half only to an even integer. -/
theorem dist_roundHalfEven :
    2 * Nat.dist (roundHalfEven num den * den) num < den ∨
      2 * Nat.dist (roundHalfEven num den * den) num = den ∧ roundHalfEven num den % 2 = 0 := by
  have parts := Nat.div_add_mod' num den
  have rest := Nat.mod_lt num positive
  have parity := Nat.mod_two_eq_zero_or_one (num / den)
  have next := Nat.add_one_mul (num / den) den
  unfold Nat.dist roundHalfEven
  dsimp only
  split_ifs with below above
  · omega
  · omega
  · rcases parity with even | odd
    · rw [even, Nat.add_zero]
      omega
    · rw [odd]
      omega

/-- No multiple of the denominator is nearer to the numerator than the rounded one, and
if another is as near the rounded quotient is even. -/
theorem dist_roundHalfEven_le (k : Nat) :
    Nat.dist (roundHalfEven num den * den) num < Nat.dist (k * den) num ∨
      Nat.dist (roundHalfEven num den * den) num = Nat.dist (k * den) num ∧
        (k = roundHalfEven num den ∨ roundHalfEven num den % 2 = 0) := by
  have near := dist_roundHalfEven num positive
  generalize roundHalfEven num den = rounded at near ⊢
  rcases Nat.lt_trichotomy k rounded with less | same | more
  · have step : (k + 1) * den ≤ rounded * den := Nat.mul_le_mul_right den less
    rw [Nat.add_one_mul] at step
    unfold Nat.dist at *
    omega
  · subst same
    exact .inr ⟨rfl, .inl rfl⟩
  · have step : (rounded + 1) * den ≤ k * den := Nat.mul_le_mul_right den more
    rw [Nat.add_one_mul] at step
    unfold Nat.dist at *
    omega

/-- The rounded quotient is below an even bound if and only if the fraction is below the
bound by more than a half. -/
theorem roundHalfEven_lt_iff (bound : Nat) (even : bound % 2 = 0) :
    roundHalfEven num den < bound ↔ 2 * num < (2 * bound - 1) * den := by
  have near := dist_roundHalfEven num positive
  have twice : (2 * bound - 1) * den = 2 * (bound * den) - den := by
    rw [Nat.sub_mul, Nat.one_mul, Nat.mul_assoc]
  rw [twice]
  generalize roundHalfEven num den = rounded at near ⊢
  constructor
  · intro below
    have step : (rounded + 1) * den ≤ bound * den := Nat.mul_le_mul_right den below
    rw [Nat.add_one_mul] at step
    unfold Nat.dist at near
    rcases Nat.lt_or_ge (rounded + 1) bound with far | next
    · have step : (rounded + 2) * den ≤ bound * den := Nat.mul_le_mul_right den far
      rw [Nat.add_mul] at step
      omega
    · -- The integer just below the bound is odd, so nothing rounds to it from a half above.
      omega
  · intro below
    by_contra reached
    have step : bound * den ≤ rounded * den := Nat.mul_le_mul_right den (Nat.le_of_not_lt reached)
    unfold Nat.dist at near
    omega

end Multiples

/-! ## The nearest magnitude -/

/-- The exponent at which a fraction of `scaled / den` units is rounded. -/
def Format.exponentFor (f : Format) (scaled den : Nat) : Nat :=
  (scaled / den).log2 + 1 - f.precision

/-- The fraction as a multiple of the power of two with that exponent, rounded. -/
def Format.significandFor (f : Format) (scaled den : Nat) : Nat :=
  roundHalfEven scaled (den * 2 ^ f.exponentFor scaled den)

theorem Format.two_pow_precision (f : Format) : 2 ^ f.precision = 2 * 2 ^ (f.precision - 1) := by
  rw [← Nat.pow_succ', Nat.succ_eq_add_one, Nat.sub_add_cancel f.precision_pos]

section Exponents

variable (f : Format) {den : Nat} (positive : 0 < den) (scaled : Nat)
include positive

theorem Format.step_pos (exponent : Nat) : 0 < den * 2 ^ exponent :=
  Nat.mul_pos positive (Nat.two_pow_pos _)

/-- The multiple has at most `precision` digits before the point. -/
theorem Format.lt_exponentFor :
    scaled < 2 ^ f.precision * (den * 2 ^ f.exponentFor scaled den) := by
  have digits : scaled / den < 2 ^ (f.precision + f.exponentFor scaled den) :=
    Nat.lt_of_lt_of_le Nat.lt_log2_self
      (Nat.pow_le_pow_right (by decide) (by unfold Format.exponentFor; omega))
  rw [Nat.div_lt_iff_lt_mul positive, Nat.pow_add] at digits
  rwa [Nat.mul_comm den, ← Nat.mul_assoc]

/-- The multiple has no fewer digits before the point, unless the exponent is the least. -/
theorem Format.exponentFor_le : f.exponentFor scaled den = 0 ∨
    2 ^ (f.precision - 1) * (den * 2 ^ f.exponentFor scaled den) ≤ scaled := by
  have least := f.precision_pos
  rcases Nat.eq_zero_or_pos (f.exponentFor scaled den) with zero | above
  · exact .inl zero
  · have some : scaled / den ≠ 0 := by
      intro none
      rw [Format.exponentFor, none, Nat.log2_zero] at above
      omega
    have digits : 2 ^ (f.precision - 1 + f.exponentFor scaled den) ≤ scaled / den := by
      rw [← Nat.le_log2 some]
      unfold Format.exponentFor at above ⊢
      omega
    rw [Nat.le_div_iff_mul_le positive, Nat.pow_add] at digits
    exact .inr (by rwa [Nat.mul_comm den, ← Nat.mul_assoc])

theorem Format.significandFor_le : f.significandFor scaled den ≤ 2 ^ f.precision := by
  have below := (Nat.div_lt_iff_lt_mul (Format.step_pos positive _)).mpr
    (f.lt_exponentFor positive scaled)
  unfold Format.significandFor
  rcases roundHalfEven_eq scaled (den * 2 ^ f.exponentFor scaled den) with same | up <;> omega

theorem Format.le_significandFor : f.exponentFor scaled den = 0 ∨
    2 ^ (f.precision - 1) ≤ f.significandFor scaled den := by
  refine (f.exponentFor_le positive scaled).imp_right fun full => ?_
  have above := (Nat.le_div_iff_mul_le (Format.step_pos positive _)).mpr full
  unfold Format.significandFor
  rcases roundHalfEven_eq scaled (den * 2 ^ f.exponentFor scaled den) with same | up <;> omega

end Exponents

namespace Magnitude

variable {f : Format} {num den : Nat}

theorem ofParts?_eq_some {significand exponent : Nat} {m : Magnitude f}
    (found : ofParts? significand exponent = some m) :
    m.significand = significand ∧ m.exponent = exponent := by
  unfold ofParts? at found
  split at found
  · obtain rfl := Option.some.inj found
    exact ⟨rfl, rfl⟩
  · cases found

theorem nearest?_eq (num den : Nat) : nearest? (f := f) num den =
    if f.significandFor (num * 2 ^ f.unit) den < 2 ^ f.precision then
      ofParts? (f.significandFor (num * 2 ^ f.unit) den) (f.exponentFor (num * 2 ^ f.unit) den)
    else ofParts? (2 ^ (f.precision - 1)) (f.exponentFor (num * 2 ^ f.unit) den + 1) :=
  rfl

/-- The significand stays even when it is rounded up to one digit more. -/
theorem even_significand_of_nearest? {m : Magnitude f} (found : nearest? num den = some m)
    (several : 1 < f.precision) (even : f.significandFor (num * 2 ^ f.unit) den % 2 = 0) :
    Even m.significand := by
  rw [nearest?_eq] at found
  split_ifs at found
  · obtain ⟨significand, -⟩ := ofParts?_eq_some found
    rw [significand]
    exact Nat.even_iff.mpr even
  · obtain ⟨significand, -⟩ := ofParts?_eq_some found
    rw [significand]
    exact Nat.even_pow.mpr ⟨even_two, by omega⟩

variable (positive : 0 < den)
include positive

/-- Rounding reaches a magnitude if the exponent is not above the largest one, where the
significand may not round up to one digit more. -/
theorem isSome_nearest?_iff_exponentFor : (nearest? (f := f) num den).isSome ↔
    f.exponentFor (num * 2 ^ f.unit) den < f.top ∨
      f.exponentFor (num * 2 ^ f.unit) den = f.top ∧
        f.significandFor (num * 2 ^ f.unit) den < 2 ^ f.precision := by
  have digits := f.two_pow_precision
  have one : 0 < 2 ^ (f.precision - 1) := Nat.two_pow_pos _
  have full := f.le_significandFor positive (num * 2 ^ f.unit)
  rw [nearest?_eq]
  split_ifs with small
  · simp only [ofParts?, small, full, and_true, true_and, Option.isSome_dite]
    omega
  · simp only [ofParts?, Option.isSome_dite]
    omega

/-- A fraction has a nearest magnitude if and only if it is less than half a step above
the largest one. -/
theorem isSome_nearest?_iff : (nearest? (f := f) num den).isSome ↔
    2 * (num * 2 ^ f.unit) < (2 * 2 ^ f.precision - 1) * (den * 2 ^ f.top) := by
  have digits := f.two_pow_precision
  have below := f.lt_exponentFor positive (num * 2 ^ f.unit)
  have above := f.exponentFor_le positive (num * 2 ^ f.unit)
  rw [isSome_nearest?_iff_exponentFor positive, Format.significandFor]
  generalize num * 2 ^ f.unit = scaled at *
  generalize f.exponentFor scaled den = exponent at *
  have twice {lower higher : Nat} (less : lower < higher) :
      2 * (den * 2 ^ lower) ≤ den * 2 ^ higher := by
    rw [Nat.mul_left_comm, ← Nat.pow_succ']
    exact Nat.mul_le_mul_left den (Nat.pow_le_pow_right (by decide) less)
  rcases Nat.lt_trichotomy exponent f.top with lower | same | higher
  · have room : 2 ^ f.precision * (2 * (den * 2 ^ exponent)) ≤
        (2 * 2 ^ f.precision - 1) * (den * 2 ^ f.top) :=
      Nat.mul_le_mul (by omega) (twice lower)
    rw [Nat.mul_left_comm] at room
    exact iff_of_true (.inl lower) (by omega)
  · subst same
    rw [← roundHalfEven_lt_iff scaled (Format.step_pos positive _) (2 ^ f.precision) (by omega)]
    simp
  · refine iff_of_false (by omega) (Nat.not_lt_of_le ?_)
    calc (2 * 2 ^ f.precision - 1) * (den * 2 ^ f.top)
        ≤ 2 * 2 ^ f.precision * (den * 2 ^ f.top) := Nat.mul_le_mul_right _ (Nat.sub_le _ _)
      _ = 2 ^ f.precision * (2 * (den * 2 ^ f.top)) := by ring
      _ ≤ 2 ^ f.precision * (den * 2 ^ exponent) := Nat.mul_le_mul_left _ (twice higher)
      _ = 2 * (2 ^ (f.precision - 1) * (den * 2 ^ exponent)) := by rw [digits, Nat.mul_assoc]
      _ ≤ 2 * scaled := Nat.mul_le_mul_left 2 (above.resolve_left (by omega))

variable {m : Magnitude f} (found : nearest? num den = some m)
include found

theorem units_of_nearest? : m.units =
    f.significandFor (num * 2 ^ f.unit) den * 2 ^ f.exponentFor (num * 2 ^ f.unit) den := by
  have most := f.significandFor_le positive (num * 2 ^ f.unit)
  rw [nearest?_eq] at found
  split_ifs at found with small
  · obtain ⟨significand, scale⟩ := ofParts?_eq_some found
    rw [units, significand, scale]
  · obtain ⟨significand, scale⟩ := ofParts?_eq_some found
    rw [Nat.le_antisymm most (Nat.le_of_not_lt small), units, significand, scale, Nat.pow_succ,
      f.two_pow_precision]
    ring

/-- No magnitude is nearer to the fraction than the nearest one, and if another is as near
the significand is even. -/
theorem dist_nearest?_le (several : 1 < f.precision) (n : Magnitude f) :
    Nat.dist (m.units * den) (num * 2 ^ f.unit) < Nat.dist (n.units * den) (num * 2 ^ f.unit) ∨
      Nat.dist (m.units * den) (num * 2 ^ f.unit) = Nat.dist (n.units * den) (num * 2 ^ f.unit) ∧
        (n.units = m.units ∨ Even m.significand) := by
  have multiple := units_of_nearest? positive found
  have even := even_significand_of_nearest? found several
  have above := f.exponentFor_le positive (num * 2 ^ f.unit)
  unfold Format.significandFor at multiple even
  generalize f.exponentFor (num * 2 ^ f.unit) den = exponent at *
  generalize num * 2 ^ f.unit = scaled at *
  have onGrid (k : Nat) : k * 2 ^ exponent * den = k * (den * 2 ^ exponent) := by ring
  have nearest := dist_roundHalfEven_le scaled (Format.step_pos positive exponent)
  rw [← onGrid, ← multiple] at nearest
  rcases Nat.lt_or_ge n.exponent exponent with smaller | grid
  · -- Below the exponent of the rounding, where magnitudes are no multiples of its step.
    have short : n.units * den < 2 ^ (f.precision - 1) * (den * 2 ^ exponent) :=
      calc n.units * den
          < 2 ^ f.precision * 2 ^ n.exponent * den :=
            Nat.mul_lt_mul_of_pos_right
              (Nat.mul_lt_mul_of_pos_right n.significand_lt (Nat.two_pow_pos _)) positive
        _ = 2 ^ (f.precision - 1) * (den * 2 ^ (n.exponent + 1)) := by
            rw [f.two_pow_precision, Nat.pow_succ]
            ring
        _ ≤ 2 ^ (f.precision - 1) * (den * 2 ^ exponent) :=
            Nat.mul_le_mul_left _ (Nat.mul_le_mul_left _ (Nat.pow_le_pow_right (by decide) smaller))
    have full := above.resolve_left (by omega)
    have near := nearest (2 ^ (f.precision - 1))
    unfold Nat.dist at near ⊢
    omega
  · have multiples : n.units = n.significand * 2 ^ (n.exponent - exponent) * 2 ^ exponent := by
      rw [Nat.mul_assoc, ← Nat.pow_add, Nat.sub_add_cancel grid, units]
    have near := nearest (n.significand * 2 ^ (n.exponent - exponent))
    rw [← onGrid, ← multiples] at near
    refine near.imp_right (And.imp_right fun tie => tie.imp (fun equal => ?_) even)
    rw [multiples, equal, multiple]

end Magnitude

/-! ## The nearest number -/

theorem cast_dist (a b : ℕ) : (Nat.dist a b : ℚ) = |(a : ℚ) - b| := by
  rcases Nat.le_total a b with le | ge
  · rw [Nat.dist_eq_sub_of_le le, Nat.cast_sub le, abs_sub_comm, abs_of_nonneg]
    exact sub_nonneg.mpr (Nat.cast_le.mpr le)
  · rw [Nat.dist_eq_sub_of_le_right ge, Nat.cast_sub ge, abs_of_nonneg]
    exact sub_nonneg.mpr (Nat.cast_le.mpr ge)

/-- A rational number with a sign put before it. -/
def withSign : (negative : Bool) → ℚ → ℚ
  | false, q => q
  | true, q => -q

@[simp] theorem withSign_zero (negative : Bool) : withSign negative 0 = 0 := by
  cases negative <;> simp [withSign]

theorem withSign_natAbs (n : Int) : withSign (decide (n < 0)) (n.natAbs : ℚ) = n := by
  rw [Nat.cast_natAbs, Int.cast_abs]
  by_cases below : n < 0
  · rw [decide_eq_true below, withSign, abs_of_neg (by exact_mod_cast below), neg_neg]
  · rw [decide_eq_false below, withSign, abs_of_nonneg (by exact_mod_cast not_lt.mp below)]

theorem abs_withSign_sub (negative : Bool) (q r : ℚ) :
    |withSign negative q - withSign negative r| = |q - r| := by
  cases negative with
  | false => rfl
  | true => rw [withSign, withSign, neg_sub_neg, abs_sub_comm]

/-- Numbers of different signs are as far apart as both are from zero. -/
theorem abs_withSign_sub_of_ne {negative other : Bool} (differ : other ≠ negative) {q r : ℚ}
    (left : 0 ≤ q) (right : 0 ≤ r) : |withSign other q - withSign negative r| = q + r := by
  have sum : 0 ≤ q + r := add_nonneg left right
  cases negative <;> cases other
  · contradiction
  · rw [withSign, withSign, ← neg_add', abs_neg, abs_of_nonneg sum]
  · rw [withSign, withSign, sub_neg_eq_add, abs_of_nonneg sum]
  · contradiction

variable {f : Format}

/-- The magnitude as a rational number. -/
def Magnitude.toRat (m : Magnitude f) : ℚ := m.units / 2 ^ f.unit

namespace Magnitude

theorem toRat_nonneg (m : Magnitude f) : 0 ≤ m.toRat :=
  div_nonneg (Nat.cast_nonneg _) (pow_nonneg (by norm_num) _)

theorem abs_toRat_sub (m : Magnitude f) (num : Nat) {den : Nat} (positive : 0 < den) :
    |m.toRat - num / den| =
      (Nat.dist (m.units * den) (num * 2 ^ f.unit) : ℕ) / (2 ^ f.unit * den : ℚ) := by
  have unit : (0 : ℚ) < 2 ^ f.unit := by positivity
  have whole : (0 : ℚ) < den := Nat.cast_pos.mpr positive
  have fraction : m.toRat - num / den =
      ((m.units * den : ℕ) - (num * 2 ^ f.unit : ℕ) : ℚ) / (2 ^ f.unit * den) := by
    rw [toRat, div_sub_div _ _ unit.ne' whole.ne']
    push_cast
    ring
  rw [fraction, abs_div, abs_of_pos (mul_pos unit whole), cast_dist]

theorem toRat_nearest?_le {num den : Nat} (positive : 0 < den) (several : 1 < f.precision)
    {m : Magnitude f} (found : nearest? num den = some m) (n : Magnitude f) :
    |m.toRat - num / den| ≤ |n.toRat - num / den| ∧
      (|m.toRat - num / den| = |n.toRat - num / den| →
        n.toRat = m.toRat ∨ Even m.significand) := by
  have common : (0 : ℚ) < 2 ^ f.unit * den := mul_pos (by positivity) (Nat.cast_pos.mpr positive)
  rw [m.abs_toRat_sub num positive, n.abs_toRat_sub num positive,
    div_le_div_iff_of_pos_right common, div_left_inj' common.ne', Nat.cast_le, Nat.cast_inj]
  rcases dist_nearest?_le positive found several n with nearer | ⟨same, tie⟩
  · exact ⟨nearer.le, fun same => absurd same nearer.ne⟩
  · exact ⟨same.le, fun _ => tie.imp_left fun equal => by rw [toRat, toRat, equal]⟩

end Magnitude

namespace Binary

/-- The number is finite, and no finite number is nearer to the rational number. If a
different one is as near, the significand of this one is even. -/
inductive IsNearest : Binary f → ℚ → Prop
  | finite {negative : Bool} {m : Magnitude f} {q : ℚ}
    (closest : ∀ (other : Bool) (n : Magnitude f),
      |withSign negative m.toRat - q| ≤ |withSign other n.toRat - q| ∧
        (|withSign negative m.toRat - q| = |withSign other n.toRat - q| →
          withSign other n.toRat = withSign negative m.toRat ∨ Even m.significand)) :
    IsNearest (.finite negative m) q

theorem IsNearest.isFinite {x : Binary f} {q : ℚ} (nearest : x.IsNearest q) :
    x.isFinite = true := by
  cases nearest
  rfl

/-- A fraction that is not beyond the largest number by half a step is rounded to the
nearest number. -/
theorem ofRatio_isNearest (several : 1 < f.precision) (negative : Bool) {num den : Nat}
    (positive : 0 < den)
    (reached : 2 * (num * 2 ^ f.unit) < (2 * 2 ^ f.precision - 1) * (den * 2 ^ f.top)) :
    (ofRatio negative num den : Binary f).IsNearest (withSign negative (num / den)) := by
  obtain ⟨m, found⟩ := Option.isSome_iff_exists.mp
    ((Magnitude.isSome_nearest?_iff positive).mpr reached)
  rw [ofRatio, found]
  have near := Magnitude.toRat_nearest?_le positive several found
  have quotient : (0 : ℚ) ≤ num / den := by positivity
  refine .finite fun other n => ?_
  by_cases same : other = negative
  · subst same
    rw [abs_withSign_sub, abs_withSign_sub]
    exact (near n).imp_right fun tie equal => (tie equal).imp_left (congrArg (withSign other))
  · -- A number of the other sign is no nearer than zero, which has both signs.
    obtain ⟨least, tie⟩ := near .zero
    have zero : (Magnitude.zero : Magnitude f).toRat = 0 := by simp [Magnitude.toRat]
    have size := n.toRat_nonneg
    rw [zero, zero_sub, abs_neg, abs_of_nonneg quotient] at least tie
    rw [abs_withSign_sub, abs_withSign_sub_of_ne same size quotient]
    refine ⟨by linarith, fun equal => (tie (by linarith)).imp_left fun none => ?_⟩
    have empty : n.toRat = 0 := by linarith
    rw [empty, ← none, withSign_zero, withSign_zero]

/-- Integers of 64 bits are within reach of double precision. -/
theorem reached_of_le {n : Nat} (small : n ≤ 2 ^ 64) : 2 * (n * 2 ^ Format.double.unit) <
    (2 * 2 ^ Format.double.precision - 1) * (1 * 2 ^ Format.double.top) := by
  have reach : 2 * (2 ^ 64 * 2 ^ Format.double.unit) <
      (2 * 2 ^ Format.double.precision - 1) * (1 * 2 ^ Format.double.top) := by decide +kernel
  exact (Nat.mul_le_mul_left 2 (Nat.mul_le_mul_right _ small)).trans_lt reach

/-- Every integer of 64 bits, with or without a sign, has a nearest number of double precision. -/
theorem ofInt_isNearest {n : Int} (lower : -2 ^ 63 ≤ n) (upper : n < 2 ^ 64) :
    (ofInt n : Binary64).IsNearest n := by
  have bounded : n.natAbs ≤ 2 ^ 64 := by omega
  have nearest := ofRatio_isNearest (by decide) (decide (n < 0)) Nat.one_pos (reached_of_le bounded)
  rwa [Nat.cast_one, div_one, withSign_natAbs] at nearest

end Binary

end RecordCheck
