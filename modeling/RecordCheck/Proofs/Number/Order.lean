import Mathlib.Algebra.Order.Field.Power
import Mathlib.Data.Nat.Log
import Mathlib.Data.Rat.Lemmas
import RecordCheck.Number.Decimal
import RecordCheck.Proofs.Number.Nearest

/-!
# Rounding keeps the order

The nearest magnitude is a function of the rational number (`Magnitude.ofRat?`), whatever
fraction it is written as. Larger numbers are never rounded to smaller magnitudes
(`Magnitude.units_le_of_ofRat?`), so what lies between two numbers of one rounding is
rounded like them (`Magnitude.ofRat?_of_between`).

Reading a decimal is this function too (`Magnitude.ofDecimal?_eq_ofRat?`): the powers of ten
that are not computed are out of reach of the format.
-/

namespace RecordCheck

-- Powers of naturals are the core ones, whatever other instances are in scope.
attribute [local instance (high)] instPowNat

/-- Half a step above the largest magnitude. From there on rounding goes past it. -/
def Format.limit (f : Format) : ℚ := (2 * 2 ^ f.precision - 1) * 2 ^ f.top / (2 * 2 ^ f.unit)

theorem Format.limit_double : Format.double.limit = 2 ^ 1024 - 2 ^ 970 := by
  have large : (2 : ℚ) ^ 1024 = 2 ^ 53 * 2 * 2 ^ 970 := by rw [← pow_succ, ← pow_add]
  have top : (2 : ℚ) ^ 2045 = 2 ^ 970 * (2 ^ 1074 * 2) := by rw [← pow_succ, ← pow_add]
  simp only [Format.limit, Format.double]
  rw [top, large, mul_comm 2 (2 ^ 1074 : ℚ), ← mul_assoc,
    mul_div_cancel_right₀ _ (by positivity), mul_comm 2 (2 ^ 53 : ℚ), sub_mul, one_mul]

namespace Magnitude

variable {f : Format}

/-! ## Magnitudes in order -/

/-- A magnitude is known by its units. -/
theorem eq_of_units {m n : Magnitude f} (same : m.units = n.units) : m = n := by
  have exponent : m.exponent = n.exponent := by rw [← exponent_eq, same, exponent_eq]
  have significand : m.significand = n.significand := by
    rw [units, units, exponent] at same
    exact Nat.eq_of_mul_eq_mul_right (Nat.two_pow_pos _) same
  cases m
  cases n
  simp_all

theorem toRat_le_iff {m n : Magnitude f} : m.toRat ≤ n.toRat ↔ m.units ≤ n.units := by
  have unit : (0 : ℚ) < 2 ^ f.unit := by positivity
  rw [toRat, toRat, div_le_div_iff_of_pos_right unit, Nat.cast_le]

theorem toRat_inj {m n : Magnitude f} (same : m.toRat = n.toRat) : m = n :=
  eq_of_units (Nat.le_antisymm (toRat_le_iff.mp same.le) (toRat_le_iff.mp same.ge))

/-! ## Rounding as a function of the rational number -/

/-- The magnitude nearest to a rational number that is not negative. -/
def ofRat? (q : ℚ) : Option (Magnitude f) := nearest? q.num.toNat q.den

/-- The nearest magnitude is the same for all fractions of one value. -/
theorem nearest?_congr {num den num' den' : Nat} (positive : 0 < den) (positive' : 0 < den')
    (same : (num / den : ℚ) = num' / den') : nearest? (f := f) num den = nearest? num' den' := by
  have cross : num * den' = num' * den := by
    rw [div_eq_div_iff (Nat.cast_ne_zero.mpr positive.ne')
      (Nat.cast_ne_zero.mpr positive'.ne')] at same
    exact_mod_cast same
  rw [← nearest?_mul_mul num den positive', cross, Nat.mul_comm den,
    nearest?_mul_mul _ _ positive]

theorem eq_toNat_div_den {q : ℚ} (nonneg : 0 ≤ q) : q = (q.num.toNat : ℚ) / q.den := by
  have numerator : (q.num.toNat : ℤ) = q.num := Int.toNat_of_nonneg (Rat.num_nonneg.mpr nonneg)
  rw [← Int.cast_natCast, numerator, Rat.num_div_den]

theorem ofRat?_div (num : Nat) {den : Nat} (positive : 0 < den) :
    ofRat? (f := f) (num / den) = nearest? num den :=
  nearest?_congr (Rat.den_pos _) positive (eq_toNat_div_den (by positivity)).symm

/-- Two numbers that are not negative as fractions of one denominator. -/
theorem exists_common_den {q r : ℚ} (left : 0 ≤ q) (right : 0 ≤ r) :
    ∃ num num' den : Nat, 0 < den ∧ q = num / den ∧ r = num' / den := by
  have first : (q.den : ℚ) ≠ 0 := Nat.cast_ne_zero.mpr q.den_nz
  have second : (r.den : ℚ) ≠ 0 := Nat.cast_ne_zero.mpr r.den_nz
  refine ⟨q.num.toNat * r.den, r.num.toNat * q.den, q.den * r.den,
    Nat.mul_pos q.den_pos r.den_pos, ?_, ?_⟩
  · rw [Nat.cast_mul, Nat.cast_mul, mul_div_mul_right _ _ second]
    exact eq_toNat_div_den left
  · rw [Nat.cast_mul, Nat.cast_mul, mul_comm (q.den : ℚ), mul_div_mul_right _ _ first]
    exact eq_toNat_div_den right

/-- A magnitude is what it is rounded to. -/
theorem ofRat?_toRat (m : Magnitude f) : ofRat? m.toRat = some m := by
  have unit : m.toRat = (m.units : ℚ) / (2 ^ f.unit : ℕ) := by
    rw [toRat]
    push_cast
    rfl
  rw [unit, ofRat?_div _ (Nat.two_pow_pos _), nearest?_units]

/-- A multiple of a power of two with at most `precision` digits is a magnitude, unless it is
beyond the format. -/
theorem exists_units_eq {significand exponent : Nat} (small : significand < 2 ^ f.precision)
    (reach : significand * 2 ^ exponent < 2 ^ (f.precision + f.top)) :
    ∃ m : Magnitude f, m.units = significand * 2 ^ exponent := by
  have digits := f.precision_pos
  have below := f.lt_exponentFor Nat.one_pos (significand * 2 ^ exponent)
  have above := f.exponentFor_le Nat.one_pos (significand * 2 ^ exponent)
  have within {k : Nat} (fits : significand * 2 ^ exponent < 2 ^ (f.precision + k)) :
      f.exponentFor (significand * 2 ^ exponent) 1 ≤ k := by
    rw [Format.exponentFor, Nat.div_one]
    by_cases zero : significand * 2 ^ exponent = 0
    · rw [zero, Nat.log2_zero]
      omega
    · have bits := (Nat.log2_lt zero).mpr fits
      omega
  have top := within reach
  have least : f.exponentFor (significand * 2 ^ exponent) 1 ≤ exponent := by
    refine within ?_
    rw [Nat.pow_add]
    exact Nat.mul_lt_mul_of_pos_right small (Nat.two_pow_pos _)
  generalize f.exponentFor (significand * 2 ^ exponent) 1 = scale at *
  -- The binary digits are shifted until there are `precision` of them.
  have shifted : significand * 2 ^ exponent = significand * 2 ^ (exponent - scale) * 2 ^ scale := by
    rw [Nat.mul_assoc, ← Nat.pow_add, Nat.sub_add_cancel least]
  rw [shifted, Nat.one_mul] at below above
  refine ⟨⟨significand * 2 ^ (exponent - scale), scale, Nat.lt_of_mul_lt_mul_right below, top,
    above.imp_right fun full => Nat.le_of_mul_le_mul_right full (Nat.two_pow_pos _)⟩, ?_⟩
  rw [units, shifted]

section Order

variable {q r : ℚ} (nonneg : 0 ≤ q) (le : q ≤ r)
include nonneg le

/-- What is below a number within reach is within reach. -/
theorem isSome_ofRat?_of_le (reached : (ofRat? (f := f) r).isSome) :
    (ofRat? (f := f) q).isSome := by
  obtain ⟨num, num', den, positive, rfl, rfl⟩ := exists_common_den nonneg (nonneg.trans le)
  rw [ofRat?_div _ positive, isSome_nearest?_iff positive] at reached ⊢
  have numerators : num ≤ num' := by
    rwa [div_le_div_iff_of_pos_right (Nat.cast_pos.mpr positive), Nat.cast_le] at le
  have scaled := Nat.mul_le_mul_right (2 ^ f.unit) numerators
  omega

/-- A larger number is not rounded to a smaller magnitude. -/
theorem units_le_of_ofRat? (several : 1 < f.precision) {m n : Magnitude f}
    (found : ofRat? q = some m) (found' : ofRat? r = some n) : m.units ≤ n.units := by
  obtain ⟨num, num', den, positive, rfl, rfl⟩ := exists_common_den nonneg (nonneg.trans le)
  rw [ofRat?_div _ positive] at found found'
  have numerators : num ≤ num' := by
    rwa [div_le_div_iff_of_pos_right (Nat.cast_pos.mpr positive), Nat.cast_le] at le
  by_contra less
  -- Each number is at least as near to its own magnitude, so both are halfway between the two.
  have near := dist_nearest?_le positive found several n
  have near' := dist_nearest?_le positive found' several m
  have scaled := Nat.mul_le_mul_right (2 ^ f.unit) numerators
  have apart := Nat.mul_lt_mul_of_pos_right (Nat.lt_of_not_le less) positive
  have halfway : num * 2 ^ f.unit = num' * 2 ^ f.unit := by
    unfold Nat.dist at near near'
    omega
  rw [Nat.eq_of_mul_eq_mul_right (Nat.two_pow_pos _) halfway, found'] at found
  exact less (Option.some.inj found ▸ Nat.le_refl _)

/-- What lies between two numbers of one rounding is rounded like them. -/
theorem ofRat?_of_between (several : 1 < f.precision) {s : ℚ} (le' : r ≤ s) {m : Magnitude f}
    (low : ofRat? q = some m) (high : ofRat? s = some m) : ofRat? r = some m := by
  have reached := isSome_ofRat?_of_le (nonneg.trans le) le' (by rw [high]; rfl : (ofRat? s).isSome)
  obtain ⟨n, found⟩ := Option.isSome_iff_exists.mp reached
  rw [found, eq_of_units (Nat.le_antisymm
    (units_le_of_ofRat? (nonneg.trans le) le' several found high)
    (units_le_of_ofRat? nonneg le several low found))]

end Order

/-! ## How far rounding goes -/

/-- What is below half a unit is rounded to zero. -/
theorem nearest?_of_small {num den : Nat} (small : 2 * (num * 2 ^ f.unit) < den) :
    nearest? (f := f) num den = some zero := by
  have least : f.exponentFor (num * 2 ^ f.unit) den = 0 := by
    have digits := f.precision_pos
    rw [Format.exponentFor, Nat.div_eq_of_lt (by omega), Nat.log2_zero]
    omega
  have none : f.significandFor (num * 2 ^ f.unit) den = 0 := by
    rw [Format.significandFor, least, Nat.pow_zero, Nat.mul_one, roundHalfEven,
      Nat.mod_eq_of_lt (by omega), Nat.div_eq_of_lt (by omega), if_pos small]
  rw [nearest?_eq, none, least, if_pos (Nat.two_pow_pos _)]
  exact ofParts?_parts zero

/-- A number is at most twice what it is rounded to, unless this is zero. -/
theorem le_two_mul_toRat {q : ℚ} (nonneg : 0 ≤ q) {m : Magnitude f} (found : ofRat? q = some m)
    (nonzero : m.units ≠ 0) : q ≤ 2 * m.toRat := by
  have positive := q.den_pos
  have bound : q.num.toNat * 2 ^ f.unit ≤ 2 * (m.units * q.den) := by
    have units := units_of_nearest? positive found
    have near := dist_roundHalfEven (q.num.toNat * 2 ^ f.unit)
      (Format.step_pos positive (f.exponentFor (q.num.toNat * 2 ^ f.unit) q.den))
    unfold Format.significandFor at units
    generalize f.exponentFor (q.num.toNat * 2 ^ f.unit) q.den = exponent at *
    generalize roundHalfEven (q.num.toNat * 2 ^ f.unit) (q.den * 2 ^ exponent) = rounded at *
    have multiple : m.units * q.den = rounded * (q.den * 2 ^ exponent) := by
      rw [units]
      ring
    have one : 1 * (q.den * 2 ^ exponent) ≤ rounded * (q.den * 2 ^ exponent) := by
      refine Nat.mul_le_mul_right _ (Nat.one_le_iff_ne_zero.mpr fun empty => nonzero ?_)
      rw [units, empty, Nat.zero_mul]
    rw [multiple]
    unfold Nat.dist at near
    omega
  have unit : (0 : ℚ) < 2 ^ f.unit := by positivity
  have whole : (0 : ℚ) < q.den := Nat.cast_pos.mpr positive
  have cast : (q.num.toNat : ℚ) * 2 ^ f.unit ≤ 2 * (m.units * q.den) := by exact_mod_cast bound
  rw [eq_toNat_div_den nonneg, toRat, ← mul_div_assoc, div_le_div_iff₀ whole unit]
  linarith

/-! ## Reading decimals -/

/-- Integers beyond the limit of the format are not rounded to a magnitude. -/
theorem nearest?_eq_none_of_large {n : Nat} (large : 2 ^ (f.precision + f.top) ≤ n) :
    nearest? (f := f) n 1 = none := by
  rw [← Option.not_isSome_iff_eq_none, isSome_nearest?_iff Nat.one_pos, Nat.not_lt, Nat.one_mul]
  calc (2 * 2 ^ f.precision - 1) * 2 ^ f.top
      ≤ 2 * 2 ^ f.precision * 2 ^ f.top := Nat.mul_le_mul_right _ (Nat.sub_le _ _)
    _ = 2 * 2 ^ (f.precision + f.top) := by rw [Nat.pow_add, Nat.mul_assoc]
    _ ≤ 2 * n := Nat.mul_le_mul_left 2 large
    _ ≤ 2 * (n * 2 ^ f.unit) :=
        Nat.mul_le_mul_left 2 (Nat.le_mul_of_pos_right _ (Nat.two_pow_pos _))

/-- Reading a decimal is rounding its value. -/
theorem ofDecimal?_eq_ofRat? (coefficient : Nat) (exponent : Int) :
    ofDecimal? (f := f) coefficient exponent = ofRat? (coefficient * 10 ^ exponent) := by
  have powers (k : Nat) : 2 ^ (3 * k) ≤ 10 ^ k := by
    rw [Nat.pow_mul]
    exact Nat.pow_le_pow_left (by decide) k
  rcases exponent with k | k
  · have value : (coefficient * 10 ^ Int.ofNat k : ℚ) =
        (coefficient * 10 ^ k : ℕ) / (1 : ℕ) := by
      rw [Int.ofNat_eq_natCast, zpow_natCast, Nat.cast_one, div_one]
      push_cast
      rfl
    rw [value, ofRat?_div _ Nat.one_pos, ofDecimal?]
    split_ifs with zero far
    · rw [zero, Nat.zero_mul]
      exact (nearest?_of_small (by simp)).symm
    · symm
      apply nearest?_eq_none_of_large
      calc 2 ^ (f.precision + f.top)
          ≤ 2 ^ (3 * k) := Nat.pow_le_pow_right (by decide) far
        _ ≤ 10 ^ k := powers k
        _ ≤ coefficient * 10 ^ k := Nat.le_mul_of_pos_left _ (Nat.pos_of_ne_zero zero)
    · rfl
  · have value : (coefficient * 10 ^ Int.negSucc k : ℚ) = coefficient / (10 ^ (k + 1) : ℕ) := by
      rw [zpow_negSucc, div_eq_mul_inv]
      push_cast
      rfl
    rw [value, ofRat?_div _ (Nat.pow_pos (by decide)), ofDecimal?]
    split_ifs with near
    · refine (nearest?_of_small ?_).symm
      calc 2 * (coefficient * 2 ^ f.unit)
          < 2 * (2 ^ (coefficient.log2 + 1) * 2 ^ f.unit) := by
            have digits : coefficient < 2 ^ (coefficient.log2 + 1) := Nat.lt_log2_self
            have unit := Nat.two_pow_pos f.unit
            have scaled := Nat.mul_lt_mul_of_pos_right digits unit
            omega
        _ = 2 ^ (coefficient.log2 + f.unit + 2) := by ring
        _ ≤ 2 ^ (3 * (k + 1)) := Nat.pow_le_pow_right (by decide) near
        _ ≤ 10 ^ (k + 1) := powers (k + 1)
    · rfl

theorem readsBack_iff {m : Magnitude f} {coefficient : Nat} {exponent : Int} :
    m.readsBack coefficient exponent = true ↔ ofRat? (coefficient * 10 ^ exponent) = some m := by
  rw [readsBack, beq_iff_eq, ofDecimal?_eq_ofRat?]

/-! ## The limit of rounding -/

theorem isSome_ofRat?_iff {q : ℚ} (nonneg : 0 ≤ q) :
    (ofRat? (f := f) q).isSome ↔ q < f.limit := by
  have unit : (0 : ℚ) < 2 * 2 ^ f.unit := by positivity
  have whole : (0 : ℚ) < q.den := Nat.cast_pos.mpr q.den_pos
  have odd : ((2 * 2 ^ f.precision - 1 : ℕ) : ℚ) = 2 * 2 ^ f.precision - 1 := by
    rw [Nat.cast_sub (Nat.mul_pos Nat.two_pos (Nat.two_pow_pos _))]
    push_cast
    rfl
  rw [ofRat?, isSome_nearest?_iff q.den_pos, ← Nat.cast_lt (α := ℚ), Format.limit,
    lt_div_iff₀ unit]
  conv_rhs => rw [eq_toNat_div_den nonneg, div_mul_eq_mul_div, div_lt_iff₀ whole]
  push_cast
  rw [odd]
  constructor <;> intro less <;> linarith

/-! ## There is one nearest number -/

/-- Between two magnitudes with even significands there is another. -/
theorem exists_between {m n : Magnitude f} (less : m.units < n.units) (even : Even m.significand) (even' : Even n.significand) :
    ∃ k : Magnitude f, m.units < k.units ∧ k.units < n.units := by
  have digits := f.two_pow_precision
  have small : m.significand + 1 < 2 ^ f.precision := by
    have below := m.significand_lt
    have parity := Nat.even_iff.mp even
    omega
  let next : Magnitude f :=
    ⟨m.significand + 1, m.exponent, small, m.exponent_le, m.normal.imp_right Nat.le_succ_of_le⟩
  have step : next.units = m.units + 2 ^ m.exponent := Nat.succ_mul _ _
  have positive := Nat.two_pow_pos m.exponent
  refine ⟨next, by omega, Nat.lt_of_not_le fun reached => ?_⟩
  -- The other magnitude is a multiple of the same power of two, so it is the next one itself.
  have exponents : m.exponent ≤ n.exponent := by
    have monotone : m.units.log2 ≤ n.units.log2 := by
      rw [Nat.log2_eq_log_two, Nat.log2_eq_log_two]
      exact Nat.log_mono_right less.le
    rw [← m.exponent_eq, ← n.exponent_eq]
    omega
  have multiple : n.units = n.significand * 2 ^ (n.exponent - m.exponent) * 2 ^ m.exponent := by
    rw [Nat.mul_assoc, ← Nat.pow_add, Nat.sub_add_cancel exponents, units]
  have after : m.significand < n.significand * 2 ^ (n.exponent - m.exponent) := by
    rw [multiple, units] at less
    exact Nat.lt_of_mul_lt_mul_right less
  have same : n = next := by
    refine eq_of_units (Nat.le_antisymm reached ?_)
    rw [multiple]
    exact Nat.mul_le_mul_right _ after
  rw [same] at even'
  exact Nat.not_even_iff_odd.mpr even.add_one even'

theorem exists_toRat_between {m n : Magnitude f} (less : m.toRat < n.toRat)
    (even : Even m.significand) (even' : Even n.significand) :
    ∃ k : Magnitude f, m.toRat < k.toRat ∧ k.toRat < n.toRat := by
  simp only [← not_le, toRat_le_iff] at less ⊢
  simp only [not_le] at less ⊢
  exact exists_between less even even'

/-- What lies between two numbers at one distance is nearer than they are. -/
theorem abs_sub_lt_of_between {low high middle q : ℚ} (same : |low - q| = |high - q|)
    (above : low < middle) (below : middle < high) : |middle - q| < |low - q| := by
  have halfway : low - q = -(high - q) :=
    (abs_eq_abs.mp same).resolve_left fun equal => by linarith
  have left : low - q < 0 := by linarith
  rw [abs_of_neg left, abs_lt]
  constructor <;> linarith

/-- A number that is as near as can be, with an even significand if another is as near, is the
one that rounding gives. -/
theorem ofRat?_eq_some_iff {q : ℚ} (several : 1 < f.precision) (nonneg : 0 ≤ q)
    {m : Magnitude f} : ofRat? q = some m ↔
      (ofRat? (f := f) q).isSome ∧ (Binary.finite false m).IsNearest q := by
  have rounded {n : Magnitude f} (found : ofRat? q = some n) :
      (Binary.finite false n).IsNearest q := by
    have reached := (isSome_nearest?_iff q.den_pos).mp (by rw [found]; rfl : (ofRat? q).isSome)
    have nearest := Binary.ofRatio_isNearest several false q.den_pos reached
    rw [Binary.ofRatio, show nearest? q.num.toNat q.den = some n from found] at nearest
    rwa [withSign, ← eq_toNat_div_den nonneg] at nearest
  refine ⟨fun found => ⟨by rw [found]; rfl, rounded found⟩, fun nearest => ?_⟩
  obtain ⟨reached, near⟩ := nearest
  obtain ⟨n, found⟩ := Option.isSome_iff_exists.mp reached
  rw [found, Option.some_inj]
  obtain ⟨close⟩ := near
  obtain ⟨close'⟩ := rounded found
  obtain ⟨least, tie⟩ := close false n
  obtain ⟨least', tie'⟩ := close' false m
  simp only [withSign] at *
  have equal := le_antisymm least least'
  by_contra differ
  have apart : n.toRat ≠ m.toRat := fun same => differ (toRat_inj same)
  have even := (tie equal).resolve_left apart
  have even' := (tie' equal.symm).resolve_left apart.symm
  rcases apart.lt_or_gt with less | less
  · obtain ⟨k, above, below⟩ := exists_toRat_between less even' even
    exact absurd (close' false k).1 (not_le.mpr (abs_sub_lt_of_between equal.symm above below))
  · obtain ⟨k, above, below⟩ := exists_toRat_between less even even'
    exact absurd (close false k).1 (not_le.mpr (abs_sub_lt_of_between equal above below))

end Magnitude

/-! ## Rounding with a sign -/

theorem withSign_not (negative : Bool) (q : ℚ) : withSign (!negative) q = -withSign negative q := by
  cases negative with
  | false => rfl
  | true => exact (neg_neg q).symm

theorem abs_withSign {q : ℚ} (nonneg : 0 ≤ q) (negative : Bool) : |withSign negative q| = q := by
  cases negative with
  | false => exact abs_of_nonneg nonneg
  | true => rw [withSign, abs_neg, abs_of_nonneg nonneg]

namespace Binary

variable {f : Format} {negative : Bool} {m : Magnitude f} {q : ℚ}

/-- What is nearest to a number is, with the other sign, nearest to its opposite. -/
theorem IsNearest.neg (nearest : (Binary.finite negative m).IsNearest q) :
    (Binary.finite (!negative) m).IsNearest (-q) := by
  obtain ⟨closest⟩ := nearest
  refine .finite fun other n => ?_
  have own : |withSign (!negative) m.toRat - -q| = |withSign negative m.toRat - q| := by
    rw [withSign_not, neg_sub_neg, abs_sub_comm]
  have turned : |withSign other n.toRat - -q| = |withSign (!other) n.toRat - q| := by
    rw [withSign_not, ← abs_neg, neg_sub', neg_neg]
  obtain ⟨least, tie⟩ := closest (!other) n
  rw [own, turned]
  refine ⟨least, fun equal => (tie equal).imp_left fun same => ?_⟩
  rw [withSign_not] at same
  rw [withSign_not, ← same, neg_neg]

/-- A number that is nearest to one not below zero is not below zero itself. -/
theorem IsNearest.of_nonneg (nonneg : 0 ≤ q) (nearest : (Binary.finite negative m).IsNearest q) :
    (Binary.finite false m).IsNearest q := by
  cases negative with
  | false => exact nearest
  | true =>
    obtain ⟨closest⟩ := nearest
    have zero : (Magnitude.zero : Magnitude f).toRat = 0 := by simp [Magnitude.toRat]
    have apart : |withSign true m.toRat - q| = m.toRat + q :=
      @abs_withSign_sub_of_ne false true (by decide) _ _ m.toRat_nonneg nonneg
    have least := (closest false .zero).1
    rw [apart, zero, withSign_zero, zero_sub, abs_neg, abs_of_nonneg nonneg] at least
    have empty : m.toRat = 0 := le_antisymm (by linarith) m.toRat_nonneg
    refine .finite fun other n => ?_
    have near := closest other n
    rwa [empty, withSign_zero, ← withSign_zero false] at near ⊢

/-- Rounding to double precision gives the number: the rational number is less than half a step
beyond the largest one, and no number is nearer. Zero gives the zeros of both signs. -/
structure IsRounding (x : Binary64) (q : ℚ) : Prop where
  reached : |q| < 2 ^ 1024 - 2 ^ 970
  nearest : x.IsNearest q

theorem IsRounding.ofRat?_abs {m : Magnitude .double}
    (rounding : (finite negative m).IsRounding q) : Magnitude.ofRat? |q| = some m := by
  obtain ⟨reached, nearest⟩ := rounding
  rw [Magnitude.ofRat?_eq_some_iff (by decide) (abs_nonneg q),
    Magnitude.isSome_ofRat?_iff (abs_nonneg q), Format.limit_double]
  refine ⟨reached, ?_⟩
  rcases le_total 0 q with above | below
  · rw [abs_of_nonneg above]
    exact nearest.of_nonneg above
  · rw [abs_of_nonpos below]
    exact nearest.neg.of_nonneg (neg_nonneg.mpr below)

theorem isRounding_of_ofRat? {m : Magnitude .double} (nonneg : 0 ≤ q)
    (found : Magnitude.ofRat? q = some m) (negative : Bool) :
    (finite negative m).IsRounding (withSign negative q) := by
  obtain ⟨reached, nearest⟩ := (Magnitude.ofRat?_eq_some_iff (by decide) nonneg).mp found
  rw [Magnitude.isSome_ofRat?_iff nonneg, Format.limit_double] at reached
  refine ⟨by rwa [abs_withSign nonneg], ?_⟩
  cases negative with
  | false => exact nearest
  | true => exact nearest.neg

/-- A number with the sign of a rational number rounds it exactly if the magnitudes do. -/
theorem isRounding_withSign_iff {m : Magnitude .double} (nonneg : 0 ≤ q) :
    (finite negative m).IsRounding (withSign negative q) ↔ Magnitude.ofRat? q = some m := by
  refine ⟨fun rounding => ?_, fun found => isRounding_of_ofRat? nonneg found negative⟩
  rw [← abs_withSign nonneg negative]
  exact rounding.ofRat?_abs

end Binary

end RecordCheck
