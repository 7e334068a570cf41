import Mathlib.Algebra.Order.Floor.Semifield
import Mathlib.Data.Rat.Floor
import RecordCheck.Proofs.Number.Order

/-!
# The shortest decimal

The decimal of `Magnitude.shortest` is what it is named for (`Magnitude.isShortest_shortest`):
it reads back, no decimal of fewer digits does, and none on its grid that does is nearer. No
decimal on a coarser grid reads back at all (`Magnitude.le_exponent_shortest`).

Only the neighbours of the magnitude have to be tried on a grid because a decimal beyond them
reads back only if the nearer neighbour does. The search starts high enough because a decimal
that reads back is at most twice the magnitude, which bounds the power of ten by the binary
digits.
-/

namespace RecordCheck

-- Powers of naturals are the core ones, whatever other instances are in scope.
attribute [local instance (high)] instPowNat

/-! ## Counting digits -/

/-- The number of decimal digits; zero has one. -/
def digitCount (n : Nat) : Nat := (Nat.toDigits 10 n).length

theorem digitCount_pos (n : Nat) : 0 < digitCount n := Nat.length_toDigits_pos

theorem digitCount_le_iff {n k : Nat} (positive : 0 < k) : digitCount n ≤ k ↔ n < 10 ^ k :=
  Nat.length_toDigits_le_iff (by decide) positive

theorem lt_ten_pow_digitCount (n : Nat) : n < 10 ^ digitCount n :=
  (digitCount_le_iff (digitCount_pos n)).mp (Nat.le_refl _)

theorem ten_pow_le_of_lt_digitCount {n k : Nat} (nonzero : n ≠ 0) (less : k < digitCount n) :
    10 ^ k ≤ n := by
  rcases Nat.eq_zero_or_pos k with rfl | positive
  · exact Nat.one_le_iff_ne_zero.mpr nonzero
  · exact Nat.le_of_not_lt fun below => Nat.not_le_of_lt less ((digitCount_le_iff positive).mpr below)

theorem lt_digitCount_of_ten_pow_le {n k : Nat} (le : 10 ^ k ≤ n) : k < digitCount n := by
  rcases Nat.eq_zero_or_pos k with rfl | positive
  · exact digitCount_pos n
  · exact Nat.lt_of_not_le fun short => Nat.not_le_of_lt ((digitCount_le_iff positive).mp short) le

namespace Magnitude

variable {f : Format} {m : Magnitude f} {exponent : Int}

/-! ## Neighbours on a grid -/

/-- How many steps of the grid of `10 ^ exponent` reach up to the magnitude. -/
def stepsBelow (m : Magnitude f) (exponent : Int) : Nat :=
  m.units * 10 ^ (-exponent).toNat / (2 ^ f.unit * 10 ^ exponent.toNat)

/-- The magnitude in steps of the grid, as the search writes it. -/
theorem toRat_div_grid (m : Magnitude f) (exponent : Int) : m.toRat / 10 ^ exponent =
    (m.units * 10 ^ (-exponent).toNat : ℕ) / (2 ^ f.unit * 10 ^ exponent.toNat : ℕ) := by
  rcases exponent with k | k
  · rw [Int.ofNat_eq_natCast, zpow_natCast, Int.toNat_neg_natCast, Int.toNat_natCast, toRat,
      div_div]
    push_cast
    rw [mul_one]
  · rw [Int.toNat_negSucc, Int.neg_negSucc, Int.toNat_natCast, zpow_negSucc, toRat, div_inv_eq_mul,
      div_mul_eq_mul_div]
    push_cast
    rw [mul_one]

theorem stepsBelow_eq_floor (m : Magnitude f) (exponent : Int) :
    m.stepsBelow exponent = ⌊m.toRat / 10 ^ exponent⌋₊ := by
  rw [toRat_div_grid, Nat.floor_div_eq_div, stepsBelow]

theorem stepsBelow_mul_le (m : Magnitude f) (exponent : Int) :
    m.stepsBelow exponent * 10 ^ exponent ≤ m.toRat := by
  have grid : (0 : ℚ) < 10 ^ exponent := by positivity
  rw [← le_div_iff₀ grid, stepsBelow_eq_floor]
  exact Nat.floor_le (div_nonneg m.toRat_nonneg grid.le)

theorem lt_stepsBelow_add_one_mul (m : Magnitude f) (exponent : Int) :
    m.toRat < (m.stepsBelow exponent + 1 : ℕ) * 10 ^ exponent := by
  have grid : (0 : ℚ) < 10 ^ exponent := by positivity
  rw [← div_lt_iff₀ grid, stepsBelow_eq_floor, Nat.cast_succ]
  exact Nat.lt_floor_add_one _

/-- The remainder of the steps tells which neighbour is nearer. -/
theorem two_mul_mod_lt_iff (m : Magnitude f) (exponent : Int) :
    2 * (m.units * 10 ^ (-exponent).toNat % (2 ^ f.unit * 10 ^ exponent.toNat)) <
        2 ^ f.unit * 10 ^ exponent.toNat ↔
      m.toRat - m.stepsBelow exponent * 10 ^ exponent <
        (m.stepsBelow exponent + 1 : ℕ) * 10 ^ exponent - m.toRat := by
  have grid : (0 : ℚ) < 10 ^ exponent := by positivity
  have steps := m.toRat_div_grid exponent
  unfold stepsBelow
  have positive : 0 < 2 ^ f.unit * 10 ^ exponent.toNat := by positivity
  generalize m.units * 10 ^ (-exponent).toNat = num at *
  generalize 2 ^ f.unit * 10 ^ exponent.toNat = den at *
  have whole : (0 : ℚ) < den := Nat.cast_pos.mpr positive
  have parts : (num : ℚ) = (num / den : ℕ) * den + (num % den : ℕ) := by
    exact_mod_cast (Nat.div_add_mod' num den).symm
  have size : m.toRat = ((num / den : ℕ) + (num % den : ℕ) / den) * 10 ^ exponent := by
    rw [div_eq_iff grid.ne'] at steps
    rw [steps, parts, add_div, mul_div_cancel_right₀ _ whole.ne']
  generalize num / den = low at *
  generalize num % den = rest at *
  have left : m.toRat - low * 10 ^ exponent = rest / den * 10 ^ exponent := by
    rw [size]
    ring
  have right : (low + 1 : ℕ) * 10 ^ exponent - m.toRat = (1 - rest / den) * 10 ^ exponent := by
    rw [size]
    push_cast
    ring
  rw [left, right, mul_lt_mul_iff_left₀ grid, lt_sub_iff_add_lt, ← two_mul, ← mul_div_assoc,
    div_lt_one whole]
  exact_mod_cast Iff.rfl

section Neighbours

variable (several : 1 < f.precision) {coefficient : Nat}
  (reads : m.readsBack coefficient exponent = true)
include several reads

/-- A decimal of a grid reads back only if the neighbour on its side does. -/
theorem readsBack_stepsBelow (below : coefficient ≤ m.stepsBelow exponent) :
    m.readsBack (m.stepsBelow exponent) exponent = true := by
  rw [readsBack_iff] at reads ⊢
  have step : (coefficient : ℚ) * 10 ^ exponent ≤ m.stepsBelow exponent * 10 ^ exponent :=
    mul_le_mul_of_nonneg_right (Nat.cast_le.mpr below) (by positivity)
  exact ofRat?_of_between (by positivity) step several (m.stepsBelow_mul_le exponent) reads
    m.ofRat?_toRat

theorem readsBack_stepsBelow_add_one (above : m.stepsBelow exponent < coefficient) :
    m.readsBack (m.stepsBelow exponent + 1) exponent = true := by
  rw [readsBack_iff] at reads ⊢
  have step : ((m.stepsBelow exponent + 1 : ℕ) : ℚ) * 10 ^ exponent ≤
      coefficient * 10 ^ exponent :=
    mul_le_mul_of_nonneg_right (Nat.cast_le.mpr above) (by positivity)
  exact ofRat?_of_between m.toRat_nonneg (m.lt_stepsBelow_add_one_mul exponent).le several step
    m.ofRat?_toRat reads

/-- If any decimal of a grid reads back, then something is found there. -/
theorem isSome_onGrid? : (m.onGrid? exponent).isSome := by
  unfold onGrid?
  dsimp only
  rw [← stepsBelow]
  split
  · split <;> rfl
  · rfl
  · rfl
  · rename_i low high
    rcases Nat.lt_or_ge (m.stepsBelow exponent) coefficient with above | below
    · rw [readsBack_stepsBelow_add_one several reads above] at high
      cases high
    · rw [readsBack_stepsBelow several reads below] at low
      cases low

end Neighbours

/-! ## The search -/

/-- The search does not pass a grid on which something is found. -/
theorem le_exponent_shortestFrom {k n : Nat} (le : k ≤ n)
    (found : k = 0 ∨ (m.onGrid? (k - f.unit)).isSome) :
    k - f.unit ≤ (m.shortestFrom n).exponent := by
  induction n with
  | zero =>
    rw [Nat.le_zero.mp le]
    simp [shortestFrom]
  | succ n ih =>
    unfold shortestFrom
    split
    · dsimp only
      omega
    · rename_i missed
      refine ih (Nat.le_of_lt_succ (Nat.lt_of_le_of_ne le ?_))
      rintro rfl
      rcases found with zero | there
      · cases zero
      · rw [Nat.cast_succ, missed] at there
        cases there

/-! ## Where the search starts -/

theorem two_pow_le_ten_pow : 2 ^ 100000 ≤ 10 ^ 30103 := by decide +kernel

theorem zpow_le_zpow_of_pow_le {x y : ℚ} (positive : 0 < x) {a b : Nat} (le : x ^ a ≤ y ^ b)
    (n : Nat) : x ^ (a * n : ℤ) ≤ y ^ (b * n : ℤ) := by
  rw [zpow_mul, zpow_mul, zpow_natCast, zpow_natCast, zpow_natCast, zpow_natCast]
  exact pow_le_pow_left₀ (by positivity) le n

/-- A hundred thousand times a binary exponent as an exponent of ten. Thousands are below the
tenth powers of two by so little that this covers the small numbers of both precisions. -/
theorem exists_two_zpow_le {digits : Int} (low : -1900 ≤ digits) :
    ∃ power : Int, (2 : ℚ) ^ (100000 * digits) ≤ 10 ^ power ∧
      power ≤ 30103 * digits + 200000 := by
  rcases Int.le_total 0 digits with large | small
  · obtain ⟨n, rfl⟩ := Int.eq_ofNat_of_zero_le large
    have bound : (2 : ℚ) ^ 100000 ≤ 10 ^ 30103 := by exact_mod_cast two_pow_le_ten_pow
    exact ⟨_, zpow_le_zpow_of_pow_le two_pos bound n, by omega⟩
  · obtain ⟨n, negative⟩ := Int.eq_ofNat_of_zero_le (Int.neg_nonneg_of_nonpos small)
    have bound : (10 : ℚ) ^ 3 ≤ 2 ^ 10 := by norm_num
    have inverse := zpow_le_zpow_of_pow_le (by norm_num) bound (10000 * n)
    refine ⟨30000 * digits, ?_, by omega⟩
    rw [show 100000 * digits = -((10 : ℕ) * (10000 * n : ℕ) : ℤ) by push_cast; omega,
      show 30000 * digits = -((3 : ℕ) * (10000 * n : ℕ) : ℤ) by push_cast; omega,
      zpow_neg, zpow_neg]
    exact inv_anti₀ (by positivity) inverse

/-- A power of ten below a power of two has an exponent below about three tenths of its exponent. -/
theorem le_of_ten_zpow_lt {power digits : Int} (low : -1900 ≤ digits)
    (less : (10 : ℚ) ^ power < 2 ^ (digits + 1)) : power ≤ digits * 30103 / 100000 + 3 := by
  by_contra above
  have raised := pow_lt_pow_left₀ less (by positivity) (n := 100000) (by decide)
  rw [← zpow_natCast, ← zpow_natCast, ← zpow_mul, ← zpow_mul] at raised
  obtain ⟨bound, le, small⟩ := exists_two_zpow_le low
  refine absurd raised (not_lt.mpr ?_)
  calc (2 : ℚ) ^ ((digits + 1) * (100000 : ℕ))
      = 2 ^ (100000 * digits) * 2 ^ (100000 : ℤ) := by
        rw [← zpow_add₀ two_ne_zero]
        congr 1
        push_cast
        ring
    _ ≤ 10 ^ bound * 10 ^ (100000 : ℤ) :=
        mul_le_mul le (zpow_le_zpow_left₀ (by decide) (by norm_num) (by norm_num))
          (by positivity) (by positivity)
    _ = 10 ^ (bound + 100000) := (zpow_add₀ (by norm_num) _ _).symm
    _ ≤ 10 ^ (power * (100000 : ℕ)) := zpow_le_zpow_right₀ (by norm_num) (by omega)

/-- Zero does not read back as anything else. -/
theorem coefficient_ne_zero (nonzero : m.units ≠ 0) {coefficient : Nat}
    (reads : m.readsBack coefficient exponent = true) : coefficient ≠ 0 := by
  rintro rfl
  rw [readsBack_iff, Nat.cast_zero, zero_mul, ← Nat.cast_zero, ← div_one ((0 : ℕ) : ℚ),
    ← Nat.cast_one, ofRat?_div _ Nat.one_pos, nearest?_of_small (by simp)] at reads
  exact nonzero (by rw [← Option.some.inj reads, units_zero])

theorem toRat_lt_two_zpow (m : Magnitude f) :
    m.toRat < 2 ^ ((m.units.log2 : Int) + 1 - f.unit) := by
  have unit : (0 : ℚ) < 2 ^ f.unit := by positivity
  have digits : (m.units : ℚ) < 2 ^ (m.units.log2 + 1) := by
    exact_mod_cast (Nat.lt_log2_self : m.units < 2 ^ (m.units.log2 + 1))
  rw [zpow_sub₀ two_ne_zero, toRat, zpow_natCast, ← Nat.cast_succ, zpow_natCast]
  exact div_lt_div_of_pos_right digits unit

/-- The search starts on a grid as coarse as any that has a decimal that reads back. -/
theorem le_coarsest (fine : f.unit ≤ 1900) (nonzero : m.units ≠ 0) {coefficient : Nat}
    (reads : m.readsBack coefficient exponent = true) : exponent + f.unit ≤ m.coarsest := by
  have grid : (0 : ℚ) < 10 ^ exponent := by positivity
  have one : (1 : ℚ) ≤ coefficient :=
    Nat.one_le_cast.mpr (Nat.pos_of_ne_zero (coefficient_ne_zero nonzero reads))
  have twice := le_two_mul_toRat (by positivity) (readsBack_iff.mp reads) nonzero
  have size := m.toRat_lt_two_zpow
  have less : (10 : ℚ) ^ exponent < 2 ^ ((m.units.log2 : Int) + 1 - f.unit + 1) := by
    rw [zpow_add_one₀ two_ne_zero]
    have least := le_mul_of_one_le_left grid.le one
    linarith
  have bound := le_of_ten_zpow_lt (by omega) less
  unfold coarsest
  omega

/-! ## The coarsest grid -/

/-- No decimal that reads back stands on a coarser grid than the shortest one. -/
theorem le_exponent_shortest (several : 1 < f.precision) (fine : f.unit ≤ 1900)
    (nonzero : m.units ≠ 0) {coefficient : Nat}
    (reads : m.readsBack coefficient exponent = true) : exponent ≤ m.shortest.exponent := by
  have start := le_coarsest fine nonzero reads
  have search : m.shortest = m.shortestFrom m.coarsest :=
    if_neg fun zero => nonzero ((isZero_iff m).mp zero)
  rw [search]
  rcases Int.lt_or_le exponent (-f.unit) with finer | grid
  · have finest := m.le_exponent_shortestFrom (Nat.zero_le m.coarsest) (.inl rfl)
    omega
  · obtain ⟨k, steps⟩ := Int.eq_ofNat_of_zero_le (by omega : 0 ≤ exponent + f.unit)
    have there : (m.onGrid? (k - f.unit)).isSome := by
      rw [← steps, Int.add_sub_cancel]
      exact isSome_onGrid? several reads
    have reached := m.le_exponent_shortestFrom (by omega : k ≤ m.coarsest) (.inr there)
    omega

/-! ## The shortest decimal -/

/-- The decimal reads back as the magnitude, no decimal of fewer digits does, and of those on
its grid that do none is nearer to the magnitude. -/
structure IsShortest (m : Magnitude f) (d : Decimal) : Prop where
  reads : m.readsBack d.coefficient d.exponent = true
  fewest : ∀ other : Decimal, m.readsBack other.coefficient other.exponent = true →
    d.digits.length ≤ other.digits.length
  nearest : ∀ coefficient : Nat, m.readsBack coefficient d.exponent = true →
    |d.coefficient * 10 ^ d.exponent - m.toRat| ≤ |coefficient * 10 ^ d.exponent - m.toRat|

/-- What is found on a grid is as near as any decimal of the grid that reads back. -/
theorem abs_le_of_onGrid? (several : 1 < f.precision) {found coefficient : Nat}
    (hit : m.onGrid? exponent = some found) (reads : m.readsBack coefficient exponent = true) :
    |found * 10 ^ exponent - m.toRat| ≤ |coefficient * 10 ^ exponent - m.toRat| := by
  have grid : (0 : ℚ) < 10 ^ exponent := by positivity
  have below := m.stepsBelow_mul_le exponent
  have above := m.lt_stepsBelow_add_one_mul exponent
  have lower : |m.stepsBelow exponent * 10 ^ exponent - m.toRat| =
      m.toRat - m.stepsBelow exponent * 10 ^ exponent := by
    rw [abs_sub_comm, abs_of_nonneg (sub_nonneg.mpr below)]
  have upper : |((m.stepsBelow exponent + 1 : ℕ) : ℚ) * 10 ^ exponent - m.toRat| =
      (m.stepsBelow exponent + 1 : ℕ) * 10 ^ exponent - m.toRat :=
    abs_of_nonneg (sub_nonneg.mpr above.le)
  have remainder := m.two_mul_mod_lt_iff exponent
  unfold onGrid? at hit
  dsimp only at hit
  rw [← stepsBelow] at hit
  rcases Nat.lt_or_ge (m.stepsBelow exponent) coefficient with side | side
  · have step : ((m.stepsBelow exponent + 1 : ℕ) : ℚ) * 10 ^ exponent ≤
        coefficient * 10 ^ exponent :=
      mul_le_mul_of_nonneg_right (Nat.cast_le.mpr side) grid.le
    refine le_trans ?_ (le_abs_self _)
    rw [readsBack_stepsBelow_add_one several reads side] at hit
    split at hit
    · split at hit
      · rename_i nearer
        rw [← Option.some.inj hit, lower]
        linarith [remainder.mp nearer]
      · rw [← Option.some.inj hit, upper]
        linarith
    · contradiction
    · rw [← Option.some.inj hit, upper]
      linarith
    · contradiction
  · have step : (coefficient : ℚ) * 10 ^ exponent ≤ m.stepsBelow exponent * 10 ^ exponent :=
      mul_le_mul_of_nonneg_right (Nat.cast_le.mpr side) grid.le
    rw [abs_sub_comm (coefficient * 10 ^ exponent : ℚ)]
    refine le_trans ?_ (le_abs_self _)
    rw [readsBack_stepsBelow several reads side] at hit
    split at hit
    · split at hit
      · rw [← Option.some.inj hit, lower]
        linarith
      · rename_i farther
        rw [← Option.some.inj hit, upper]
        linarith [not_lt.mp (mt remainder.mpr farther)]
    · rw [← Option.some.inj hit, lower]
      linarith
    · contradiction
    · contradiction

theorem abs_le_of_shortestFrom (several : 1 < f.precision) (n : Nat) {coefficient : Nat}
    (reads : m.readsBack coefficient (m.shortestFrom n).exponent = true) :
    |(m.shortestFrom n).coefficient * 10 ^ (m.shortestFrom n).exponent - m.toRat| ≤
      |coefficient * 10 ^ (m.shortestFrom n).exponent - m.toRat| := by
  induction n with
  | zero =>
    have exact : ((m.units * 5 ^ f.unit : ℕ) : ℚ) * 10 ^ (-(f.unit : Int)) = m.toRat := by
      rw [zpow_neg, zpow_natCast, ← div_eq_mul_inv, toRat, show (10 : ℚ) = 2 * 5 by norm_num,
        mul_pow]
      push_cast
      exact mul_div_mul_right _ _ (by positivity)
    simp only [shortestFrom, exact, sub_self, abs_zero]
    exact abs_nonneg _
  | succ n ih =>
    unfold shortestFrom at reads ⊢
    split at reads
    · rename_i hit
      exact abs_le_of_onGrid? several hit reads
    · exact ih reads

/-- Between the texts of fewer digits and the shortest decimal there would be a power of ten on
a coarser grid. -/
theorem digitCount_coefficient_shortest_le (several : 1 < f.precision) (fine : f.unit ≤ 1900)
    (nonzero : m.units ≠ 0) {coefficient : Nat}
    (reads : m.readsBack coefficient exponent = true) :
    digitCount m.shortest.coefficient ≤ digitCount coefficient := by
  refine Nat.le_of_not_lt fun fewer => ?_
  have own := m.readsBack_shortest
  have coarse := le_exponent_shortest several fine nonzero reads
  have lower := ten_pow_le_of_lt_digitCount (coefficient_ne_zero nonzero own) fewer
  have above := lt_ten_pow_digitCount coefficient
  have positive := digitCount_pos coefficient
  generalize digitCount coefficient = k at *
  generalize m.shortest.coefficient = c at *
  have between : m.readsBack 1 (k + m.shortest.exponent) = true := by
    rw [readsBack_iff] at reads own ⊢
    refine ofRat?_of_between (by positivity) ?_ several ?_ reads own
    · rw [Nat.cast_one, one_mul, zpow_add₀ (by norm_num), zpow_natCast]
      exact mul_le_mul (by exact_mod_cast above.le) (zpow_le_zpow_right₀ (by norm_num) coarse)
        (by positivity) (by positivity)
    · rw [Nat.cast_one, one_mul, zpow_add₀ (by norm_num), zpow_natCast]
      exact mul_le_mul_of_nonneg_right (by exact_mod_cast lower) (by positivity)
  have coarser := le_exponent_shortest several fine nonzero between
  omega

/-- The shortest decimal is what it is named for. -/
theorem isShortest_shortest (several : 1 < f.precision) (fine : f.unit ≤ 1900)
    (m : Magnitude f) : m.IsShortest m.shortest := by
  by_cases nonzero : m.units = 0
  · obtain rfl := eq_zero_of_units nonzero
    have shown : (zero : Magnitude f).shortest = ⟨0, 0⟩ := if_pos rfl
    refine ⟨readsBack_shortest _, fun other _ => ?_, fun coefficient _ => ?_⟩
    · rw [shown]
      exact digitCount_pos other.coefficient
    · rw [shown, Nat.cast_zero, zero_mul, toRat, units_zero, Nat.cast_zero, zero_div, sub_zero,
        abs_zero]
      exact abs_nonneg _
  · refine ⟨readsBack_shortest _, fun other reads => ?_, fun coefficient reads => ?_⟩
    · exact digitCount_coefficient_shortest_le several fine nonzero reads
    · have search : m.shortest = m.shortestFrom m.coarsest :=
        if_neg fun zero => nonzero ((isZero_iff m).mp zero)
      rw [search] at reads ⊢
      exact abs_le_of_shortestFrom several _ reads

end Magnitude

end RecordCheck
