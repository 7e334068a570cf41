import RecordCheck.Measure
import RecordCheck.Proofs.Number.Rendering
import RecordCheck.Proofs.Number.Shortest

/-!
# The digits of the integral part

The digit length of a finite number counts the decimal digits of its integral part without
the sign, and one more exactly when the next power of ten is rounded to this integral part
(`Binary.digitLength_floor`).

An integral number is shown by an integer that is rounded to it. This integer has other
digits, but as many: a power of ten between the two would be rounded like them, and then the
shortest decimal stands on the grid of this power (`Magnitude.length_positional_shortest`).
-/

namespace RecordCheck

-- Powers of naturals are the core ones, whatever other instances are in scope.
attribute [local instance (high)] instPowNat

/-! ## Texts of integral magnitudes -/

namespace Magnitude

variable {f : Format} {m : Magnitude f} {n : Nat}

theorem units_eq_of_toRat (integral : m.toRat = n) : m.units = n * 2 ^ f.unit := by
  rw [toRat, div_eq_iff (by positivity)] at integral
  exact_mod_cast integral

/-- The shortest decimal of an integer is an integer. -/
theorem exponent_shortest_nonneg (several : 1 < f.precision) (fine : f.unit ≤ 1900)
    (integral : m.toRat = n) : 0 ≤ m.shortest.exponent := by
  by_cases nonzero : m.units = 0
  · rw [shortest, if_pos ((isZero_iff m).mpr nonzero)]
  · have own := m.ofRat?_toRat
    rw [integral, ← mul_one (n : ℚ), ← zpow_zero (10 : ℚ)] at own
    exact le_exponent_shortest several fine nonzero (readsBack_iff.mpr own)

/-- The integer that the text of an integral magnitude spells. -/
def shownInteger (m : Magnitude f) : Nat := m.shortest.coefficient * 10 ^ m.shortest.exponent.toNat

theorem cast_shownInteger (whole : 0 ≤ m.shortest.exponent) :
    (m.shownInteger : ℚ) = m.shortest.coefficient * 10 ^ m.shortest.exponent := by
  obtain ⟨k, power⟩ := Int.eq_ofNat_of_zero_le whole
  rw [shownInteger, power, Int.toNat_natCast, zpow_natCast]
  push_cast
  rfl

section Integral

variable (several : 1 < f.precision) (fine : f.unit ≤ 1900) (nonzero : m.units ≠ 0)
include several fine nonzero

/-- A power of ten that is rounded to the magnitude is not above its text. -/
theorem ten_pow_le_shownInteger {k : Nat} (reads : ofRat? (10 ^ k : ℚ) = some m) :
    10 ^ k ≤ m.shownInteger := by
  have unit : m.readsBack 1 k = true := by
    rwa [readsBack_iff, Nat.cast_one, one_mul, zpow_natCast]
  have coarse := le_exponent_shortest several fine nonzero unit
  have some : 0 < m.shortest.coefficient :=
    Nat.pos_of_ne_zero (coefficient_ne_zero nonzero m.readsBack_shortest)
  calc 10 ^ k ≤ 10 ^ m.shortest.exponent.toNat := Nat.pow_le_pow_right (by decide) (by omega)
    _ ≤ m.shownInteger := Nat.le_mul_of_pos_left _ some

variable (integral : m.toRat = n)
include integral

/-- The text has the digits of the integer, and one more if and only if the next power of ten
is rounded to the integer. -/
theorem digitCount_shownInteger : digitCount m.shownInteger =
    if ofRat? (10 ^ digitCount n : ℚ) = some m then digitCount n + 1 else digitCount n := by
  have nonneg (k : Nat) : (0 : ℚ) ≤ 10 ^ k := by positivity
  have whole := exponent_shortest_nonneg several fine integral
  have shown : ofRat? (m.shownInteger : ℚ) = some m := by
    rw [cast_shownInteger whole]
    exact m.ofRat?_shortest
  have own : ofRat? (n : ℚ) = some m := integral ▸ m.ofRat?_toRat
  have above := lt_ten_pow_digitCount n
  split
  · rename_i carried
    have lower := lt_digitCount_of_ten_pow_le (ten_pow_le_shownInteger several fine nonzero carried)
    have twice : m.shownInteger ≤ 2 * n := by
      have bound := le_two_mul_toRat (Nat.cast_nonneg _) shown nonzero
      rw [integral] at bound
      exact_mod_cast bound
    have upper : m.shownInteger < 10 ^ (digitCount n + 1) := by
      rw [Nat.pow_succ]
      omega
    exact Nat.le_antisymm ((digitCount_le_iff (Nat.succ_pos _)).mpr upper) lower
  · rename_i kept
    refine Nat.le_antisymm ?_ ?_
    · -- Otherwise the power of ten above the integer lies between it and the text.
      rw [digitCount_le_iff (digitCount_pos n)]
      refine Nat.lt_of_not_le fun reached => kept ?_
      exact ofRat?_of_between (Nat.cast_nonneg n) (by exact_mod_cast above.le) several
        (by exact_mod_cast reached) own shown
    · -- Otherwise the power of ten below the integer does.
      refine Nat.le_of_not_lt fun short => ?_
      have below := ten_pow_le_of_lt_digitCount (fun zero => ?_) short
      · have between := ofRat?_of_between (Nat.cast_nonneg _)
          (by exact_mod_cast (lt_ten_pow_digitCount m.shownInteger).le) several
          (by exact_mod_cast below : ((10 ^ digitCount m.shownInteger : ℚ)) ≤ n) shown own
        exact Nat.not_lt_of_le (ten_pow_le_shownInteger several fine nonzero between)
          (lt_ten_pow_digitCount _)
      · rw [zero] at short
        exact Nat.not_le_of_lt short (digitCount_pos _)

end Integral

/-! ## The integral part -/

/-- An integer that is rounded on a grid with all integers stays as it is. -/
theorem units_of_nearest?_one (found : nearest? n 1 = some m)
    (grid : f.exponentFor (n * 2 ^ f.unit) 1 ≤ f.unit) : m.units = n * 2 ^ f.unit := by
  have units := units_of_nearest? Nat.one_pos found
  rw [Format.significandFor] at units
  generalize f.exponentFor (n * 2 ^ f.unit) 1 = e at grid units
  have multiple : n * 2 ^ f.unit = n * 2 ^ (f.unit - e) * (1 * 2 ^ e) := by
    rw [Nat.one_mul, Nat.mul_assoc, ← Nat.pow_add, Nat.sub_add_cancel grid]
  rwa [multiple, roundHalfEven_mul _ (by positivity), Nat.mul_assoc, ← Nat.pow_add,
    Nat.sub_add_cancel grid] at units

/-- Integers are rounded to integers. -/
theorem isIntegral_of_nearest? (found : nearest? n 1 = some m) : m.isIntegral = true := by
  rw [isIntegral, beq_iff_eq, ← Nat.dvd_iff_mod_eq_zero]
  rcases Nat.le_total (f.exponentFor (n * 2 ^ f.unit) 1) f.unit with fine | coarse
  · rw [units_of_nearest?_one found fine]
    exact Nat.dvd_mul_left ..
  · rw [units_of_nearest? Nat.one_pos found]
    exact (Nat.pow_dvd_pow 2 coarse).mul_left _

/-- Integers of at most `precision` digits are magnitudes. -/
theorem exists_nearest?_eq (reach : f.unit < f.top) (small : n < 2 ^ f.precision) :
    ∃ m : Magnitude f, nearest? n 1 = some m ∧ m.toRat = n := by
  have inside : n * 2 ^ f.unit < 2 ^ (f.precision + f.top) := by
    rw [Nat.pow_add]
    exact Nat.mul_lt_mul'' small (Nat.pow_lt_pow_right (by decide) reach)
  obtain ⟨m, units⟩ := exists_units_eq small inside
  have value : m.toRat = n := by
    rw [toRat, units]
    push_cast
    exact mul_div_cancel_right₀ _ (by positivity)
  refine ⟨m, ?_, value⟩
  rw [← ofRat?_div _ Nat.one_pos, Nat.cast_one, div_one, ← value, ofRat?_toRat]

theorem toRat_eq_div (m : Magnitude f) : m.toRat = (m.units : ℚ) / (2 ^ f.unit : ℕ) := by
  rw [toRat]
  push_cast
  rfl

theorem floor_toRat (m : Magnitude f) : ⌊m.toRat⌋ = (m.floor : Int) := by
  rw [toRat_eq_div]
  exact Rat.floor_natCast_div_natCast _ _

theorem isIntegral_iff (m : Magnitude f) : m.isIntegral = true ↔ m.toRat = m.floor := by
  have unit : ((2 ^ f.unit : ℕ) : ℚ) ≠ 0 := Nat.cast_ne_zero.mpr (Nat.two_pow_pos _).ne'
  have parts := Nat.div_add_mod' m.units (2 ^ f.unit)
  rw [toRat_eq_div, div_eq_iff unit, ← Nat.cast_mul, Nat.cast_inj, isIntegral, beq_iff_eq, floor]
  omega

/-- A number with a fraction has fewer digits before the point than the format keeps. -/
theorem floor_lt_of_fraction (fraction : m.isIntegral = false) :
    m.floor + 1 < 2 ^ f.precision := by
  have digits := f.two_pow_precision
  have exponent : m.exponent < f.unit := by
    refine Nat.lt_of_not_le fun large => ?_
    rw [isIntegral, units, ← Nat.sub_add_cancel large, Nat.pow_add, ← Nat.mul_assoc,
      Nat.mul_mod_left] at fraction
    cases fraction
  have below : m.floor < 2 ^ (f.precision - 1) := by
    rw [floor, Nat.div_lt_iff_lt_mul (Nat.two_pow_pos _), units]
    calc m.significand * 2 ^ m.exponent
        < 2 ^ f.precision * 2 ^ m.exponent :=
          Nat.mul_lt_mul_of_pos_right m.significand_lt (Nat.two_pow_pos _)
      _ = 2 ^ (f.precision - 1) * 2 ^ (m.exponent + 1) := by
          rw [digits, Nat.pow_succ]
          ring
      _ ≤ 2 ^ (f.precision - 1) * 2 ^ f.unit :=
          Nat.mul_le_mul_left _ (Nat.pow_le_pow_right (by decide) exponent)
  omega

/-- Rounding down goes away from zero below it, unless there is no fraction. -/
theorem floor_withSign (negative : Bool) (m : Magnitude f) :
    ⌊withSign negative m.toRat⌋.natAbs =
      if negative && !m.isIntegral then m.floor + 1 else m.floor := by
  have low := m.floor_toRat
  cases negative with
  | false => rw [withSign, low, Int.natAbs_natCast]; rfl
  | true =>
    rw [withSign, Int.floor_neg, Int.natAbs_neg]
    cases integral : m.isIntegral with
    | true =>
      rw [(isIntegral_iff m).mp integral, Int.ceil_natCast, Int.natAbs_natCast]
      rfl
    | false =>
      have above : ⌈m.toRat⌉ = (m.floor + 1 : Int) := by
        rw [Int.ceil_eq_iff]
        have differ : m.toRat ≠ m.floor := fun same => by
          rw [(isIntegral_iff m).mpr same] at integral
          cases integral
        have least := Int.floor_le m.toRat
        have most := Int.lt_floor_add_one m.toRat
        rw [low] at least most
        push_cast at least most ⊢
        exact ⟨by linarith [lt_of_le_of_ne least differ.symm], most.le⟩
      rw [above]
      rfl

/-- A number that is its own integral part has no fraction, whatever its sign. -/
theorem isIntegral_of_floor {negative : Bool}
    (whole : withSign negative m.toRat = ⌊withSign negative m.toRat⌋) : m.isIntegral = true := by
  rw [isIntegral_iff, ← Int.cast_natCast, ← m.floor_toRat]
  cases negative with
  | false => exact whole
  | true =>
    have size : m.toRat = ((-⌊-m.toRat⌋ : Int) : ℚ) := by
      rw [withSign] at whole
      rw [Int.cast_neg, ← whole, neg_neg]
    rw [size, Int.floor_intCast]

/-- The fraction of a number does not depend on its sign. -/
theorem isIntegral_iff_fract (negative : Bool) (m : Magnitude f) :
    m.isIntegral = true ↔ Int.fract (withSign negative m.toRat) = 0 := by
  rw [Int.fract, sub_eq_zero]
  refine ⟨fun integral => ?_, isIntegral_of_floor⟩
  rw [(isIntegral_iff m).mp integral]
  cases negative with
  | false => rw [withSign, Int.floor_natCast, Int.cast_natCast]
  | true => rw [withSign, ← Int.cast_natCast, ← Int.cast_neg, Int.floor_intCast]

end Magnitude

namespace Binary

/-- The integral part that is measured, without its sign. -/
theorem exists_integralPart (negative : Bool) (m : Magnitude .double) :
    ∃ whole : Magnitude .double, whole.toRat = ⌊withSign negative m.toRat⌋.natAbs ∧
      digitLength (.finite negative m) = whole.shortest.positional.length := by
  have measured {whole : Magnitude .double} (sign : Bool) (integral : (if
      (Binary.finite negative m).isIntegral then .finite negative m else
        (Binary.finite negative m).floor) = Binary.finite sign whole) :
      digitLength (.finite negative m) = whole.shortest.positional.length := by
    rw [digitLength, integral, abs, text, textWith, String.length_ofList]
    rfl
  rw [m.floor_withSign negative]
  cases integral : m.isIntegral with
  | true =>
    refine ⟨m, ?_, measured negative (if_pos integral)⟩
    rw [(Magnitude.isIntegral_iff m).mp integral, Bool.not_true, Bool.and_false]
    rfl
  | false =>
    have reach : Format.double.unit < Format.double.top := by decide
    have small : (if negative then m.floor + 1 else m.floor) < 2 ^ Format.double.precision := by
      have bound := Magnitude.floor_lt_of_fraction integral
      split <;> omega
    obtain ⟨whole, found, value⟩ := Magnitude.exists_nearest?_eq reach small
    refine ⟨whole, ?_, measured negative ?_⟩
    · rw [value, Bool.not_false, Bool.and_true]
    · rw [if_neg (by rw [isIntegral, integral]; exact Bool.false_ne_true), floor,
        if_neg (by rw [integral]; exact Bool.false_ne_true), ofRatio, found]
      rfl

/-- Rounding the rational number to double precision gives the integer. -/
def RoundsTo (q : ℚ) (n : Nat) : Prop :=
  q < 2 ^ 1024 - 2 ^ 970 ∧
    ∃ m : Magnitude .double, (Binary.finite false m).IsNearest q ∧ m.toRat = n

theorem roundsTo_iff {q : ℚ} (nonneg : 0 ≤ q) {m : Magnitude .double} {n : Nat}
    (integral : m.toRat = n) : RoundsTo q n ↔ Magnitude.ofRat? q = some m := by
  rw [Magnitude.ofRat?_eq_some_iff (by decide) nonneg, Magnitude.isSome_ofRat?_iff nonneg,
    Format.limit_double, RoundsTo]
  refine and_congr_right fun _ => ⟨?_, fun nearest => ⟨m, nearest, integral⟩⟩
  rintro ⟨other, nearest, same⟩
  rwa [← Magnitude.toRat_inj (same.trans integral.symm)]

theorem ten_not_zero :
    Magnitude.ofRat? (10 ^ digitCount 0) ≠ some (Magnitude.zero : Magnitude .double) := by
  have ten : (10 ^ digitCount 0 : ℚ) = (10 : ℕ) / (1 : ℕ) := by
    rw [show digitCount 0 = 1 from rfl]
    norm_num
  rw [ten, Magnitude.ofRat?_div _ Nat.one_pos]
  decide +kernel

/-- The digit length of a finite number counts the digits of the integral part, with one more
if the next power of ten is rounded to it. -/
theorem digitLength_eq (negative : Bool) (m : Magnitude .double) {n : Nat}
    (part : ⌊withSign negative m.toRat⌋.natAbs = n) :
    (RoundsTo (10 ^ digitCount n) n → digitLength (.finite negative m) = digitCount n + 1) ∧
    (¬ RoundsTo (10 ^ digitCount n) n → digitLength (.finite negative m) = digitCount n) := by
  obtain ⟨whole, integral, measured⟩ := exists_integralPart negative m
  rw [part] at integral
  rw [measured, roundsTo_iff (by positivity) integral,
    Decimal.positional_of_nonneg (Magnitude.exponent_shortest_nonneg (by decide) (by decide) integral)]
  by_cases nonzero : whole.units = 0
  · obtain rfl := Magnitude.eq_zero_of_units nonzero
    have none : n = 0 := by
      rw [Magnitude.toRat, nonzero, Nat.cast_zero, zero_div] at integral
      exact_mod_cast integral.symm
    subst none
    refine ⟨fun carried => absurd carried ten_not_zero, fun _ => ?_⟩
    have shown : (Magnitude.zero : Magnitude .double).shortest = ⟨0, 0⟩ := if_pos rfl
    rw [shown]
    rfl
  · have count := Magnitude.digitCount_shownInteger (by decide) (by decide) nonzero integral
    constructor
    · intro carried
      rwa [if_pos carried] at count
    · intro kept
      rwa [if_neg kept] at count

/-- Up to the twenty-second, powers of ten are numbers of double precision. -/
theorem units_nearest?_ten_pow : ∀ k < 23,
    (Magnitude.nearest? (10 ^ k) 1 : Option (Magnitude .double)).map Magnitude.units =
      some (10 ^ k * 2 ^ Format.double.unit) := by
  decide +kernel

/-- No integer up to the twenty-second power of ten is what the next power is rounded to. -/
theorem not_roundsTo_of_le {n : Nat} (small : n ≤ 10 ^ 22) : ¬ RoundsTo (10 ^ digitCount n) n := by
  have next : (Magnitude.nearest? (10 ^ 23) 1 : Option (Magnitude .double)).map
      Magnitude.units ≠ some (10 ^ 22 * 2 ^ Format.double.unit) := by decide +kernel
  intro carried
  obtain ⟨-, m, -, integral⟩ := id carried
  have found := (roundsTo_iff (by positivity) integral).mp carried
  have whole : (10 ^ digitCount n : ℚ) = (10 ^ digitCount n : ℕ) / (1 : ℕ) := by push_cast; simp
  have units : m.units = n * 2 ^ Format.double.unit := Magnitude.units_eq_of_toRat integral
  rw [whole, Magnitude.ofRat?_div _ Nat.one_pos] at found
  rcases Nat.lt_or_ge (digitCount n) 23 with less | more
  · have same := units_nearest?_ten_pow _ less
    rw [found, Option.map_some, units, Option.some_inj] at same
    exact Nat.ne_of_lt (lt_ten_pow_digitCount n)
      (Nat.eq_of_mul_eq_mul_right (Nat.two_pow_pos _) same)
  · have large : 10 ^ 22 ≤ n := by
      refine ten_pow_le_of_lt_digitCount (fun none => ?_) more
      rw [none] at more
      exact absurd more (by decide)
    have limit : n = 10 ^ 22 := Nat.le_antisymm small large
    have digits : digitCount n = 23 :=
      Nat.le_antisymm ((digitCount_le_iff (by decide)).mpr (by omega)) more
    rw [digits] at found
    rw [found, Option.map_some, units, limit] at next
    exact next rfl

/-- What the digit length of a finite number is.

The integral part is the number rounded down, without its sign. Its digits are counted, zero as
one, and one more exactly when the next power of ten is rounded to it. This happens for no
integral part up to `10 ^ 22`. The sign does not count in a number without a fraction; below zero
a fraction makes the integral part larger by one. -/
theorem digitLength_floor (negative : Bool) (m : Magnitude .double) :
    let value := withSign negative m.toRat
    let part := ⌊value⌋.natAbs
    let x : Binary64 := .finite negative m
    (RoundsTo (10 ^ digitCount part) part → digitLength x = digitCount part + 1) ∧
    (¬ RoundsTo (10 ^ digitCount part) part → digitLength x = digitCount part) ∧
    (part ≤ 10 ^ 22 → digitLength x = digitCount part) ∧
    (value = ⌊value⌋ → digitLength (.finite (!negative) m) = digitLength x) ∧
    (m.toRat ≠ ⌊m.toRat⌋ →
      digitLength (.finite true m) = digitCount (⌊m.toRat⌋.natAbs + 1)) := by
  intro value part x
  obtain ⟨carried, kept⟩ := digitLength_eq negative m (rfl : ⌊value⌋.natAbs = part)
  refine ⟨carried, kept, fun small => kept (not_roundsTo_of_le small), fun whole => ?_,
    fun fraction => ?_⟩
  · obtain ⟨size, same, length⟩ := exists_integralPart negative m
    obtain ⟨size', same', length'⟩ := exists_integralPart (!negative) m
    have integral := Magnitude.isIntegral_of_floor whole
    have parts : ⌊withSign negative m.toRat⌋.natAbs = ⌊withSign (!negative) m.toRat⌋.natAbs := by
      rw [m.floor_withSign, m.floor_withSign, integral, Bool.not_true, Bool.and_false,
        Bool.and_false]
    rw [parts, ← same'] at same
    rw [length, length', Magnitude.toRat_inj same]
  · have integral : m.isIntegral = false := by
      rw [Bool.eq_false_iff]
      intro integral
      rw [m.floor_toRat] at fraction
      exact fraction ((Magnitude.isIntegral_iff m).mp integral)
    have below : ⌊withSign true m.toRat⌋.natAbs = ⌊m.toRat⌋.natAbs + 1 := by
      rw [m.floor_withSign, m.floor_toRat, integral]
      rfl
    have bound := Magnitude.floor_lt_of_fraction integral
    have small : ⌊m.toRat⌋.natAbs + 1 ≤ 10 ^ 22 := by
      rw [m.floor_toRat, Int.natAbs_natCast]
      exact bound.le.trans (by decide)
    exact (digitLength_eq true m below).2 (not_roundsTo_of_le small)

example : digitLength (.ofInt 99999999999999991611392) = 24 := by decide +kernel

end Binary

end RecordCheck
