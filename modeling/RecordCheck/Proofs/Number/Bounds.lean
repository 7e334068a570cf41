import RecordCheck.Proofs.Number.IntegerDigits

/-!
# Bounds by value

Callers give bounds as numbers of many types. What becomes of a bound depends on the exact number
that it stands for and not on the type that holds it (`Numeral.toBound_eq`): a rational number is
a bound if it is an integer that is not below zero, and the largest bound stands for all above it.

* `Quantity` is what a number of any type stands for, and `Quantity.toBound` says which quantities
  are bounds. It knows of no type.
* Widening a number of a smaller format keeps its quantity (`Binary.quantity_convert`), since its
  digits are digits of the wider format too (`Magnitude.exists_toRat_eq`).
* A quantity that is not zero has one nearest number (`Binary.ofRat`), and this is the number that
  errors report (`Binary.ofRat_eq`, `Binary.ofRat_intCast`).
-/

namespace RecordCheck

-- Powers of naturals are the core ones, whatever other instances are in scope.
attribute [local instance (high)] instPowNat

/-! ## Quantities -/

/-- What a number stands for: a rational number, one of the infinities, or nothing. -/
inductive Quantity
  | rational (q : ℚ)
  | infinite (negative : Bool)
  | undefined

/-- What a number of a format stands for. Both zeros are zero. -/
def Binary.quantity {f : Format} : Binary f → Quantity
  | .nan => .undefined
  | .infinity negative => .infinite negative
  | .finite negative m => .rational (withSign negative m.toRat)

/-- What a caller's number stands for, whatever its type. -/
def Numeral.quantity : Numeral → Quantity
  | .unsigned n => .rational n.toNat
  | .signed n => .rational n.toInt
  | .single x => x.quantity
  | .double x => x.quantity

/-- The number nearest to a rational number, with the sign of it. -/
def Binary.ofRat {f : Format} (q : ℚ) : Binary f :=
  .ofRounded (decide (q < 0)) (Magnitude.ofRat? |q|)

/-- A quantity as a bound: it has to be an integer, then one that is not below zero, and counts as
the largest bound if it is above this. Errors report the nearest number. -/
def Quantity.toBound (rule : FailureKind) : Quantity → Except BoundError Nat
  | .undefined => .error (.notInteger rule .nan)
  | .infinite negative => .error (.notInteger rule (.infinity negative))
  | .rational q =>
    if Int.fract q ≠ 0 then .error (.notInteger rule (.ofRat q))
    else if q < 0 then .error (.negative rule (.ofRat q))
    else .ok (min ⌊q⌋.toNat maxBound)

/-! ## Widening -/

section Widening

variable {f g : Format} (precise : f.precision ≤ g.precision) (fine : f.unit ≤ g.unit)
  (far : f.precision + f.top + (g.unit - f.unit) ≤ g.precision + g.top)
include precise fine far

/-- A wider format has every magnitude of a narrower one. -/
theorem Magnitude.exists_toRat_eq (m : Magnitude f) : ∃ n : Magnitude g, n.toRat = m.toRat := by
  have inside : m.significand * 2 ^ (m.exponent + (g.unit - f.unit)) <
      2 ^ (g.precision + g.top) := by
    have low := m.exponent_le
    calc m.significand * 2 ^ (m.exponent + (g.unit - f.unit))
        < 2 ^ f.precision * 2 ^ (m.exponent + (g.unit - f.unit)) :=
          Nat.mul_lt_mul_of_pos_right m.significand_lt (Nat.two_pow_pos _)
      _ = 2 ^ (f.precision + (m.exponent + (g.unit - f.unit))) := (Nat.pow_add ..).symm
      _ ≤ 2 ^ (g.precision + g.top) := Nat.pow_le_pow_right (by decide) (by omega)
  obtain ⟨n, units⟩ := exists_units_eq
    (m.significand_lt.trans_le (Nat.pow_le_pow_right (by decide) precise)) inside
  refine ⟨n, ?_⟩
  have scale : (2 : ℚ) ^ g.unit = 2 ^ f.unit * 2 ^ (g.unit - f.unit) := by
    rw [← pow_add, Nat.add_sub_cancel' fine]
  rw [toRat, toRat, units, scale, Magnitude.units, Nat.pow_add, ← Nat.mul_assoc]
  push_cast
  exact mul_div_mul_right _ _ (by positivity)

/-- Going to a wider format changes nothing about what a number stands for. -/
theorem Binary.quantity_convert (x : Binary f) : (x.convert : Binary g).quantity = x.quantity := by
  cases x with
  | nan | infinity => rfl
  | finite negative m =>
    obtain ⟨n, value⟩ := m.exists_toRat_eq precise fine far
    have found : Magnitude.nearest? m.units (2 ^ f.unit) = some n := by
      rw [← Magnitude.ofRat?_div _ (Nat.two_pow_pos _), ← m.toRat_eq_div, ← value,
        Magnitude.ofRat?_toRat]
    rw [convert, ofRatio, found, ofRounded, quantity, quantity, value]

end Widening

/-! ## The nearest number of a quantity -/

namespace Binary

/-- A number that is not zero is the nearest to what it stands for. -/
theorem ofRat_eq {f : Format} {x : Binary f} {q : ℚ} (value : x.quantity = .rational q)
    (nonzero : q ≠ 0) : ofRat q = x := by
  cases x with
  | nan | infinity => cases value
  | finite negative m =>
    cases value
    have size := m.toRat_nonneg
    have sign : decide (withSign negative m.toRat < 0) = negative := by
      cases negative with
      | false => exact decide_eq_false (not_lt.mpr size)
      | true =>
        refine decide_eq_true (neg_lt_zero.mpr (lt_of_le_of_ne size fun zero => nonzero ?_))
        rw [← zero, withSign_zero]
    rw [ofRat, abs_withSign size, Magnitude.ofRat?_toRat, sign, ofRounded]

theorem ofRat_intCast {f : Format} (n : ℤ) : (ofRat n : Binary f) = ofInt n := by
  have size : |(n : ℚ)| = n.natAbs / (1 : ℕ) := by
    rw [Nat.cast_one, div_one, Nat.cast_natAbs, Int.cast_abs]
  have sign : decide ((n : ℚ) < 0) = decide (n < 0) := decide_eq_decide.mpr Int.cast_lt_zero
  rw [ofRat, size, Magnitude.ofRat?_div _ Nat.one_pos, sign]
  rfl

theorem isRounding_of_quantity {x : Binary64} {q : ℚ} (value : x.quantity = .rational q) :
    x.IsRounding q := by
  cases x with
  | nan | infinity => cases value
  | finite negative m =>
    cases value
    exact isRounding_of_ofRat? m.toRat_nonneg m.ofRat?_toRat negative

theorem ofInt_isRounding {n : ℤ} (small : n.natAbs < 2 ^ 64) :
    (ofInt n : Binary64).IsRounding n := by
  obtain ⟨m, found, number, -⟩ := exists_ofInt_eq small
  rw [← Magnitude.ofRat?_div _ Nat.one_pos, Nat.cast_one, div_one] at found
  have rounding := isRounding_of_ofRat? (Nat.cast_nonneg _) found (decide (n < 0))
  rwa [number, ← withSign_natAbs n]

end Binary

/-! ## Bounds -/

section Sign

variable {f : Format} {negative : Bool} {m : Magnitude f}

theorem Binary.isBelowZero_iff :
    (Binary.finite negative m).isBelowZero = true ↔ withSign negative m.toRat < 0 := by
  have size := m.toRat_nonneg
  have zero : m.isZero = true ↔ m.toRat = 0 := by
    rw [m.isZero_iff, Magnitude.toRat, div_eq_zero_iff, Nat.cast_eq_zero,
      or_iff_left (by positivity)]
  cases negative with
  | false => exact iff_of_false Bool.false_ne_true (not_lt.mpr size)
  | true =>
    rw [withSign, neg_lt_zero, isBelowZero, Bool.true_and, Bool.not_eq_true', ← Bool.not_eq_true,
      zero, size.lt_iff_ne, ne_comm]

theorem Magnitude.withSign_toRat_of_nonneg (nonneg : ¬ withSign negative m.toRat < 0) :
    withSign negative m.toRat = m.toRat := by
  have size := m.toRat_nonneg
  cases negative with
  | false => rfl
  | true =>
    rw [withSign] at nonneg ⊢
    linarith

end Sign

/-- A number of double precision as a bound is what it stands for as a bound. -/
theorem Binary64.toBound_eq (rule : FailureKind) (x : Binary64) :
    x.toBound rule = x.quantity.toBound rule := by
  cases x with
  | nan | infinity => rfl
  | finite negative m =>
    have nearest (nonzero : withSign negative m.toRat ≠ 0) :
        Binary.ofRat (withSign negative m.toRat) = Binary.finite negative m :=
      Binary.ofRat_eq (x := .finite negative m) rfl nonzero
    have fraction := m.isIntegral_iff_fract negative
    unfold Binary64.toBound Quantity.toBound Binary.quantity
    dsimp only
    cases integral : m.isIntegral with
    | false =>
      rw [integral] at fraction
      have some : Int.fract (withSign negative m.toRat) ≠ 0 := fun none =>
        Bool.false_ne_true (fraction.mpr none)
      rw [if_pos some, nearest fun zero => some (by rw [zero, Int.fract_zero])]
      rfl
    | true =>
      rw [if_neg (not_not.mpr (fraction.mp integral))]
      by_cases below : withSign negative m.toRat < 0
      · rw [if_pos below, nearest below.ne, if_pos (Binary.isBelowZero_iff.mpr below)]
        rfl
      · rw [if_neg below, if_neg (mt Binary.isBelowZero_iff.mp below),
          Magnitude.withSign_toRat_of_nonneg below, m.floor_toRat, Int.toNat_natCast]
        rfl

theorem maxBound_eq : maxBound = 2 ^ 64 - 1 := rfl

section Integers

variable (rule : FailureKind)

theorem Quantity.toBound_intCast (n : ℤ) : (Quantity.rational n).toBound rule =
    if n < 0 then .error (.negative rule (.ofInt n)) else .ok (min n.toNat maxBound) := by
  unfold Quantity.toBound
  simp only [Int.fract_intCast, ne_eq, not_true_eq_false, if_false, Int.cast_lt_zero,
    Binary.ofRat_intCast, Int.floor_intCast]

theorem Quantity.toBound_natCast (n : ℕ) :
    (Quantity.rational n).toBound rule = .ok (min n maxBound) := by
  rw [← Int.cast_natCast, toBound_intCast, if_neg (Int.natCast_nonneg n).not_gt, Int.toNat_natCast]

/-- A number as a bound is what it stands for as a bound, whatever its type. -/
theorem Numeral.toBound_eq (x : Numeral) : x.toBound rule = x.quantity.toBound rule := by
  cases x with
  | unsigned n =>
    have small := n.toNat_lt
    rw [quantity, Quantity.toBound_natCast, Nat.min_eq_left (by rw [maxBound_eq]; omega)]
    rfl
  | signed n =>
    have small := n.toInt_lt
    have sign : n < 0 ↔ n.toInt < 0 := Int64.lt_iff_toInt_lt
    rw [quantity, Quantity.toBound_intCast, Nat.min_eq_left (by rw [maxBound_eq]; omega), toBound]
    simp only [sign]
    rfl
  | single x =>
    rw [toBound, Binary64.toBound_eq, Binary.quantity_convert (by decide) (by decide) (by decide)]
    rfl
  | double x => exact Binary64.toBound_eq rule x

end Integers

/-! ## The numbers of callers -/

namespace Numeral

variable {x : Numeral} {q : ℚ}

/-- A caller's number becomes the nearest one of double precision. -/
theorem isRounding_toBinary64 (value : x.quantity = .rational q) : x.toBinary64.IsRounding q := by
  cases x with
  | unsigned n =>
    cases value
    exact Binary.ofInt_isRounding (Holds.unsigned n).natAbs_lt
  | signed n =>
    cases value
    exact Binary.ofInt_isRounding (Holds.signed n).natAbs_lt
  | single x =>
    refine Binary.isRounding_of_quantity (Eq.trans ?_ value)
    exact Binary.quantity_convert (by decide) (by decide) (by decide) x
  | double x => exact Binary.isRounding_of_quantity value

theorem toBinary64_of_undefined (value : x.quantity = .undefined) : x.toBinary64 = .nan := by
  cases x with
  | unsigned | signed => cases value
  | single x | double x =>
    cases x with
    | nan => rfl
    | infinity | finite => cases value

theorem toBinary64_of_infinite {negative : Bool} (value : x.quantity = .infinite negative) :
    x.toBinary64 = .infinity negative := by
  cases x with
  | unsigned | signed => cases value
  | single x | double x =>
    cases x with
    | infinity => cases value; rfl
    | nan | finite => cases value

/-- Errors report the number that the argument becomes in double precision. -/
theorem ofRat_eq (value : x.quantity = .rational q) (nonzero : q ≠ 0) :
    Binary.ofRat q = x.toBinary64 := by
  cases x with
  | unsigned n =>
    cases value
    exact Binary.ofRat_intCast n.toNat
  | signed n =>
    cases value
    exact Binary.ofRat_intCast n.toInt
  | single x =>
    refine Binary.ofRat_eq (Eq.trans ?_ value) nonzero
    exact Binary.quantity_convert (by decide) (by decide) (by decide) x
  | double x => exact Binary.ofRat_eq value nonzero

section Judged

variable (rule : FailureKind)

theorem toBound_of_fraction (fraction : ∀ q, x.quantity = .rational q → Int.fract q ≠ 0) :
    x.toBound rule = .error (.notInteger rule x.toBinary64) := by
  rw [toBound_eq]
  cases value : x.quantity with
  | undefined => rw [toBinary64_of_undefined value]; rfl
  | infinite negative => rw [toBinary64_of_infinite value]; rfl
  | rational q =>
    have some := fraction q value
    have nonzero : q ≠ 0 := fun zero => some (by rw [zero, Int.fract_zero])
    rw [Quantity.toBound, if_pos some, ofRat_eq value nonzero]

theorem toBound_of_negative {n : ℤ} (value : x.quantity = .rational n) (below : n < 0) :
    x.toBound rule = .error (.negative rule x.toBinary64) := by
  have nonzero : (n : ℚ) ≠ 0 := Int.cast_ne_zero.mpr below.ne
  rw [toBound_eq, value, Quantity.toBound_intCast, if_pos below, ← Binary.ofRat_intCast,
    ofRat_eq value nonzero]

theorem toBound_of_natCast {n : ℕ} (value : x.quantity = .rational n) :
    x.toBound rule = .ok (min n (2 ^ 64 - 1)) := by
  rw [toBound_eq, value, Quantity.toBound_natCast, maxBound_eq]

/-- Either a number is no integer, or it is an integer below zero, or one that is not. -/
theorem quantity_cases (x : Numeral) : (∀ q, x.quantity = .rational q → Int.fract q ≠ 0) ∨
    (∃ n : ℤ, x.quantity = .rational n ∧ n < 0) ∨ ∃ n : ℕ, x.quantity = .rational n := by
  by_cases whole : ∃ n : ℤ, x.quantity = .rational n
  · obtain ⟨n, value⟩ := whole
    rcases lt_or_ge n 0 with below | above
    · exact .inr (.inl ⟨n, value, below⟩)
    · obtain ⟨k, rfl⟩ := Int.eq_ofNat_of_zero_le above
      exact .inr (.inr ⟨k, value⟩)
  · refine .inl fun q value none => whole ?_
    obtain ⟨n, rfl⟩ : ∃ n : ℤ, (n : ℚ) = q := Int.fract_eq_zero_iff.mp none
    exact ⟨n, value⟩

theorem toBound_eq_notInteger_iff : x.toBound rule = .error (.notInteger rule x.toBinary64) ↔
    ∀ q, x.quantity = .rational q → Int.fract q ≠ 0 := by
  refine ⟨fun refused => ?_, toBound_of_fraction rule⟩
  rcases x.quantity_cases with fraction | ⟨n, value, below⟩ | ⟨n, value⟩
  · exact fraction
  · cases refused.symm.trans (toBound_of_negative rule value below)
  · cases refused.symm.trans (toBound_of_natCast rule value)

theorem toBound_eq_negative_iff : x.toBound rule = .error (.negative rule x.toBinary64) ↔
    ∃ n : ℤ, x.quantity = .rational n ∧ n < 0 := by
  refine ⟨fun refused => ?_, fun ⟨n, value, below⟩ => toBound_of_negative rule value below⟩
  rcases x.quantity_cases with fraction | negative | ⟨n, value⟩
  · cases refused.symm.trans (toBound_of_fraction rule fraction)
  · exact negative
  · cases refused.symm.trans (toBound_of_natCast rule value)

theorem toBound_eq_ok_iff {b : ℕ} : x.toBound rule = .ok b ↔
    ∃ n : ℕ, x.quantity = .rational n ∧ b = min n (2 ^ 64 - 1) := by
  constructor
  · intro accepted
    rcases x.quantity_cases with fraction | ⟨n, value, below⟩ | ⟨n, value⟩
    · cases accepted.symm.trans (toBound_of_fraction rule fraction)
    · cases accepted.symm.trans (toBound_of_negative rule value below)
    · exact ⟨n, value, Except.ok.inj (accepted.symm.trans (toBound_of_natCast rule value))⟩
  · rintro ⟨n, value, rfl⟩
    exact toBound_of_natCast rule value

end Judged

/-- Bounds are judged by the number that an argument stands for, whatever type holds it.

What is no rational number or has a fraction is refused as no integer, other numbers below zero as
negative, and all others are accepted, where the largest word stands for all above it. Errors
report the nearest number of double precision. So arguments of any types that stand for the same
are treated alike, and no larger argument gives a smaller bound. -/
theorem toBound_by_value (rule : FailureKind) (x : Numeral) :
    (x.toBound rule = .error (.notInteger rule x.toBinary64) ↔
      x.quantity = .undefined ∨ (∃ negative, x.quantity = .infinite negative) ∨
        ∃ q, x.quantity = .rational q ∧ Int.fract q ≠ 0) ∧
    (x.toBound rule = .error (.negative rule x.toBinary64) ↔
      ∃ n : ℤ, x.quantity = .rational n ∧ n < 0) ∧
    (∀ b, x.toBound rule = .ok b ↔
      ∃ n : ℕ, x.quantity = .rational n ∧ b = min n (2 ^ 64 - 1)) ∧
    (∀ q, x.quantity = .rational q → x.toBinary64.IsRounding q) ∧
    (x.quantity = .undefined → x.toBinary64 = .nan) ∧
    (∀ negative, x.quantity = .infinite negative → x.toBinary64 = .infinity negative) ∧
    ∀ y : Numeral,
      (y.quantity = x.quantity → y.toBound rule = x.toBound rule) ∧
      ∀ q r b c, x.quantity = .rational q → y.quantity = .rational r → q ≤ r →
        x.toBound rule = .ok b → y.toBound rule = .ok c → b ≤ c := by
  refine ⟨(toBound_eq_notInteger_iff rule).trans ?_, toBound_eq_negative_iff rule,
    fun b => toBound_eq_ok_iff rule, fun q => isRounding_toBinary64, toBinary64_of_undefined,
    fun negative => toBinary64_of_infinite, fun y => ⟨fun same => ?_, ?_⟩⟩
  · cases x.quantity <;> simp
  · rw [toBound_eq, toBound_eq, same]
  · intro q r b c lower upper le accepted accepted'
    obtain ⟨n, value, rfl⟩ := (toBound_eq_ok_iff rule).mp accepted
    obtain ⟨k, value', rfl⟩ := (toBound_eq_ok_iff rule).mp accepted'
    cases lower.symm.trans value
    cases upper.symm.trans value'
    exact min_le_min_right _ (Nat.cast_le.mp le)

/-- The least number of single precision that is above all words. -/
def beyondWords : Binary32 :=
  .finite false
    { significand := 2 ^ 23, exponent := 190, significand_lt := by decide,
      exponent_le := by decide, normal := .inr (by decide) }

/-- The negative zero is the bound that the word zero is. A number of single precision that is
above all words is the largest bound, and no smaller one than the largest word. An integer with
too many digits for double precision is refused as negative. -/
theorem toBound_by_value_mixed :
    ((double (.finite true .zero)).quantity = (unsigned 0).quantity ∧
      (double (.finite true .zero)).toBound .length = (unsigned 0).toBound .length ∧
      (double (.finite true .zero)).toBound .length = .ok 0) ∧
    ((single beyondWords).quantity = .rational (2 ^ 64 : ℕ) ∧
      (single beyondWords).toBound .length = .ok (2 ^ 64 - 1) ∧
      (unsigned (-1)).toBound .length = .ok (2 ^ 64 - 1)) ∧
    (signed (-(2 ^ 53 + 1))).toBound .length =
      .error (.negative .length (signed (-(2 ^ 53 + 1))).toBinary64) := by
  have zero : (double (.finite true .zero)).quantity = .rational (0 : ℕ) := by
    simp [quantity, Binary.quantity, Magnitude.toRat]
  have above : (single beyondWords).quantity = .rational (2 ^ 64 : ℕ) := by
    simp [quantity, Binary.quantity, Magnitude.toRat, Magnitude.units, beyondWords, withSign,
      Format.single]
    norm_num
  obtain ⟨-, -, accepted, -, -, -, others⟩ := toBound_by_value .length (unsigned 0)
  obtain ⟨-, -, capped, -⟩ := toBound_by_value .length (single beyondWords)
  obtain ⟨-, -, word, -⟩ := toBound_by_value .length (unsigned (-1))
  obtain ⟨-, negative, -⟩ := toBound_by_value .length (signed (-(2 ^ 53 + 1)))
  have same := (others (double (.finite true .zero))).1 zero
  exact ⟨⟨zero, same, same.trans ((accepted 0).mpr ⟨0, rfl, rfl⟩)⟩,
    ⟨above, (capped _).mpr ⟨2 ^ 64, above, by decide⟩, (word _).mpr ⟨2 ^ 64 - 1, rfl, by decide⟩⟩,
    negative.mpr ⟨-(2 ^ 53 + 1), rfl, by decide⟩⟩

end Numeral

end RecordCheck
