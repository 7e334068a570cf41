import RecordCheck.Number.Format

/-!
# Binary numbers

`Magnitude f` holds the size of a finite number of the format `f`, exactly and
in one way only: the significand has its full number of digits unless the
exponent is the least one. `Binary f` adds the sign, the two infinities and one
value that is not a number.

Two notions of equality live side by side. `=` compares representations, so
`0` and `-0` differ. `Binary.equal` compares values: the zeros are equal, and a
value that is not a number equals nothing, itself included.
-/

namespace RecordCheck

-- Powers of naturals are the core ones, whatever other instances are in scope.
attribute [local instance (high)] instPowNat

/-! ## Magnitudes -/

/-- The size of a finite number: `significand * 2 ^ exponent` units. -/
structure Magnitude (f : Format) where
  significand : Nat
  exponent : Nat
  significand_lt : significand < 2 ^ f.precision
  exponent_le : exponent ≤ f.top
  normal : exponent = 0 ∨ 2 ^ (f.precision - 1) ≤ significand
  deriving DecidableEq

namespace Magnitude

variable {f : Format}

/-- The size as a multiple of the smallest positive number of the format. -/
def units (m : Magnitude f) : Nat := m.significand * 2 ^ m.exponent

/-- The magnitude of both zeros. -/
def zero : Magnitude f where
  significand := 0
  exponent := 0
  significand_lt := Nat.two_pow_pos _
  exponent_le := Nat.zero_le _
  normal := .inl rfl

instance : Inhabited (Magnitude f) := ⟨zero⟩

/-- The magnitude with these parts, if they are a significand and an exponent of the format. -/
def ofParts? (significand exponent : Nat) : Option (Magnitude f) :=
  if valid : significand < 2 ^ f.precision ∧ exponent ≤ f.top ∧
      (exponent = 0 ∨ 2 ^ (f.precision - 1) ≤ significand) then
    some ⟨significand, exponent, valid.1, valid.2.1, valid.2.2⟩
  else
    none

/-- Whether the magnitude is zero. -/
def isZero (m : Magnitude f) : Bool := m.significand == 0

/-- The integral part. -/
def floor (m : Magnitude f) : Nat := m.units / 2 ^ f.unit

/-- Whether the fractional part is zero. -/
def isIntegral (m : Magnitude f) : Bool := m.units % 2 ^ f.unit == 0

@[simp] theorem units_zero : (zero : Magnitude f).units = 0 := by simp [units, zero]

/-- Only the magnitude of zero has no units. -/
theorem eq_zero_of_units {m : Magnitude f} (units : m.units = 0) : m = zero := by
  obtain ⟨significand, exponent, small, low, normal⟩ := m
  have none : significand = 0 := by
    have positive := Nat.two_pow_pos exponent
    simp only [Magnitude.units, Nat.mul_eq_zero] at units
    omega
  have least : exponent = 0 := by
    rcases normal with least | full
    · exact least
    · have positive := Nat.two_pow_pos (f.precision - 1)
      omega
  subst none least
  rfl

theorem isZero_iff (m : Magnitude f) : m.isZero = true ↔ m.units = 0 := by
  have positive := Nat.two_pow_pos m.exponent
  simp only [isZero, units, beq_iff_eq, Nat.mul_eq_zero]
  omega

end Magnitude

/-! ## Signed numbers -/

/-- A number of the format `f`. -/
inductive Binary (f : Format)
  | nan
  | infinity (negative : Bool)
  | finite (negative : Bool) (magnitude : Magnitude f)
  deriving DecidableEq

/-- Single precision numbers. -/
abbrev Binary32 := Binary Format.single

/-- Double precision numbers, the numbers of a record. -/
abbrev Binary64 := Binary Format.double

namespace Binary

variable {f : Format}

/-- Positive zero. -/
def zero : Binary f := .finite false .zero

instance : Inhabited (Binary f) := ⟨zero⟩

/-- Whether the number is neither infinite nor `nan`. -/
def isFinite : Binary f → Bool
  | .finite .. => true
  | _ => false

/-- Whether the number is finite and has a zero fractional part. -/
def isIntegral : Binary f → Bool
  | .finite _ m => m.isIntegral
  | _ => false

/-- Whether the number is below zero; `-0` and `nan` are not. -/
def isBelowZero : Binary f → Bool
  | .finite negative m => negative && !m.isZero
  | .infinity negative => negative
  | .nan => false

/-- The number without its sign. -/
def abs : Binary f → Binary f
  | .nan => .nan
  | .infinity _ => .infinity false
  | .finite _ m => .finite false m

/-- Equality of values: `0` equals `-0`, and `nan` equals nothing. -/
def equal : Binary f → Binary f → Bool
  | .finite s m, .finite t n => m == n && (s == t || m.isZero)
  | .infinity s, .infinity t => s == t
  | _, _ => false

theorem equal_comm (x y : Binary f) : x.equal y = y.equal x := by
  cases x <;> cases y <;> simp only [equal, Bool.beq_comm]
  rename_i m _ n
  by_cases same : m = n
  · subst same; rfl
  · simp [beq_false_of_ne same]

/-- A number equals itself unless it is `nan`. -/
theorem equal_self_iff (x : Binary f) : x.equal x = true ↔ x ≠ .nan := by
  cases x <;> simp [equal]

end Binary

end RecordCheck
