import RecordCheck.Proofs.Builder.Acceptance
import RecordCheck.Proofs.Number.DigitLength

/-!
# The digits of machine integers

Length bounds measure the number of double precision that an integer becomes. Up to 64 bits it
has as many digits as the integer, unless it is rounded up to the next power of ten
(`Binary.digitLength_ofInt`); which integers these are is a short list (`Carries`). The sign
does not matter to either.

Powers of ten of this size are numbers of double precision, so rounding does not cross them: an
integer of `k` digits stays from `10 ^ (k - 1)` to `10 ^ k`, and only the upper end has more
digits.
-/

namespace RecordCheck

-- Powers of naturals are the core ones, whatever other instances are in scope.
attribute [local instance (high)] instPowNat

/-! ## Rounding up to a power of ten -/

/-- The exponents of the powers of ten to which double precision rounds up, as far as 64 bits
reach, with the distances from which it does. -/
def carries : List (Nat × Nat) := [(16, 1), (17, 8), (18, 64), (19, 1024)]

/-- The integer is rounded up to the next power of ten. -/
def Carries (n : Nat) : Prop := ∃ carry ∈ carries, 10 ^ carry.1 - carry.2 ≤ n ∧ n < 10 ^ carry.1

instance : DecidablePred Carries := fun _ => inferInstanceAs (Decidable (∃ carry ∈ carries, _))

namespace Magnitude

section Integers

variable {a b : Nat} {m n : Magnitude .double}

theorem units_le_of_nearest? (le : a ≤ b) (found : nearest? a 1 = some m)
    (found' : nearest? b 1 = some n) : m.units ≤ n.units := by
  rw [← ofRat?_div _ Nat.one_pos] at found found'
  have quotients : (a / (1 : ℕ) : ℚ) ≤ b / (1 : ℕ) := by
    rw [Nat.cast_one, div_one, div_one]
    exact_mod_cast le
  exact units_le_of_ofRat? (by positivity) quotients (by decide) found found'

theorem floor_le_of_nearest? (le : a ≤ b) (found : nearest? a 1 = some m)
    (found' : nearest? b 1 = some n) : m.floor ≤ n.floor :=
  Nat.div_le_div_right (units_le_of_nearest? le found found')

theorem floor_of_exact {units : Nat}
    (exact : (nearest? a 1 : Option (Magnitude .double)).map Magnitude.units =
      some (units * 2 ^ Format.double.unit)) :
    ∃ m : Magnitude .double, nearest? a 1 = some m ∧ m.floor = units := by
  obtain ⟨m, found, same⟩ := Option.map_eq_some_iff.mp exact
  refine ⟨m, found, ?_⟩
  rw [floor, same, Nat.mul_div_cancel _ (Nat.two_pow_pos _)]

/-- Rounding does not cross the powers of ten up to the twenty-second. -/
theorem ten_pow_le_floor {k : Nat} (low : k < 23) (le : 10 ^ k ≤ a)
    (found : nearest? a 1 = some m) : 10 ^ k ≤ m.floor := by
  obtain ⟨power, exact, floor⟩ := floor_of_exact (Binary.units_nearest?_ten_pow k low)
  exact floor ▸ floor_le_of_nearest? le exact found

theorem floor_le_ten_pow {k : Nat} (low : k < 23) (le : a ≤ 10 ^ k)
    (found : nearest? a 1 = some m) : m.floor ≤ 10 ^ k := by
  obtain ⟨power, exact, floor⟩ := floor_of_exact (Binary.units_nearest?_ten_pow k low)
  exact floor ▸ floor_le_of_nearest? le found exact

end Integers

section Carries

variable {n : Nat} {m : Magnitude .double} (found : nearest? n 1 = some m)
include found

theorem floor_of_lt (small : n < 10 ^ 15) : m.floor = n := by
  have reach : Format.double.unit < Format.double.top := by decide
  have fits : n < 2 ^ Format.double.precision :=
    small.trans (by decide : 10 ^ 15 < 2 ^ Format.double.precision)
  obtain ⟨own, exact, value⟩ := exists_nearest?_eq reach fits
  rw [found, Option.some_inj] at exact
  rw [floor, units_eq_of_toRat (exact ▸ value), Nat.mul_div_cancel _ (Nat.two_pow_pos _)]

/-- What is below an integer that is not rounded up to a power of ten is not either. -/
theorem floor_lt_of_le {limit bound : Nat} (le : n ≤ limit)
    (kept : ((nearest? limit 1 : Option (Magnitude .double)).map floor).any (· < bound) = true) :
    m.floor < bound := by
  obtain ⟨_, there, less⟩ := (Option.any_eq_true _ _).mp kept
  obtain ⟨last, found', rfl⟩ := Option.map_eq_some_iff.mp there
  exact (floor_le_of_nearest? le found found').trans_lt (of_decide_eq_true less)

/-- The list has every integer of 64 bits that is rounded up to the next power of ten. -/
theorem carries_of_floor_eq (small : n < 2 ^ 64) (full : m.floor = 10 ^ digitCount n) :
    Carries n := by
  -- The integers before those of the list are not rounded up, nor are any beyond the list.
  have before : ∀ carry ∈ carries, ((nearest? (10 ^ carry.1 - carry.2 - 1) 1 :
      Option (Magnitude .double)).map floor).any (· < 10 ^ carry.1) = true := by decide +kernel
  have beyond : ((nearest? (2 ^ 64) 1 : Option (Magnitude .double)).map floor).any
      (· < 10 ^ 20) = true := by decide +kernel
  have listed : ∀ k ∈ [16, 17, 18, 19], ∃ carry ∈ carries, carry.1 = k := by decide
  have below := lt_ten_pow_digitCount n
  rcases Nat.lt_or_ge (digitCount n) 16 with few | some
  · have fits : n < 10 ^ 15 := below.trans_le (Nat.pow_le_pow_right (by decide) (by omega))
    rw [floor_of_lt found fits] at full
    omega
  · rcases Nat.lt_or_ge (digitCount n) 20 with inside | many
    · have range : digitCount n ∈ [16, 17, 18, 19] := by
        simp only [List.mem_cons, List.not_mem_nil, or_false]
        omega
      obtain ⟨carry, member, digits⟩ := listed _ range
      rw [← digits] at full below
      refine ⟨carry, member, Nat.le_of_not_lt fun short => ?_, below⟩
      exact (floor_lt_of_le found (by omega) (before carry member)).ne full
    · have less := floor_lt_of_le found small.le beyond
      have power : 10 ^ 20 ≤ 10 ^ digitCount n := Nat.pow_le_pow_right (by decide) many
      omega

/-- The list has no other integers. -/
theorem floor_of_carries (up : Carries n) : m.floor = 10 ^ digitCount n := by
  have first : ∀ carry ∈ carries, (nearest? (10 ^ carry.1 - carry.2) 1 :
      Option (Magnitude .double)).map units = some (10 ^ carry.1 * 2 ^ Format.double.unit) := by
    decide +kernel
  have digits : ∀ carry ∈ carries, 0 < carry.1 ∧ carry.1 < 23 ∧
      10 ^ (carry.1 - 1) ≤ 10 ^ carry.1 - carry.2 := by
    decide
  obtain ⟨carry, member, lower, upper⟩ := up
  obtain ⟨positive, low, least⟩ := digits carry member
  obtain ⟨start, found', floor⟩ := floor_of_exact (first carry member)
  have count : digitCount n = carry.1 := by
    have above := lt_digitCount_of_ten_pow_le (least.trans lower)
    have below : digitCount n ≤ carry.1 := (digitCount_le_iff positive).mpr upper
    omega
  rw [count]
  exact Nat.le_antisymm (floor_le_ten_pow low upper.le found)
    (floor ▸ floor_le_of_nearest? lower found' found)

/-- A rounded integer has its own digits, unless it is rounded up to the next power of ten. -/
theorem digitCount_floor (small : n < 2 ^ 64) :
    digitCount m.floor = if Carries n then digitCount n + 1 else digitCount n := by
  have few : digitCount n < 23 :=
    ((digitCount_le_iff (by decide : 0 < 20)).mpr (small.trans (by decide))).trans_lt (by decide)
  have below := lt_ten_pow_digitCount n
  have upper := floor_le_ten_pow few below.le found
  split
  · rename_i up
    rw [floor_of_carries found up]
    refine Nat.le_antisymm ?_ (lt_digitCount_of_ten_pow_le (Nat.le_refl _))
    exact (digitCount_le_iff (Nat.succ_pos _)).mpr (Nat.pow_lt_pow_right (by decide) (by omega))
  · rename_i kept
    have less : m.floor < 10 ^ digitCount n :=
      Nat.lt_of_le_of_ne upper fun full => kept (carries_of_floor_eq found small full)
    refine Nat.le_antisymm ((digitCount_le_iff (digitCount_pos n)).mpr less) ?_
    rcases Nat.eq_zero_or_pos n with rfl | positive
    · exact digitCount_pos _
    · have own := digitCount_pos n
      have lower := ten_pow_le_of_lt_digitCount positive.ne' (by omega : digitCount n - 1 < _)
      have above := lt_digitCount_of_ten_pow_le (ten_pow_le_floor (by omega) lower found)
      omega

end Carries

end Magnitude

/-! ## Integers as numbers -/

namespace Binary

/-- Integers of 64 bits are within reach of double precision, and are rounded to integers. -/
theorem exists_ofInt_eq {v : Int} (small : v.natAbs < 2 ^ 64) :
    ∃ m : Magnitude .double, Magnitude.nearest? v.natAbs 1 = some m ∧
      ofInt v = finite (decide (v < 0)) m ∧ m.isIntegral = true := by
  have reached : (Magnitude.nearest? v.natAbs 1 : Option (Magnitude .double)).isSome :=
    (Magnitude.isSome_nearest?_iff Nat.one_pos).mpr (reached_of_le small.le)
  obtain ⟨m, found⟩ := Option.isSome_iff_exists.mp reached
  refine ⟨m, found, ?_, Magnitude.isIntegral_of_nearest? found⟩
  rw [ofInt, ofRatio, found]
  rfl

/-- The number that an integer of 64 bits becomes has the digits of the integer without its sign,
and one more if it is rounded up to the next power of ten. -/
theorem digitLength_ofInt {v : Int} (small : v.natAbs < 2 ^ 64) :
    digitLength (.ofInt v) =
      if Carries v.natAbs then digitCount v.natAbs + 1 else digitCount v.natAbs := by
  obtain ⟨m, found, number, integral⟩ := exists_ofInt_eq small
  have part : ⌊withSign (decide (v < 0)) m.toRat⌋.natAbs = m.floor := by
    rw [m.floor_withSign, integral, Bool.not_true, Bool.and_false]
    rfl
  have few : m.floor ≤ 10 ^ 22 :=
    Magnitude.floor_le_ten_pow (by decide) (small.le.trans (by decide)) found
  rw [number, (digitLength_eq _ m part).2 (not_roundsTo_of_le few),
    Magnitude.digitCount_floor found small]

end Binary

/-! ## Length bounds on integers -/

/-- The machine integer that a caller holds. -/
inductive Numeral.Holds : Numeral → Int → Prop
  | unsigned (n : UInt64) : Holds (.unsigned n) n.toNat
  | signed (n : Int64) : Holds (.signed n) n.toInt

theorem Numeral.Holds.toBinary64_eq {numeral : Numeral} {v : Int} (holds : numeral.Holds v) :
    numeral.toBinary64 = .ofInt v := by
  cases holds <;> rfl

theorem Numeral.Holds.natAbs_lt {numeral : Numeral} {v : Int} (holds : numeral.Holds v) :
    v.natAbs < 2 ^ 64 := by
  cases holds with
  | unsigned n => exact n.toNat_lt
  | signed n =>
    have lower := n.le_toInt
    have upper := n.toInt_lt
    omega

/-- An exact length behind the starts for integers asks for so many digits. -/
theorem Start.exists_chain_length {start : Start}
    (integers : start = .digits .number ∨ start = .refined .integer) {bound : Numeral} {d : Nat}
    (given : bound.toBound .length = .ok d) :
    ∃ builder, start.builder.chain [.length bound] = .ok builder ∧
      ∀ (key : String) (x : Binary64), x.isIntegral = true →
        ((builder.pipeline.validate key (some (.number x))).isValid = true ↔
          digitLength x = d) := by
  have sized : start.Sized := by rcases integers with rfl | rfl <;> trivial
  have admitted : (Call.length bound).admittedAt start.stage = true := by
    rcases integers with rfl | rfl <;> rfl
  obtain ⟨builder, built, verdict⟩ :=
    Start.exists_chain_bound sized (.length bound) admitted rfl given
  refine ⟨builder, built, fun key x integral => (verdict key _).trans ⟨?_, fun same => ?_⟩⟩
  · rintro ⟨-, -, length, has, rfl⟩
    cases has
    rfl
  · refine ⟨?_, fun subtype chosen => ?_, digitLength x, .number x, same⟩
    · rcases integers with rfl | rfl <;> rfl
    · rcases integers with rfl | rfl
      · cases chosen
      · cases chosen
        exact ⟨x, rfl, integral⟩

theorem digitCount_eq_length_toString (n : Nat) : digitCount n = (toString n).length :=
  (String.length_ofList).symm

/-- Length bounds on an integer of 64 bits count its own digits, without the sign.

An integer counts one digit more if it is among the few below a power of ten that double precision
rounds up to it. Up to `2 ^ 53` there are none. -/
theorem Numeral.length_of_integer {numeral : Numeral} {v : Int} (holds : numeral.Holds v) :
    (∀ (start : Start) (bound : Numeral) (d : Nat),
      start = .digits .number ∨ start = .refined .integer → bound.toBound .length = .ok d →
        ∃ builder, start.builder.chain [.length bound] = .ok builder ∧ ∀ key,
          ((builder.pipeline.validate key (some (.number numeral.toBinary64))).isValid = true ↔
            d = if Carries v.natAbs then digitCount v.natAbs + 1 else digitCount v.natAbs)) ∧
    (∀ (other : Numeral) (w : Int), other.Holds w → w.natAbs = v.natAbs →
      digitLength other.toBinary64 = digitLength numeral.toBinary64) ∧
    (¬ Carries v.natAbs → digitLength numeral.toBinary64 = (toString v.natAbs).length) ∧
    (v.natAbs ≤ 2 ^ 53 → ¬ Carries v.natAbs) := by
  have measured {numeral : Numeral} {v : Int} (holds : numeral.Holds v) :
      digitLength numeral.toBinary64 =
        if Carries v.natAbs then digitCount v.natAbs + 1 else digitCount v.natAbs :=
    holds.toBinary64_eq ▸ Binary.digitLength_ofInt holds.natAbs_lt
  refine ⟨fun start bound d integers given => ?_, fun other w held same => ?_, fun kept => ?_, ?_⟩
  · obtain ⟨builder, built, verdict⟩ := Start.exists_chain_length integers given
    have integral : numeral.toBinary64.isIntegral = true := by
      obtain ⟨m, -, number, integral⟩ := Binary.exists_ofInt_eq holds.natAbs_lt
      rw [holds.toBinary64_eq, number]
      exact integral
    refine ⟨builder, built, fun key => ?_⟩
    rw [verdict key _ integral, measured holds, eq_comm]
  · rw [measured held, measured holds, same]
  · rw [measured holds, if_neg kept, digitCount_eq_length_toString]
  · have large : ∀ carry ∈ carries, 2 ^ 53 < 10 ^ carry.1 - carry.2 := by decide
    rintro small ⟨carry, member, lower, -⟩
    exact Nat.not_le_of_lt (large carry member) (lower.trans small)

/-- The first integer that is rounded up to a power of ten does not pass as one of its own length. -/
theorem Numeral.length_of_integer_carried :
    (Numeral.signed 9999999999999999).Holds 9999999999999999 ∧
      digitCount (9999999999999999 : Int).natAbs = 16 ∧
      ∃ number integer, Builder.number.chain [.length (.unsigned 16)] = .ok number ∧
        Builder.integer.chain [.length (.unsigned 16)] = .ok integer ∧ ∀ key,
          let value := Value.number (Numeral.signed 9999999999999999).toBinary64
          (number.pipeline.validate key (some value)).isValid = false ∧
            (integer.pipeline.validate key (some value)).isValid = false := by
  have digits : digitLength (Numeral.signed 9999999999999999).toBinary64 = 17 := by decide +kernel
  have integral : (Numeral.signed 9999999999999999).toBinary64.isIntegral = true := by
    decide +kernel
  have given : (Numeral.unsigned 16).toBound .length = .ok 16 := rfl
  obtain ⟨number, built, verdict⟩ := Start.exists_chain_length (.inl rfl) given
  obtain ⟨integer, built', verdict'⟩ := Start.exists_chain_length (.inr rfl) given
  refine ⟨.signed 9999999999999999, by decide, number, integer, built, built', fun key => ⟨?_, ?_⟩⟩
  · rw [← Bool.not_eq_true, verdict key _ integral, digits]
    decide
  · rw [← Bool.not_eq_true, verdict' key _ integral, digits]
    decide

/-- Sixty-four below a power of ten an integer counts as one of nineteen digits, below zero too. -/
theorem Numeral.length_of_integer_below :
    (Numeral.signed (-999999999999999936)).Holds (-999999999999999936) ∧
      digitCount (-999999999999999936 : Int).natAbs = 18 ∧
      ∃ builder, Builder.integer.chain [.length (.unsigned 19)] = .ok builder ∧ ∀ key,
        (builder.pipeline.validate key
          (some (.number (Numeral.signed (-999999999999999936)).toBinary64))).isValid = true := by
  have holds : (Numeral.signed (-999999999999999936)).Holds (-999999999999999936) := .signed _
  obtain ⟨lengths, -⟩ := Numeral.length_of_integer holds
  obtain ⟨builder, built, verdict⟩ := lengths (.refined .integer) (.unsigned 19) 19 (.inr rfl) rfl
  exact ⟨holds, by decide, builder, built, fun key => (verdict key).mpr (by decide)⟩

end RecordCheck
