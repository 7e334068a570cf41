import RecordCheck.Proofs.Builder.Acceptance
import RecordCheck.Proofs.Builder.Fixpoint
import RecordCheck.Proofs.Number.DigitLength

/-!
# Decimal places

The decimal places of a finite number are the characters behind the point of its text
(`Binary.decimalPlaces_eq`), and they are at most `k` exactly if a multiple of `10 ^ -k` is
rounded to the number (`Binary.decimalPlaces_le_iff`). So a rule on places never rejects a
number that a text spells with as few of them, whatever this text is rounded to.

The shortest decimal has the fewest digits of all that are rounded to the number. That it
has the fewest places as well is another matter, and holds because no decimal on a coarser
grid reads back (`Magnitude.le_exponent_shortest`).
-/

namespace RecordCheck

-- Powers of naturals are the core ones, whatever other instances are in scope.
attribute [local instance (high)] instPowNat

/-! ## The grid of the places -/

namespace Magnitude

variable {f : Format} {m : Magnitude f}

/-- A multiple of `10 ^ -k` is rounded to the magnitude exactly if its shortest decimal stands on
this grid. -/
theorem places_shortest_le_iff (several : 1 < f.precision) (fine : f.unit ≤ 1900) (k : Nat) :
    m.shortest.places ≤ k ↔ ∃ c : Nat, ofRat? (c / 10 ^ k : ℚ) = some m := by
  unfold Decimal.places
  constructor
  · intro within
    obtain ⟨j, shift⟩ := Int.eq_ofNat_of_zero_le (by omega : 0 ≤ m.shortest.exponent + k)
    refine ⟨m.shortest.coefficient * 10 ^ j, ?_⟩
    have value : ((m.shortest.coefficient * 10 ^ j : ℕ) / 10 ^ k : ℚ) =
        m.shortest.coefficient * 10 ^ m.shortest.exponent := by
      rw [eq_sub_of_add_eq shift, zpow_sub₀ (by norm_num), zpow_natCast, zpow_natCast,
        ← mul_div_assoc]
      push_cast
      rfl
    rw [value]
    exact m.ofRat?_shortest
  · rintro ⟨c, reads⟩
    by_cases nonzero : m.units = 0
    · rw [shortest, if_pos ((isZero_iff m).mpr nonzero)]
      exact Nat.zero_le k
    · have grid : (c / 10 ^ k : ℚ) = c * 10 ^ (-(k : Int)) := by
        rw [zpow_neg, zpow_natCast, div_eq_mul_inv]
      rw [grid, ← readsBack_iff] at reads
      have coarse := le_exponent_shortest several fine nonzero reads
      omega

/-- The shortest decimal has no places exactly if the magnitude has no fraction. -/
theorem places_shortest_eq_zero_iff (several : 1 < f.precision) (fine : f.unit ≤ 1900) :
    m.shortest.places = 0 ↔ m.isIntegral = true := by
  constructor
  · intro none
    obtain ⟨c, reads⟩ := (places_shortest_le_iff several fine 0).mp none.le
    have whole : (c / 10 ^ 0 : ℚ) = c / (1 : ℕ) := by rw [pow_zero, Nat.cast_one]
    rw [whole, ofRat?_div _ Nat.one_pos] at reads
    exact isIntegral_of_nearest? reads
  · intro integral
    have whole := exponent_shortest_nonneg several fine ((isIntegral_iff m).mp integral)
    unfold Decimal.places
    omega

end Magnitude

/-! ## Literals without an exponent -/

/-- A decimal literal without an exponent, with at most so many digits behind the point. -/
inductive Literal.Positional (k : Nat) : List Char → Prop
  | parts {sign fixed : List Char} {negative : Bool} {coefficient places : Nat}
    (signed : Literal.Sign sign negative) (positional : Literal.Fixed fixed coefficient places)
    (within : places ≤ k) : Positional k (sign ++ fixed)

theorem Literal.Positional.exists_writes {k : Nat} {text : List Char}
    (positional : Literal.Positional k text) : ∃ (negative : Bool) (coefficient places : Nat),
      Literal.Writes text negative coefficient (-(places : Int)) ∧ places ≤ k := by
  obtain ⟨signed, fixed, within⟩ := positional
  have writes := Literal.Writes.parts signed fixed .none
  rw [List.append_nil, Int.zero_sub] at writes
  exact ⟨_, _, _, writes, within⟩

/-- What stands behind the first point are the places. -/
theorem Literal.Fixed.length_behind_point {sign fixed : List Char} {coefficient places : Nat}
    (positional : Literal.Fixed fixed coefficient places) (plain : '.' ∉ sign) :
    (((sign ++ fixed).dropWhile (· ≠ '.')).drop 1).length = places := by
  have other (digits : List Char) (all : ∀ c ∈ digits, c.isDigit = true) :
      ∀ c ∈ sign ++ digits, decide (c ≠ '.') = true := by
    intro c member
    rw [decide_eq_true_eq]
    rintro rfl
    rcases List.mem_append.mp member with front | back
    · exact plain front
    · cases all _ back
  cases positional with
  | whole some digits =>
    rw [List.dropWhile_eq_nil_iff.mpr (other _ digits)]
    rfl
  | point some digits more =>
    rw [← List.append_assoc, List.dropWhile_append_of_pos (other _ digits)]
    rfl

namespace Binary

/-! ## The places of a number -/

/-- The places are the characters behind the point of the text, if it has one. -/
theorem decimalPlaces_eq (x : Binary64) :
    decimalPlaces x = ((x.text.toList.dropWhile (· ≠ '.')).drop 1).length := by
  cases x with
  | nan => decide
  | infinity negative => cases negative <;> decide
  | finite negative m =>
    obtain ⟨coefficient, positional, -⟩ := m.shortest.fixed_positional
    rw [text, textWith, String.toList_ofList, positional.length_behind_point]
    · rfl
    · cases negative <;> decide

section Places

variable {negative : Bool} {m : Magnitude .double} {k : Nat}

theorem decimalPlaces_le_iff_ofRat? :
    decimalPlaces (.finite negative m) ≤ k ↔
      ∃ c : Nat, Magnitude.ofRat? (c / 10 ^ k : ℚ) = some m :=
  Magnitude.places_shortest_le_iff (by decide) (by decide) k

/-- A number has at most `k` places exactly if it is what a multiple of `10 ^ -k` is rounded to. -/
theorem decimalPlaces_le_iff :
    decimalPlaces (.finite negative m) ≤ k ↔
      ∃ i : Int, (finite negative m).IsRounding (i / 10 ^ k) := by
  rw [decimalPlaces_le_iff_ofRat?]
  constructor
  · rintro ⟨c, reads⟩
    have rounding := isRounding_of_ofRat? (by positivity) reads negative
    cases negative with
    | false => exact ⟨c, rounding⟩
    | true =>
      refine ⟨-c, ?_⟩
      rwa [Int.cast_neg, Int.cast_natCast, neg_div]
  · rintro ⟨i, rounding⟩
    refine ⟨i.natAbs, ?_⟩
    have size : |(i / 10 ^ k : ℚ)| = i.natAbs / 10 ^ k := by
      rw [abs_div, abs_of_pos (by positivity : (0 : ℚ) < 10 ^ k), Nat.cast_natAbs, Int.cast_abs]
    exact size ▸ rounding.ofRat?_abs

theorem decimalPlaces_eq_zero_iff :
    decimalPlaces (.finite negative m) = 0 ↔ m.isIntegral = true :=
  Magnitude.places_shortest_eq_zero_iff (by decide) (by decide)

/-- A number does not have more places than a literal without an exponent that spells it. -/
theorem decimalPlaces_le_of_positional {text : String} {x : Binary64}
    (spelled : parseNumber? text = some x)
    (positional : Literal.Positional k (Text.trimList text.toList)) : decimalPlaces x ≤ k := by
  obtain ⟨negative, coefficient, places, writes, within⟩ := positional.exists_writes
  rw [parseNumber?_of_writes writes] at spelled
  obtain ⟨m, reads, rfl⟩ := Option.map_eq_some_iff.mp spelled
  rw [zpow_neg, zpow_natCast, ← div_eq_mul_inv] at reads
  exact (decimalPlaces_le_iff_ofRat?.mpr ⟨coefficient, reads⟩).trans within

end Places

end Binary

/-! ## Bounds on places -/

/-- Whatever else a coercing chain rejects about a text, it does not reject the places of a number
that has as few as its bounds ask for. -/
theorem Start.kind_ne_decimal {start : Start} {calls : List Call} {builder : Builder}
    (built : start.builder.chain calls = .ok builder) (greedy : calls.any Call.isGreedy = true)
    {text : String} {x : Binary64} (spelled : parseNumber? text = some x)
    (within : ∀ bound ∈ Call.bounds calls, bound.method = .decimal →
      ∀ n, bound.value = .ok n → decimalPlaces x ≤ n) {key : String} {failure : Failure}
    (failed : (builder.pipeline.validate key (some (.string text))).outcome = .failed failure) :
    failure.kind ≠ .decimal := by
  have admitted := Builder.admits_of_chain built
  have found : Call.found calls (.string text) = .number x := by
    rw [Call.found, if_pos greedy, Value.coerced_of_spelled spelled]
  rcases start.exists_bound_of_failed admitted built failed with type | bounded
  · rw [type]
    decide
  · obtain ⟨bound, member, n, given, kind, rejected⟩ := bounded
    rw [kind]
    intro decimal
    have method : bound.method = .decimal := by
      cases method : bound.method <;> rw [method] at decimal <;> first | rfl | cases decimal
    have kept : decide (decimalPlaces x ≤ n) = true :=
      decide_eq_true (within bound member method n given)
    rw [found, method] at rejected
    exact Bool.false_ne_true (rejected.symm.trans kept)

/-- Numbers with a fraction have places, so with none allowed nothing is left. -/
theorem Builder.float_decimal_zero {bound : Numeral} (zero : bound.toBound .decimal = .ok 0) :
    ∃ builder, Builder.float.chain [.decimal bound] = .ok builder ∧ ∀ (key : String) (x : Binary64),
      x.isFinite = true → (builder.pipeline.validate key (some (.number x))).isValid = false := by
  have sized : (Start.refined .float).Sized := trivial
  have given : BoundCall.value ⟨.decimal, bound⟩ = .ok 0 := zero
  obtain ⟨builder, built, verdict⟩ := Start.exists_chain_bound sized (.decimal bound) rfl rfl given
  refine ⟨builder, built, fun key x finite => ?_⟩
  rw [← Bool.not_eq_true, verdict]
  rintro ⟨-, fits, x, ⟨⟩, places⟩
  obtain ⟨_, ⟨⟩, fraction⟩ := fits .float rfl
  cases x with
  | nan | infinity => cases finite
  | finite negative m =>
    rw [Binary.isIntegral, Binary.decimalPlaces_eq_zero_iff.mp (Nat.le_zero.mp places)] at fraction
    cases fraction

namespace Binary

/-- Bounds on decimal places accept the numbers that are written with as few places.

The places are the characters behind the point of the text. There are at most `k` exactly if some
integer over `10 ^ k` is rounded to the number. So a number has no more places than any text
without an exponent that it is read from, and a coercing chain whose bounds on places allow as many
never reports these. The places are none exactly if the fractional part is zero: then the rules on
integers and on no places accept and the one on fractions rejects, and no number passes a chain
that asks for a fraction without places. -/
theorem places_of_rounding (negative : Bool) (m : Magnitude .double) :
    let x : Binary64 := .finite negative m
    decimalPlaces x = ((x.text.toList.dropWhile (· ≠ '.')).drop 1).length ∧
    (∀ k, decimalPlaces x ≤ k ↔ ∃ i : Int, x.IsRounding (i / 10 ^ k)) ∧
    (∀ text k, parseNumber? text = some x →
      Literal.Positional k (Text.trimList text.toList) →
        decimalPlaces x ≤ k ∧
        ∀ (start : Start) calls builder, start.builder.chain calls = .ok builder →
          calls.any Call.isGreedy = true → (∀ n, Call.Sets calls .decimal n → k ≤ n) →
            ∀ key failure, (builder.pipeline.validate key (some (.string text))).outcome =
              .failed failure → failure.kind ≠ .decimal) ∧
    (decimalPlaces x = 0 ↔ Int.fract (withSign negative m.toRat) = 0) ∧
    Rule.isInteger.check (.number x) = (Rule.decimalPlaces 0).check (.number x) ∧
    Rule.isFloat.check (.number x) = !(Rule.decimalPlaces 0).check (.number x) ∧
    ∀ bound : Numeral, bound.toBound .decimal = .ok 0 →
      ∃ builder, Builder.float.chain [.decimal bound] = .ok builder ∧
        ∀ key, (builder.pipeline.validate key (some (.number x))).isValid = false := by
  intro x
  have none : decide (decimalPlaces x ≤ 0) = m.isIntegral := by
    rw [Bool.eq_iff_iff, decide_eq_true_eq, Nat.le_zero]
    exact decimalPlaces_eq_zero_iff
  refine ⟨decimalPlaces_eq x, fun k => decimalPlaces_le_iff, fun text k spelled positional => ?_,
    decimalPlaces_eq_zero_iff.trans (m.isIntegral_iff_fract negative), none.symm,
    congrArg (!·) none.symm, fun bound zero => ?_⟩
  · have within := decimalPlaces_le_of_positional spelled positional
    refine ⟨within, fun start calls builder built greedy bounds key failure failed => ?_⟩
    exact Start.kind_ne_decimal built greedy spelled
      (fun bound member method n given => within.trans (bounds n ⟨bound, member, method, given⟩))
      failed
  · obtain ⟨builder, built, rejects⟩ := Builder.float_decimal_zero zero
    exact ⟨builder, built, fun key => rejects key x rfl⟩

end Binary

/-- The number next to a tenth. Its exact decimal has fifty-five places. -/
def Magnitude.tenth : Magnitude .double where
  significand := 7205759403792794
  exponent := 1018
  significand_lt := by decide
  exponent_le := by decide
  normal := .inr (by decide)

/-- Coerced prices with at most two places. -/
def Call.price : List Call := [.greedy, .float, .decimal (.signed 2)]

/-- A tenth has one place, and written with two it is no failure of a price. -/
theorem Binary.places_of_rounding_tenth :
    parseNumber? " .10" = some (.finite false .tenth) ∧
      Literal.Positional 2 (Text.trimList " .10".toList) ∧
      decimalPlaces (.finite false .tenth) ≤ 2 ∧
      (∃ i : Int, (Binary.finite false .tenth).IsRounding (i / 10 ^ 2)) ∧
      ∃ builder, (Start.digits .number).builder.chain Call.price = .ok builder ∧
        Call.price.any Call.isGreedy = true ∧ (∀ n, Call.Sets Call.price .decimal n → 2 ≤ n) ∧
        ∀ key failure, (builder.pipeline.validate key (some (.string " .10"))).outcome =
          .failed failure → failure.kind ≠ .decimal := by
  have spelled : parseNumber? " .10" = some (.finite false .tenth) := by decide +kernel
  have trimmed : Text.trimList " .10".toList = [] ++ ([] ++ '.' :: ['1', '0']) := by decide +kernel
  have positional : Literal.Positional 2 (Text.trimList " .10".toList) := by
    rw [trimmed]
    exact .parts .none (.point (.inr nofun) nofun (List.all_eq_true.mp rfl)) (by decide)
  have bounds : ∀ n, Call.Sets Call.price .decimal n → 2 ≤ n := by
    rintro n ⟨bound, member, -, given⟩
    cases List.mem_singleton.mp member
    cases given
    decide
  obtain ⟨-, grid, read, -⟩ := Binary.places_of_rounding false .tenth
  obtain ⟨within, silent⟩ := read " .10" 2 spelled positional
  exact ⟨spelled, positional, within, (grid 2).mp within, _, rfl, rfl, bounds,
    silent (.digits .number) Call.price _ rfl rfl bounds⟩

end RecordCheck
