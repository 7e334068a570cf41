import RecordCheck.Coercion
import RecordCheck.Proofs.Number.Grammar
import RecordCheck.Proofs.Number.Order

/-!
# Which texts are numbers

A text is a number exactly if what stands between its white space is a decimal literal whose
value is not beyond the largest number, and it is the number nearest to this value, with the
sign of the literal also where that is zero (`Binary.parseNumber?_decimal`).

The reader knows names of infinity and `nan` besides, but these are not finite. The texts
that are no numbers are told by their characters: a literal has a digit, and nothing in it
but digits, signs, points and the mark of an exponent.
-/

namespace RecordCheck

-- Powers of naturals are the core ones, whatever other instances are in scope.
attribute [local instance (high)] instPowNat

/-! ## The characters of a literal -/

theorem Text.isWhiteSpace_of_isDigit {c : Char} (digit : c.isDigit = true) :
    isWhiteSpace c = false := by
  rw [Char.isDigit_iff_toNat] at digit
  have low : 48 ≤ c.toNat := digit.1
  have high : c.toNat ≤ 57 := digit.2
  rw [Bool.eq_false_iff, isWhiteSpace, ne_eq, inRanges_iff]
  simp only [whiteSpaceRanges, List.mem_cons, List.not_mem_nil, or_false, exists_eq_or_imp,
    exists_eq_left]
  omega

namespace Literal

variable {text : List Char} {negative : Bool} {coefficient : Nat} {exponent : Int}

/-- The characters of literals besides digits. -/
def marks : List Char := ['+', '-', '.', 'e', 'E']

theorem Sign.mem_marks {sign : List Char} (signed : Sign sign negative) :
    ∀ c ∈ sign, c ∈ marks := by
  cases signed <;> simp [marks]

theorem Writes.isDigit_or_mem_marks (writes : Writes text negative coefficient exponent) :
    ∀ c ∈ text, c.isDigit = true ∨ c ∈ marks := by
  obtain ⟨signed, positional, scaled⟩ := writes
  intro c member
  rcases List.mem_append.mp member with sign | member
  · exact .inr (signed.mem_marks c sign)
  · rcases List.mem_append.mp member with fixed | scale
    · cases positional with
      | whole some digits => exact .inl (digits c fixed)
      | point some digits more =>
        rcases List.mem_append.mp fixed with integral | rest
        · exact .inl (digits c integral)
        · rcases List.mem_cons.mp rest with rfl | fraction
          · exact .inr (by decide)
          · exact .inl (more c fraction)
    · cases scaled with
      | none => cases scale
      | power marked signed some all =>
        rcases List.mem_cons.mp scale with rfl | rest
        · rcases marked with rfl | rfl <;> exact .inr (by decide)
        · rcases List.mem_append.mp rest with sign | digit
          · exact .inr (signed.mem_marks c sign)
          · exact .inl (all c digit)

theorem Fixed.exists_digit {fixed : List Char} {places : Nat}
    (positional : Fixed fixed coefficient places) : ∃ c ∈ fixed, c.isDigit = true := by
  cases positional with
  | whole some digits =>
    obtain ⟨c, member⟩ := List.exists_mem_of_ne_nil _ some
    exact ⟨c, member, digits c member⟩
  | point some digits more =>
    rcases some with integral | fraction
    · obtain ⟨c, member⟩ := List.exists_mem_of_ne_nil _ integral
      exact ⟨c, List.mem_append_left _ member, digits c member⟩
    · obtain ⟨c, member⟩ := List.exists_mem_of_ne_nil _ fraction
      exact ⟨c, List.mem_append_right _ (List.mem_cons_of_mem _ member), more c member⟩

theorem Writes.exists_digit (writes : Writes text negative coefficient exponent) :
    ∃ c ∈ text, c.isDigit = true := by
  obtain ⟨signed, positional, scaled⟩ := writes
  obtain ⟨c, member, digit⟩ := positional.exists_digit
  exact ⟨c, List.mem_append_right _ (List.mem_append_left _ member), digit⟩

theorem Writes.isWhiteSpace (writes : Writes text negative coefficient exponent) :
    ∀ c ∈ text, Text.isWhiteSpace c = false := by
  have plain : marks.any Text.isWhiteSpace = false := by decide +kernel
  intro c member
  rcases writes.isDigit_or_mem_marks c member with digit | mark
  · exact Text.isWhiteSpace_of_isDigit digit
  · exact Bool.eq_false_iff.mpr (List.any_eq_false.mp plain c mark)

/-- The names that are read besides decimals, in lower case. -/
def names : List String := ["inf", "infinity", "nan"]

/-- A digit is in no name, in any case. -/
theorem Writes.not_name {sign name : List Char}
    (writes : Writes (sign ++ name) negative coefficient exponent)
    (signed : sign ∈ [[], ['+'], ['-']]) : String.ofList (name.map Char.toLower) ∉ names := by
  have inSign : [[], ['+'], ['-']].all (·.all (!Char.isDigit ·)) = true := rfl
  have inName : names.all (·.toList.all (!Char.isDigit ·)) = true := by decide +kernel
  simp only [List.all_eq_true, Bool.not_eq_true'] at inSign inName
  intro named
  obtain ⟨c, member, digit⟩ := writes.exists_digit
  rcases List.mem_append.mp member with front | back
  · rw [inSign sign signed c front] at digit
    cases digit
  · have lower := List.mem_map_of_mem back (f := Char.toLower)
    rw [toLower_of_isDigit digit, ← String.toList_ofList (l := name.map Char.toLower)] at lower
    rw [inName _ named c lower] at digit
    cases digit

end Literal

/-! ## Reading as rounding -/

namespace Binary

variable {text : String} {negative : Bool} {coefficient : Nat} {exponent : Int}

/-- A decimal literal between white space is rounded, unless it is beyond the largest number. -/
theorem parseNumber?_of_writes
    (writes : Literal.Writes (Text.trimList text.toList) negative coefficient exponent) :
    parseNumber? text =
      (Magnitude.ofRat? (coefficient * 10 ^ exponent)).map (Binary.finite negative) := by
  rw [parseNumber?, read?, Text.trim, String.toList_ofList,
    Literal.parse?_eq_decimal_iff.mpr writes, Option.map_some, Literal.toBinary,
    Magnitude.ofDecimal?_eq_ofRat?]
  cases Magnitude.ofRat? (f := .double) (coefficient * 10 ^ exponent) <;> rfl

theorem exists_writes_of_parseNumber? {x : Binary64} (found : parseNumber? text = some x) :
    ∃ negative coefficient exponent,
      Literal.Writes (Text.trimList text.toList) negative coefficient exponent := by
  obtain ⟨read, finite⟩ := Option.filter_eq_some_iff.mp found
  obtain ⟨literal, parsed, rfl⟩ := Option.map_eq_some_iff.mp read
  rw [Text.trim, String.toList_ofList] at parsed
  cases literal with
  | nan | infinity => cases finite
  | decimal negative coefficient exponent =>
    exact ⟨negative, coefficient, exponent, Literal.parse?_eq_decimal_iff.mp parsed⟩

theorem parseNumber?_eq_some_iff {x : Binary64} : parseNumber? text = some x ↔
    ∃ negative coefficient exponent m,
      Literal.Writes (Text.trimList text.toList) negative coefficient exponent ∧
      Magnitude.ofRat? (coefficient * 10 ^ exponent) = some m ∧ x = .finite negative m := by
  constructor
  · intro found
    obtain ⟨negative, coefficient, exponent, writes⟩ := exists_writes_of_parseNumber? found
    rw [parseNumber?_of_writes writes] at found
    obtain ⟨m, rounded, same⟩ := Option.map_eq_some_iff.mp found
    exact ⟨negative, coefficient, exponent, m, writes, rounded, same.symm⟩
  · rintro ⟨negative, coefficient, exponent, m, writes, rounded, rfl⟩
    rw [parseNumber?_of_writes writes, rounded, Option.map_some]

theorem parseNumber?_eq_none_iff : parseNumber? text = none ↔ ∀ negative coefficient exponent,
    Literal.Writes (Text.trimList text.toList) negative coefficient exponent →
      2 ^ 1024 - 2 ^ 970 ≤ (coefficient * 10 ^ exponent : ℚ) := by
  have beyond (coefficient : Nat) (exponent : Int) :
      2 ^ 1024 - 2 ^ 970 ≤ (coefficient * 10 ^ exponent : ℚ) ↔
        Magnitude.ofRat? (f := .double) (coefficient * 10 ^ exponent) = none := by
    rw [← not_lt, ← Format.limit_double, ← Magnitude.isSome_ofRat?_iff (by positivity),
      Option.not_isSome_iff_eq_none]
  simp only [beyond]
  constructor
  · intro none negative coefficient exponent writes
    rwa [parseNumber?_of_writes writes, Option.map_eq_none_iff] at none
  · intro none
    refine Option.eq_none_iff_forall_ne_some.mpr fun x found => ?_
    obtain ⟨negative, coefficient, exponent, m, writes, rounded, -⟩ :=
      parseNumber?_eq_some_iff.mp found
    rw [none negative coefficient exponent writes] at rounded
    cases rounded

theorem parseNumber?_of_not_writes (other : ∀ negative coefficient exponent,
    ¬ Literal.Writes (Text.trimList text.toList) negative coefficient exponent) :
    parseNumber? text = none :=
  parseNumber?_eq_none_iff.mpr fun negative coefficient exponent writes =>
    absurd writes (other negative coefficient exponent)

/-- The number that a literal spells is the nearest one with the sign of the literal. -/
theorem parseNumber?_eq_some_iff_isNearest {x : Binary64} : parseNumber? text = some x ↔
    ∃ negative coefficient exponent,
      Literal.Writes (Text.trimList text.toList) negative coefficient exponent ∧
      (coefficient * 10 ^ exponent : ℚ) < 2 ^ 1024 - 2 ^ 970 ∧
      ∃ m, x = .finite negative m ∧
        x.IsNearest (withSign negative (coefficient * 10 ^ exponent)) := by
  rw [parseNumber?_eq_some_iff]
  constructor
  · rintro ⟨negative, coefficient, exponent, m, writes, rounded, rfl⟩
    obtain ⟨reached, nearest⟩ := isRounding_of_ofRat? (by positivity) rounded negative
    rw [abs_withSign (by positivity)] at reached
    exact ⟨negative, coefficient, exponent, writes, reached, m, rfl, nearest⟩
  · rintro ⟨negative, coefficient, exponent, writes, reached, m, rfl, nearest⟩
    have nonneg : (0 : ℚ) ≤ coefficient * 10 ^ exponent := by positivity
    rw [← abs_withSign nonneg negative] at reached
    have rounded := (isRounding_withSign_iff nonneg).mp ⟨reached, nearest⟩
    exact ⟨negative, coefficient, exponent, m, writes, rounded, rfl⟩

/-- Up to half the least number above zero everything is rounded to zero. -/
theorem ofRat?_of_le_half {q : ℚ} (nonneg : 0 ≤ q) (small : q ≤ 1 / 2 ^ 1075) :
    Magnitude.ofRat? q = some (Magnitude.zero : Magnitude .double) := by
  have least : Magnitude.ofRat? 0 = some (Magnitude.zero : Magnitude .double) := by
    have zero : (Magnitude.zero : Magnitude .double).toRat = 0 := by simp [Magnitude.toRat]
    exact zero ▸ Magnitude.ofRat?_toRat _
  have half : Magnitude.ofRat? (1 / 2 ^ 1075) = some (Magnitude.zero : Magnitude .double) := by
    have fraction : (1 / 2 ^ 1075 : ℚ) = (1 : ℕ) / (2 ^ 1075 : ℕ) := by
      rw [Nat.cast_one, Nat.cast_pow, Nat.cast_ofNat]
    rw [fraction, Magnitude.ofRat?_div _ (Nat.two_pow_pos _)]
    decide +kernel
  exact Magnitude.ofRat?_of_between (le_refl 0) nonneg (by decide) small least half

/-- Which texts are numbers, and which numbers they are.

A text is a number exactly if it is a decimal literal between white space and the size of the
literal is less than half a step beyond the largest number. The number is the nearest to the
value of the literal and has its sign, which counts also where the number is zero, as it is up to
half the least number above zero. All other texts are no numbers: those without a digit, such as
blank ones, lone signs and points; the names of infinity and `nan` in any case, with a sign or
without; and those with white space inside. -/
theorem parseNumber?_decimal (text : String) :
    let literal := Text.trimList text.toList
    (∀ x : Binary64, parseNumber? text = some x ↔
      ∃ negative coefficient exponent,
        Literal.Writes literal negative coefficient exponent ∧
        (coefficient * 10 ^ exponent : ℚ) < 2 ^ 1024 - 2 ^ 970 ∧
        ∃ m, x = .finite negative m ∧
          x.IsNearest (withSign negative (coefficient * 10 ^ exponent))) ∧
    (parseNumber? text = none ↔ ∀ negative coefficient exponent,
      Literal.Writes literal negative coefficient exponent →
        2 ^ 1024 - 2 ^ 970 ≤ (coefficient * 10 ^ exponent : ℚ)) ∧
    (∀ negative coefficient exponent, Literal.Writes literal negative coefficient exponent →
      (coefficient * 10 ^ exponent : ℚ) ≤ 1 / 2 ^ 1075 →
        parseNumber? text = some (.finite negative .zero)) ∧
    ((∀ c ∈ literal, c.isDigit = false) → parseNumber? text = none) ∧
    (∀ sign name, literal = sign ++ name → sign ∈ [[], ['+'], ['-']] →
      String.ofList (name.map Char.toLower) ∈ ["inf", "infinity", "nan"] →
        parseNumber? text = none) ∧
    ((∃ c ∈ literal, Text.isWhiteSpace c = true) → parseNumber? text = none) := by
  intro literal
  refine ⟨fun x => parseNumber?_eq_some_iff_isNearest, parseNumber?_eq_none_iff, ?_, ?_, ?_, ?_⟩
  · intro negative coefficient exponent writes small
    rw [parseNumber?_of_writes writes, ofRat?_of_le_half (by positivity) small, Option.map_some]
  · intro digitless
    refine parseNumber?_of_not_writes fun negative coefficient exponent writes => ?_
    obtain ⟨c, member, digit⟩ := writes.exists_digit
    rw [digitless c member] at digit
    cases digit
  · intro sign name (parts : Text.trimList text.toList = sign ++ name) signed named
    refine parseNumber?_of_not_writes fun negative coefficient exponent writes => ?_
    rw [parts] at writes
    exact writes.not_name signed named
  · rintro ⟨c, member, white⟩
    refine parseNumber?_of_not_writes fun negative coefficient exponent writes => ?_
    rw [writes.isWhiteSpace c member] at white
    cases white

example : parseNumber? "\t-.5E+1 " = some (.ofInt (-5)) := by decide +kernel

/-- Between a half of the least number above zero and all of it, a literal is not rounded to zero. -/
theorem parseNumber?_below_least :
    Literal.Writes (Text.trimList "3e-324".toList) false 3 (-324) ∧
      ((3 : ℕ) * 10 ^ (-324 : ℤ) : ℚ) < 1 / 2 ^ 1074 ∧
      (∃ m : Magnitude .double, m.toRat = 1 / 2 ^ 1074 ∧
        parseNumber? "3e-324" = some (.finite false m)) ∧
      parseNumber? "3e-324" ≠ some (.finite false .zero) := by
  have writes : Literal.Writes (Text.trimList "3e-324".toList) false 3 (-324) :=
    Literal.parse?_eq_decimal_iff.mp (by decide +kernel)
  have less : ((3 : ℕ) * 10 ^ (-324 : ℤ) : ℚ) < 1 / 2 ^ 1074 := by
    have naturals : 3 * 2 ^ 1074 < 10 ^ 324 := by decide +kernel
    have power : (10 : ℚ) ^ (-324 : ℤ) = 1 / (10 ^ 324 : ℕ) := by
      rw [zpow_neg, one_div, Nat.cast_pow, Nat.cast_ofNat]
      rfl
    rw [power, mul_one_div, div_lt_div_iff₀ (by positivity) (by positivity), one_mul]
    exact_mod_cast naturals
  let least : Magnitude .double := ⟨1, 0, by decide, by decide, .inl rfl⟩
  have read : parseNumber? "3e-324" = some (.finite false least) := by decide +kernel
  refine ⟨writes, less, ⟨least, ?_, read⟩, ?_⟩
  · rw [Magnitude.toRat, show least.units = 1 from rfl, Nat.cast_one]
    rfl
  · rw [read]
    decide

end Binary

end RecordCheck
