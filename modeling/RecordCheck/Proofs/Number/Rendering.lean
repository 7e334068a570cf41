import RecordCheck.Number.Text
import RecordCheck.Proofs.Builder.Run
import RecordCheck.Proofs.Number.Reading

/-!
# Numbers read from their own text

The plain text of a finite number, with white space around it or not, is read back as the
very same number, the sign of zero included (`Binary.rendering_then_coercing`).

The text is a decimal literal without an exponent, laid out so that it spells the shortest
decimal (`Decimal.fixed_positional`), and the value of the shortest decimal is rounded back
to the magnitude that it came from.
-/

namespace RecordCheck

/-! ## White space around a text -/

namespace Text

theorem dropWhile_append_of_neg {p : Char → Bool} {inner : List Char} (rest : List Char)
    (kept : ∀ c ∈ inner, p c = false) (some : inner ≠ []) :
    (inner ++ rest).dropWhile p = inner ++ rest := by
  cases inner with
  | nil => contradiction
  | cons c inner =>
    rw [List.cons_append, List.dropWhile_cons_of_neg]
    rw [kept c List.mem_cons_self]
    exact Bool.false_ne_true

/-- Trimming takes away what was put around a text without white space. -/
theorem trimList_append {left inner right : List Char} (some : inner ≠ [])
    (before : ∀ c ∈ left, isWhiteSpace c = true) (kept : ∀ c ∈ inner, isWhiteSpace c = false)
    (after : ∀ c ∈ right, isWhiteSpace c = true) : trimList (left ++ inner ++ right) = inner := by
  have reversed : inner.reverse ≠ [] := fun empty => some (List.reverse_eq_nil_iff.mp empty)
  rw [trimList, List.append_assoc, List.dropWhile_append_of_pos before,
    dropWhile_append_of_neg right kept some, List.reverse_append,
    List.dropWhile_append_of_pos fun c member => after c (List.mem_reverse.mp member),
    ← List.append_nil inner.reverse,
    dropWhile_append_of_neg [] (fun c member => kept c (List.mem_reverse.mp member)) reversed,
    List.append_nil, List.reverse_reverse]

end Text

/-! ## Plain texts of decimals -/

namespace Literal

theorem digitsValue_eq (digits : List Char) : digitsValue digits = Nat.ofDigitChars 10 digits 0 :=
  Nat.ofDigitChars_eq_foldl.symm

theorem digitsValue_toDigits (n : Nat) : digitsValue (Nat.toDigits 10 n) = n := by
  rw [digitsValue_eq, Nat.ofDigitChars_ten_toDigits]

/-- Zeros in front do not count. -/
theorem digitsValue_zeros_append (n : Nat) (digits : List Char) :
    digitsValue (List.replicate n '0' ++ digits) = digitsValue digits := by
  rw [digitsValue_eq, Nat.ofDigitChars_append, Nat.ofDigitChars_replicate_zero, Nat.mul_zero,
    digitsValue_eq]

end Literal

namespace Decimal

theorem isDigit_of_mem_digits {d : Decimal} : ∀ c ∈ d.digits, c.isDigit = true :=
  fun _ member => Nat.isDigit_of_mem_toDigits (by decide) (by decide) member

theorem toDigits_append_zeros {n : Nat} (positive : 0 < n) (k : Nat) :
    Nat.toDigits 10 n ++ List.replicate k '0' = Nat.toDigits 10 (n * 10 ^ k) := by
  induction k with
  | zero => simp
  | succ k ih =>
    have zero : Nat.toDigits 10 0 = ['0'] := rfl
    rw [List.replicate_succ', ← List.append_assoc, ih, ← zero,
      Nat.toDigits_append_toDigits (by decide)
        (Nat.mul_pos positive (Nat.pow_pos (by decide))) (by decide),
      Nat.add_zero, Nat.pow_succ]
    congr 1
    ring

/-- The text of an integral decimal has the digits of its value. -/
theorem positional_of_nonneg {d : Decimal} (whole : 0 ≤ d.exponent) :
    d.positional = Nat.toDigits 10 (d.coefficient * 10 ^ d.exponent.toNat) := by
  unfold positional
  dsimp only
  rw [if_pos whole]
  split
  · rename_i zero
    rw [digits, zero, Nat.zero_mul]
  · rename_i nonzero
    exact toDigits_append_zeros (Nat.pos_of_ne_zero nonzero) _

/-- With places behind the point, the digits stand around it, or behind it and some zeros. -/
theorem fixed_positional_of_neg {d : Decimal} (fraction : d.exponent < 0) :
    Literal.Fixed d.positional d.coefficient d.places := by
  have value : Literal.digitsValue d.digits = d.coefficient :=
    Literal.digitsValue_toDigits d.coefficient
  unfold positional
  dsimp only
  rw [if_neg (Int.not_le.mpr fraction)]
  split
  · rename_i inside
    have some : d.digits.take (d.digits.length - d.places) ≠ [] := by
      rw [← List.length_pos_iff, List.length_take]
      omega
    have around := Literal.Fixed.point (.inl some)
      (fun c member => d.isDigit_of_mem_digits c (List.mem_of_mem_take member))
      (fun c (member : c ∈ d.digits.drop (d.digits.length - d.places)) =>
        d.isDigit_of_mem_digits c (List.mem_of_mem_drop member))
    rwa [List.take_append_drop, value, List.length_drop, Nat.sub_sub_self inside.le] at around
  · rename_i outside
    have more : ∀ c ∈ List.replicate (d.places - d.digits.length) '0' ++ d.digits,
        c.isDigit = true := by
      intro c member
      rcases List.mem_append.mp member with zero | digit
      · rw [List.eq_of_mem_replicate zero]
        rfl
      · exact d.isDigit_of_mem_digits c digit
    have behind := Literal.Fixed.point (.inl (List.cons_ne_nil '0' [])) (by simp) more
    have leading : ['0'] ++ (List.replicate (d.places - d.digits.length) '0' ++ d.digits) =
        List.replicate (d.places - d.digits.length + 1) '0' ++ d.digits := by
      rw [← List.append_assoc, List.replicate_succ, List.singleton_append]
    rw [leading, Literal.digitsValue_zeros_append, value, List.length_append,
      List.length_replicate, Nat.sub_add_cancel (Nat.le_of_not_lt outside)] at behind
    exact behind

theorem fixed_positional_of_nonneg {d : Decimal} (whole : 0 ≤ d.exponent) :
    Literal.Fixed d.positional (d.coefficient * 10 ^ d.exponent.toNat) 0 := by
  have digits : ∀ c ∈ Nat.toDigits 10 (d.coefficient * 10 ^ d.exponent.toNat),
      c.isDigit = true :=
    fun _ member => Nat.isDigit_of_mem_toDigits (by decide) (by decide) member
  have integral := Literal.Fixed.whole Nat.toDigits_ne_nil digits
  rwa [Literal.digitsValue_toDigits, ← positional_of_nonneg whole] at integral

/-- The positional text of a decimal has its places behind the point, and spells its value. -/
theorem fixed_positional (d : Decimal) : ∃ coefficient : Nat,
    Literal.Fixed d.positional coefficient d.places ∧
      (coefficient * 10 ^ (-(d.places : Int)) : ℚ) = d.coefficient * 10 ^ d.exponent := by
  rcases Int.lt_or_le d.exponent 0 with fraction | whole
  · have places : -(d.places : Int) = d.exponent := by
      unfold places
      omega
    exact ⟨_, fixed_positional_of_neg fraction, by rw [places]⟩
  · have places : d.places = 0 := by
      unfold places
      omega
    refine ⟨_, places ▸ fixed_positional_of_nonneg whole, ?_⟩
    obtain ⟨k, power⟩ := Int.eq_ofNat_of_zero_le whole
    rw [places, power, Int.toNat_natCast, Nat.cast_mul, Nat.cast_pow, Nat.cast_ofNat, zpow_natCast,
      Nat.cast_zero, neg_zero, zpow_zero, mul_one]

end Decimal

/-! ## Numbers and their texts -/

namespace Magnitude

/-- The value of the shortest decimal is rounded to the magnitude. -/
theorem ofRat?_shortest {f : Format} (m : Magnitude f) :
    ofRat? (m.shortest.coefficient * 10 ^ m.shortest.exponent) = some m :=
  readsBack_iff.mp m.readsBack_shortest

end Magnitude

namespace Binary

/-- The text of a finite number between white space is read as this number. -/
theorem parseNumber?_text {x : Binary64} (finite : x.isFinite = true) {left right : String}
    (before : ∀ c ∈ left.toList, Text.isWhiteSpace c = true)
    (after : ∀ c ∈ right.toList, Text.isWhiteSpace c = true) :
    parseNumber? (left ++ x.text ++ right) = some x := by
  cases x with
  | nan => cases finite
  | infinity negative => cases finite
  | finite negative m =>
    obtain ⟨coefficient, positional, value⟩ := m.shortest.fixed_positional
    have signed : Literal.Sign (if negative then ['-'] else []) negative := by
      cases negative with
      | false => exact .none
      | true => exact .minus
    have writes := Literal.Writes.parts signed positional .none
    rw [List.append_nil, Int.zero_sub] at writes
    obtain ⟨d, digit, -⟩ := writes.exists_digit
    have trimmed : Text.trimList (left ++ (Binary.finite negative m).text ++ right).toList =
        (if negative then ['-'] else []) ++ m.shortest.positional := by
      rw [text, textWith, String.toList_append, String.toList_append, String.toList_ofList]
      exact Text.trimList_append (List.ne_nil_of_mem digit) before writes.isWhiteSpace after
    rw [parseNumber?_of_writes (trimmed ▸ writes), value, m.ofRat?_shortest, Option.map_some]

/-- Rendering a finite number and coercing its text gives the number itself, bit by bit.

The text may stand between white space. A chain that asks for numbers and for coercion accepts
it with the number as the final value, so every finite number is what some string is coerced to. -/
theorem rendering_then_coercing {x : Binary64} (finite : x.isFinite = true) {left right : String}
    (before : ∀ c ∈ left.toList, Text.isWhiteSpace c = true)
    (after : ∀ c ∈ right.toList, Text.isWhiteSpace c = true) :
    parseNumber? (left ++ x.text ++ right) = some x ∧
    (∃ builder, Builder.number.chain [.greedy] = .ok builder ∧ ∀ key,
      builder.pipeline.validate key (some (.string (left ++ x.text ++ right))) =
        ⟨key, some (.number x), .valid⟩) ∧
    ∃ value, Transform.numericCoercion.replace? value = some (.number x) := by
  have spelled := parseNumber?_text finite before after
  generalize left ++ x.text ++ right = text at spelled ⊢
  have coerced : Transform.numericCoercion.replace? (.string text) = some (.number x) := by
    simp only [Transform.numericCoercion, coerceNumber?, Value.string?, Option.bind_some, spelled,
      Option.map_some]
  let steps : List Step := [.replace .numericCoercion, .check (.typeMatch .number)]
  refine ⟨spelled, ⟨⟨.digits .number, ⟨false, steps⟩⟩, rfl, fun key => ?_⟩, .string text, coerced⟩
  have shape : steps =
      List.replicate 1 (.replace .numericCoercion) ++ [Rule.typeMatch .number].map .check := rfl
  have checked : (Value.string text).coercedBy 1 = .number x := by
    rw [Value.coercedBy, if_neg (by decide), Value.coerced_of_spelled spelled]
  rw [Pipeline.validate_some, shape, Step.run_coercions_checks, checked]
  have accepted : (Rule.typeMatch .number).check (.number x) = true := rfl
  exact Step.apply_of_accepted accepted

/-- A number that is not the integer that its text spells, between a tab and a line end. -/
theorem rendering_then_coercing_largeInteger :
    let x : Binary64 := .ofInt (-99999999999999991611392)
    x.text = "-100000000000000000000000" ∧ parseNumber? ("\t" ++ x.text ++ "\n") = some x := by
  intro x
  have finite : x.isFinite = true := by decide +kernel
  have before : ∀ c ∈ "\t".toList, Text.isWhiteSpace c = true := List.all_eq_true.mp rfl
  have after : ∀ c ∈ "\n".toList, Text.isWhiteSpace c = true := List.all_eq_true.mp rfl
  exact ⟨by decide +kernel, (rendering_then_coercing finite before after).1⟩

end Binary

end RecordCheck
