import Mathlib.Data.List.TakeWhile
import RecordCheck.Number.Literal

/-!
# The grammar of decimal literals

`Literal.parse?` reads a text from the left: a sign, digits with a point, an exponent. The
grammar says the same by the parts that a literal is put together from (`Literal.Writes`),
and the two agree on every text (`Literal.parse?_eq_decimal_iff`).

Each part is read to where the next one begins, so it matters that no part can go on with
the character that begins the next: digits stop before a point and before the mark of an
exponent, and neither a digit nor a point is a sign.
-/

namespace RecordCheck.Literal

/-! ## The parts of a literal -/

/-- A sign or none; without one a number is not negative. -/
inductive Sign : List Char → Bool → Prop
  | none : Sign [] false
  | plus : Sign ['+'] false
  | minus : Sign ['-'] true

/-- Digits with a point before, among or behind them, or without one. They spell an integer
together, and so many of them stand behind the point. -/
inductive Fixed : List Char → Nat → Nat → Prop
  | whole {integral : List Char} (some : integral ≠ [])
    (digits : ∀ c ∈ integral, c.isDigit = true) : Fixed integral (digitsValue integral) 0
  | point {integral fraction : List Char} (some : integral ≠ [] ∨ fraction ≠ [])
    (digits : ∀ c ∈ integral, c.isDigit = true) (more : ∀ c ∈ fraction, c.isDigit = true) :
    Fixed (integral ++ '.' :: fraction) (digitsValue (integral ++ fraction)) fraction.length

/-- Nothing, or the letter `e` in either case with an integer behind it. -/
inductive Scale : List Char → Int → Prop
  | none : Scale [] 0
  | power {mark : Char} {sign digits : List Char} {negative : Bool}
    (marked : mark = 'e' ∨ mark = 'E') (signed : Sign sign negative) (some : digits ≠ [])
    (all : ∀ c ∈ digits, c.isDigit = true) :
    Scale (mark :: (sign ++ digits))
      (if negative then -(digitsValue digits : Int) else digitsValue digits)

/-- The text is a decimal literal with this sign and the exact size
`coefficient * 10 ^ exponent`. -/
inductive Writes : List Char → Bool → Nat → Int → Prop
  | parts {sign fixed scale : List Char} {negative : Bool} {coefficient places : Nat} {power : Int}
    (signed : Sign sign negative) (positional : Fixed fixed coefficient places)
    (scaled : Scale scale power) :
    Writes (sign ++ (fixed ++ scale)) negative coefficient (power - places)

/-! ## What the parts begin with -/

theorem Fixed.exists_cons {text : List Char} {coefficient places : Nat}
    (fixed : Fixed text coefficient places) :
    ∃ c rest, text = c :: rest ∧ (c.isDigit = true ∨ c = '.') := by
  cases fixed with
  | whole some digits =>
    obtain ⟨c, rest, rfl⟩ := List.exists_cons_of_ne_nil some
    exact ⟨c, rest, rfl, .inl (digits c List.mem_cons_self)⟩
  | @point integral fraction some digits more =>
    cases integral with
    | nil => exact ⟨'.', fraction, rfl, .inr rfl⟩
    | cons c rest => exact ⟨c, _, rfl, .inl (digits c List.mem_cons_self)⟩

theorem Scale.not_isDigit_head {text : List Char} {power : Int} (scale : Scale text power) :
    ∀ c ∈ text.head?, c.isDigit = false ∧ c ≠ '.' := by
  intro c first
  cases scale with
  | none => cases first
  | power marked signed some all =>
    cases first
    rcases marked with rfl | rfl <;> decide

/-! ## Spans -/

theorem spanSign_append {sign rest : List Char} {negative : Bool} (signed : Sign sign negative)
    (plain : ∀ c ∈ rest.head?, c ≠ '+' ∧ c ≠ '-') : spanSign (sign ++ rest) = (negative, rest) := by
  cases signed with
  | plus | minus => rfl
  | none =>
    rw [List.nil_append]
    unfold spanSign
    split
    · exact absurd rfl (plain _ rfl).1
    · exact absurd rfl (plain _ rfl).2
    · rfl

theorem exists_sign_append (text : List Char) :
    ∃ sign, Sign sign (spanSign text).1 ∧ text = sign ++ (spanSign text).2 := by
  unfold spanSign
  split
  · exact ⟨_, .plus, rfl⟩
  · exact ⟨_, .minus, rfl⟩
  · exact ⟨_, .none, rfl⟩

theorem spanDigits_append {digits rest : List Char} (all : ∀ c ∈ digits, c.isDigit = true)
    (stop : ∀ c ∈ rest.head?, c.isDigit = false) : spanDigits (digits ++ rest) = (digits, rest) := by
  rw [spanDigits, List.takeWhile_append_of_pos all, List.dropWhile_append_of_pos all]
  cases rest with
  | nil => rw [List.takeWhile_nil, List.dropWhile_nil, List.append_nil]
  | cons c rest =>
    have other : ¬ c.isDigit = true := by rw [stop c rfl]; exact Bool.false_ne_true
    rw [List.takeWhile_cons_of_neg other, List.dropWhile_cons_of_neg other, List.append_nil]

theorem exists_digits_append (text : List Char) :
    (∀ c ∈ (spanDigits text).1, c.isDigit = true) ∧
      text = (spanDigits text).1 ++ (spanDigits text).2 :=
  ⟨fun _ member => List.mem_takeWhile_imp member, List.takeWhile_append_dropWhile.symm⟩

/-- Digits do not begin with a sign. -/
theorem not_sign_of_isDigit {c : Char} (digit : c.isDigit = true ∨ c = '.') :
    c ≠ '+' ∧ c ≠ '-' := by
  constructor
  all_goals
    rintro rfl
    rcases digit with digit | digit <;> cases digit

/-! ## The exponent -/

theorem parseExponent?_of_scale {text : List Char} {power : Int} (scale : Scale text power) :
    parseExponent? text = some power := by
  cases scale with
  | none => rfl
  | @power mark sign digits negative marked signed some all =>
    have plain : ∀ c ∈ digits.head?, c ≠ '+' ∧ c ≠ '-' := fun c first =>
      not_sign_of_isDigit (.inl (all c (List.mem_of_mem_head? first)))
    have whole : ¬ (digits.isEmpty = true ∨ (!digits.all Char.isDigit) = true) := by
      simpa [some] using all
    unfold parseExponent?
    dsimp only
    rw [if_pos marked, spanSign_append signed plain]
    dsimp only
    rw [if_neg whole]

theorem scale_of_parseExponent? {text : List Char} {power : Int}
    (read : parseExponent? text = some power) : Scale text power := by
  unfold parseExponent? at read
  split at read
  · cases read
    exact .none
  · rename_i mark rest
    split at read
    · rename_i marked
      obtain ⟨sign, signed, parts⟩ := exists_sign_append rest
      dsimp only at read
      split at read
      · cases read
      · rename_i whole
        rw [not_or, List.isEmpty_iff, Bool.not_eq_true', Bool.not_eq_false, List.all_eq_true]
          at whole
        rw [parts, ← Option.some.inj read]
        exact .power marked signed whole.1 whole.2
    · cases read

/-! ## Digits and exponent -/

theorem parseDecimal?_of_parts {fixed scale : List Char} {coefficient places : Nat} {power : Int}
    (positional : Fixed fixed coefficient places) (scaled : Scale scale power) (negative : Bool) :
    parseDecimal? negative (fixed ++ scale) =
      some (.decimal negative coefficient (power - places)) := by
  have stop := scaled.not_isDigit_head
  have read := parseExponent?_of_scale scaled
  cases positional with
  | whole some digits =>
    have span := spanDigits_append digits fun c first => (stop c first).1
    have noPoint : spanFraction scale = ([], scale) := by
      unfold spanFraction
      split
      · exact absurd rfl (stop _ rfl).2
      · rfl
    simp [parseDecimal?, span, noPoint, some, read]
  | @point integral fraction some digits more =>
    have span : spanDigits (integral ++ '.' :: (fraction ++ scale)) =
        (integral, '.' :: (fraction ++ scale)) :=
      spanDigits_append digits fun c first => by cases first; rfl
    have behind : spanFraction ('.' :: (fraction ++ scale)) = (fraction, scale) :=
      spanDigits_append more fun c first => (stop c first).1
    have present : ¬ (integral = [] ∧ fraction = []) := not_and_or.mpr some
    simp [parseDecimal?, span, behind, present, read]

/-- The fraction is nothing, or stands behind a point. -/
theorem fixed_spanFraction {integral rest : List Char}
    (digits : ∀ c ∈ integral, c.isDigit = true)
    (some : integral ≠ [] ∨ (spanFraction rest).1 ≠ []) :
    ∃ fixed, integral ++ rest = fixed ++ (spanFraction rest).2 ∧
      Fixed fixed (digitsValue (integral ++ (spanFraction rest).1)) (spanFraction rest).1.length := by
  unfold spanFraction at some ⊢
  split at some
  · rename_i rest
    obtain ⟨more, parts⟩ := exists_digits_append rest
    refine ⟨integral ++ '.' :: (spanDigits rest).1, ?_, .point some digits more⟩
    rw [List.append_assoc, List.cons_append, ← parts]
  · refine ⟨integral, rfl, ?_⟩
    rw [List.append_nil]
    exact .whole (some.resolve_right (absurd rfl)) digits

theorem exists_parts_of_parseDecimal? {negative : Bool} {text : List Char} {literal : Literal}
    (read : parseDecimal? negative text = some literal) :
    ∃ (fixed scale : List Char) (coefficient places : Nat) (power : Int), text = fixed ++ scale ∧
      Fixed fixed coefficient places ∧ Scale scale power ∧
      literal = .decimal negative coefficient (power - places) := by
  obtain ⟨digits, front⟩ := exists_digits_append text
  unfold parseDecimal? at read
  dsimp only at read
  split at read
  · cases read
  · rename_i present
    obtain ⟨power, scaled, literal⟩ := Option.bind_eq_some_iff.mp read
    rw [List.isEmpty_iff, List.isEmpty_iff, not_and_or] at present
    obtain ⟨fixed, parts, positional⟩ := fixed_spanFraction digits present
    refine ⟨fixed, _, _, _, power, front.trans parts, positional, scale_of_parseExponent? scaled, ?_⟩
    exact (Option.some.inj literal).symm

/-! ## Whole literals -/

theorem toLower_of_isDigit {c : Char} (digit : c.isDigit = true) : c.toLower = c := by
  have high : c.toNat ≤ 57 := (Char.isDigit_iff_toNat.mp digit).2
  refine dif_neg fun letter => ?_
  have low : 65 ≤ c.toNat := UInt32.le_iff_toNat_le.mp letter.1
  omega

/-- Neither a digit nor a point begins a name, in any case. -/
theorem map_toLower_ne_of_isDigit {c : Char} {rest : List Char}
    (first : c.isDigit = true ∨ c = '.') {letter : Char} {more : List Char}
    (other : letter.isDigit = false ∧ letter ≠ '.') :
    (c :: rest).map Char.toLower ≠ letter :: more := by
  intro same
  have lower : c.toLower = letter := (List.cons.inj same).1
  rcases first with digit | rfl
  · rw [toLower_of_isDigit digit] at lower
    rw [lower, other.1] at digit
    cases digit
  · exact other.2 lower.symm

theorem parse?_of_parts {sign fixed scale : List Char} {negative : Bool} {coefficient places : Nat}
    {power : Int} (signed : Sign sign negative) (positional : Fixed fixed coefficient places)
    (scaled : Scale scale power) :
    parse? (sign ++ (fixed ++ scale)) = some (.decimal negative coefficient (power - places)) := by
  obtain ⟨c, rest, rfl, first⟩ := positional.exists_cons
  have plain : ∀ d ∈ (c :: rest ++ scale).head?, d ≠ '+' ∧ d ≠ '-' := by
    rintro d ⟨⟩
    exact not_sign_of_isDigit first
  unfold parse?
  rw [spanSign_append signed plain]
  dsimp only
  rw [parseDecimal?_of_parts positional scaled negative]
  split
  · rename_i nan
    exact absurd nan (map_toLower_ne_of_isDigit first (by decide))
  · split
    · rename_i name
      rcases name with inf | infinity
      · exact absurd inf (map_toLower_ne_of_isDigit first (by decide))
      · exact absurd infinity (map_toLower_ne_of_isDigit first (by decide))
    · rfl

theorem writes_of_parse? {text : List Char} {negative : Bool} {coefficient : Nat} {exponent : Int}
    (read : parse? text = some (.decimal negative coefficient exponent)) :
    Writes text negative coefficient exponent := by
  obtain ⟨sign, signed, front⟩ := exists_sign_append text
  unfold parse? at read
  dsimp only at read
  generalize (spanSign text).1 = minus at *
  generalize (spanSign text).2 = behind at *
  split at read
  · cases read
  · split at read
    · cases read
    · obtain ⟨fixed, scale, value, places, power, rfl, positional, scaled, same⟩ :=
        exists_parts_of_parseDecimal? read
      cases same
      rw [front]
      exact .parts signed positional scaled

/-- A text is read as a decimal exactly if it is a decimal literal, and as the one it is. -/
theorem parse?_eq_decimal_iff {text : List Char} {negative : Bool} {coefficient : Nat}
    {exponent : Int} : parse? text = some (.decimal negative coefficient exponent) ↔
      Writes text negative coefficient exponent :=
  ⟨writes_of_parse?, fun ⟨signed, positional, scaled⟩ => parse?_of_parts signed positional scaled⟩

end RecordCheck.Literal
