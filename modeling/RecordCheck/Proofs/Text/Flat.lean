import Mathlib.Tactic.SplitIfs
import RecordCheck.Value.Text

/-!
# Flat texts

A flat text holds no control and no separator of lines or paragraphs, so whoever
shows it shows one line. Numbers and points in time are flat because their texts
are made of a few ASCII characters, and quoted texts are flat whatever they quote,
because all characters that are not flat are written by their numbers
(`Text.flat_quoted`). So the detailed text of every value is flat
(`Value.flat_detailed`): all that a caller chose stands in it quoted.

Flat texts joined by line breaks have themselves as their lines
(`Text.lines_intercalate`).
-/

namespace RecordCheck

namespace Text

/-! ## Flat characters -/

/-- Whether the character is a control, or separates lines or paragraphs. -/
def breaksLine (c : Char) : Bool := inRanges [(0x0, 0x1f), (0x7f, 0x9f), (0x2028, 0x2029)] c

/-- No character is a control, or separates lines or paragraphs. -/
def Flat (characters : List Char) : Prop := ∀ c ∈ characters, breaksLine c = false

instance (characters : List Char) : Decidable (Flat characters) :=
  List.decidableBAll (fun c => breaksLine c = false) characters

variable {front back : List Char}

@[simp] theorem flat_nil : Flat [] := nofun

@[simp] theorem flat_append : Flat (front ++ back) ↔ Flat front ∧ Flat back :=
  List.forall_mem_append

theorem flat_cons {c : Char} : Flat (c :: back) ↔ breaksLine c = false ∧ Flat back :=
  List.forall_mem_cons

theorem Flat.of_subset (flat : Flat back) (subset : front ⊆ back) : Flat front :=
  fun c member => flat c (subset member)

theorem flat_replicate {c : Char} (flat : breaksLine c = false) (n : Nat) :
    Flat (List.replicate n c) := by
  intro other member
  rw [List.eq_of_mem_replicate member]
  exact flat

theorem flat_intercalate {separator : String} {texts : List String}
    (between : Flat separator.toList) (each : ∀ text ∈ texts, Flat text.toList) :
    Flat (separator.intercalate texts).toList := by
  rw [String.toList_intercalate]
  induction texts with
  | nil => exact flat_nil
  | cons text rest ih =>
    have others := ih fun other member => each other (List.mem_cons_of_mem _ member)
    have first := each text List.mem_cons_self
    cases rest with
    | nil => simpa using first
    | cons next rest =>
      rw [List.map_cons, List.map_cons, List.intercalate_cons_cons]
      exact flat_append.mpr ⟨flat_append.mpr ⟨first, between⟩, others⟩

/-! ## Digits -/

theorem breaksLine_digitChar {n : Nat} (small : n < 16) : breaksLine (Nat.digitChar n) = false := by
  have all : ∀ n < 16, breaksLine (Nat.digitChar n) = false := by decide
  exact all n small

theorem flat_toDigits {base : Nat} (two : 1 < base) (small : base ≤ 16) (n : Nat) :
    Flat (Nat.toDigits base n) := by
  induction n using Nat.strongRecOn with
  | ind n ih =>
    rw [Nat.toDigits_eq_if two]
    split
    · next single =>
      exact flat_cons.mpr ⟨breaksLine_digitChar (Nat.lt_of_lt_of_le single small), flat_nil⟩
    · next several =>
      have positive : 0 < n := by omega
      have last : n % base < 16 := Nat.lt_of_lt_of_le (Nat.mod_lt n (by omega)) small
      exact flat_append.mpr ⟨ih (n / base) (Nat.div_lt_self positive two),
        flat_cons.mpr ⟨breaksLine_digitChar last, flat_nil⟩⟩

theorem flat_toString_nat (n : Nat) : Flat (toString n).toList := by
  rw [Nat.toString_eq_ofList_toDigits, String.toList_ofList]
  exact flat_toDigits (by decide) (by decide) n

theorem flat_toString_int (n : Int) : Flat (toString n).toList := by
  cases n with
  | ofNat n => exact flat_toString_nat n
  | negSucc n =>
    show Flat ("-" ++ toString (n + 1)).toList
    rw [String.toList_append]
    exact flat_append.mpr ⟨by decide, flat_toString_nat (n + 1)⟩

/-! ## Quoted texts -/

/-- Controls and separators are written by their numbers. -/
theorem isHidden_of_breaksLine {c : Char} (breaks : breaksLine c = true) : isHidden c = true := by
  simp only [breaksLine, inRanges_iff, List.mem_cons, List.not_mem_nil, or_false,
    exists_eq_or_imp, exists_eq_left] at breaks
  have hidden : isUnprintable c = true := by
    rw [isUnprintable, inRanges_iff]
    rcases breaks with low | high | separator
    · exact ⟨(0x0, 0x1f), by decide, low⟩
    · exact ⟨(0x7f, 0xa0), by decide, by omega⟩
    · exact ⟨(0x2028, 0x202f), by decide, by omega⟩
  have outside : ¬ (0x20 ≤ c.toNat ∧ c.toNat < 0x7f) := by omega
  rw [isHidden, if_neg outside, hidden]
  rfl

theorem flat_numericEscape (c : Char) : Flat (numericEscape c) := by
  unfold numericEscape
  exact flat_append.mpr ⟨flat_append.mpr ⟨by decide, flat_toDigits (by decide) (by decide) _⟩,
    by decide⟩

theorem flat_escapeChar (c : Char) : Flat (escapeChar c) := by
  unfold escapeChar
  split_ifs with _ _ _ _ _ _ hidden
  any_goals decide
  · exact flat_numericEscape c
  · have plain : breaksLine c = false :=
      Bool.eq_false_iff.mpr fun breaks => hidden (isHidden_of_breaksLine breaks)
    exact flat_cons.mpr ⟨plain, flat_nil⟩

/-- A quoted text is flat, whatever text it quotes. -/
theorem flat_quoted (text : String) : Flat (quoted text).toList := by
  rw [quoted, String.toList_ofList]
  refine flat_cons.mpr ⟨by decide, flat_append.mpr ⟨?_, by decide⟩⟩
  intro c member
  obtain ⟨original, -, escaped⟩ := List.mem_flatMap.mp member
  exact flat_escapeChar original c escaped

/-! ## Lines -/

/-- The lines of a text, taken apart at its line breaks. -/
def lines (text : String) : List String := (text.toList.splitOn '\n').map String.ofList

/-- Flat texts joined by line breaks are the lines of what they are joined to. -/
theorem lines_intercalate {texts : List String} (some : texts ≠ [])
    (each : ∀ text ∈ texts, Flat text.toList) : lines ("\n".intercalate texts) = texts := by
  have unbroken : ∀ characters ∈ texts.map String.toList, '\n' ∉ characters := by
    intro characters member broken
    obtain ⟨text, there, rfl⟩ := List.mem_map.mp member
    have flat := each text there '\n' broken
    exact absurd flat (by decide)
  have several : texts.map String.toList ≠ [] := fun none => some (List.map_eq_nil_iff.mp none)
  have break_ : "\n".toList = ['\n'] := by decide
  rw [lines, String.toList_intercalate, break_, List.splitOn_intercalate _ unbroken several,
    List.map_map]
  exact (List.map_congr_left fun text _ => String.ofList_toList).trans texts.map_id

end Text

/-! ## Numbers -/

section Numbers

open Text

theorem Decimal.flat_digits (d : Decimal) : Flat d.digits :=
  flat_toDigits (by decide) (by decide) d.coefficient

theorem Decimal.flat_positional (d : Decimal) : Flat d.positional := by
  have digits := d.flat_digits
  have zeros := flat_replicate (c := '0') (by decide)
  unfold Decimal.positional
  dsimp only
  split
  · split
    · exact digits
    · exact flat_append.mpr ⟨digits, zeros _⟩
  · split
    · refine flat_append.mpr ⟨digits.of_subset (List.take_subset _ _), flat_cons.mpr ⟨by decide, ?_⟩⟩
      exact digits.of_subset (List.drop_subset _ _)
    · exact flat_cons.mpr ⟨by decide,
        flat_cons.mpr ⟨by decide, flat_append.mpr ⟨zeros _, digits⟩⟩⟩

theorem Decimal.flat_scientific (d : Decimal) : Flat d.scientific := by
  have digits := d.flat_digits
  have fraction := digits.of_subset (List.drop_subset 1 _)
  unfold Decimal.scientific
  dsimp only
  refine flat_append.mpr ⟨flat_append.mpr ⟨digits.of_subset (List.take_subset 1 _), ?_⟩,
    flat_cons.mpr ⟨by decide, flat_toString_int d.leading⟩⟩
  split
  · exact flat_nil
  · exact flat_cons.mpr ⟨by decide, fraction⟩

theorem Decimal.flat_detailed (d : Decimal) : Flat d.detailed := by
  unfold Decimal.detailed
  split
  · exact d.flat_scientific
  · split
    · exact flat_append.mpr ⟨d.flat_positional, by decide⟩
    · exact d.flat_positional

theorem Binary.flat_detailedText {f : Format} (x : Binary f) : Flat x.detailedText.toList := by
  have names : Flat "NaN".toList ∧ Flat "inf".toList ∧ Flat "-inf".toList := by decide
  cases x with
  | nan => exact names.1
  | infinity negative =>
    cases negative with
    | false => exact names.2.1
    | true => exact names.2.2
  | finite negative m =>
    rw [Binary.detailedText, Binary.textWith, String.toList_ofList]
    exact flat_append.mpr ⟨by cases negative <;> decide, m.shortest.flat_detailed⟩

end Numbers

/-! ## Points in time -/

namespace Timestamp

open Text

theorem flat_padded (width n : Nat) : Flat (padded width n).toList := by
  rw [padded, String.toList_ofList]
  exact flat_append.mpr ⟨flat_replicate (by decide) _, flat_toDigits (by decide) (by decide) n⟩

theorem flat_yearText (year : Int) : Flat (yearText year).toList := by
  unfold yearText
  split
  · exact flat_padded 4 _
  · rw [String.toList_append]
    exact flat_append.mpr ⟨by split <;> decide, flat_padded 4 _⟩

theorem flat_dateText (date : CalendarDate) : Flat (dateText date).toList := by
  have dash : Flat "-".toList := by decide
  simp only [dateText, String.toList_append, flat_append, flat_yearText, flat_padded, dash,
    and_self]

theorem flat_secondText (t : Timestamp) : Flat t.secondText.toList := by
  have marks : Flat "T".toList ∧ Flat ":".toList := by decide
  simp only [secondText, String.toList_append, flat_append, flat_dateText, flat_padded, marks,
    and_self]

theorem flat_fractionText (nanoseconds : Nat) : Flat (fractionText nanoseconds).toList := by
  have point : Flat ".".toList := by decide
  have empty : Flat "".toList := by decide
  unfold fractionText
  split_ifs <;>
    simp only [String.toList_append, flat_append, flat_padded, point, empty, and_self]

theorem flat_exactText (t : Timestamp) : Flat t.exactText.toList := by
  have zone : Flat "Z".toList := by decide
  simp only [exactText, String.toList_append, flat_append, flat_secondText, flat_fractionText,
    zone, and_self]

end Timestamp

/-! ## Values -/

section Values

open Text

theorem flat_commaSeparated {texts : List String} (each : ∀ text ∈ texts, Flat text.toList) :
    Flat (commaSeparated texts).toList :=
  flat_intercalate (by decide) each

theorem flat_detailedCall {name argument : String} (before : Flat name.toList)
    (inside : Flat argument.toList) : Flat (detailedCall name argument).toList := by
  have marks : Flat "(".toList ∧ Flat ")".toList := by decide
  simp only [detailedCall, String.toList_append, flat_append, before, inside, marks, and_self]

theorem flat_detailedRecord {name : String} {fields : List (String × String)}
    (before : Flat name.toList)
    (inside : ∀ field ∈ fields, Flat field.1.toList ∧ Flat field.2.toList) :
    Flat (detailedRecord name fields).toList := by
  have marks : Flat " \x7b ".toList ∧ Flat " \x7d".toList ∧ Flat ": ".toList := by decide
  have listed : Flat (commaSeparated (fields.map fun field => field.1 ++ ": " ++ field.2)).toList := by
    refine flat_commaSeparated fun text member => ?_
    obtain ⟨field, there, rfl⟩ := List.mem_map.mp member
    simp only [String.toList_append, flat_append, inside field there, marks, and_self]
  simp only [detailedRecord, String.toList_append, flat_append, before, listed, marks, and_self]

theorem flat_detailedOption {text : Option String} (inside : ∀ some ∈ text, Flat some.toList) :
    Flat (detailedOption text).toList := by
  cases text with
  | none => decide
  | some text => exact flat_detailedCall (by decide) (inside text rfl)

theorem flat_quotedOption (text : Option String) :
    Flat (detailedOption (text.map quoted)).toList := by
  refine flat_detailedOption fun shown member => ?_
  obtain ⟨original, -, rfl⟩ := Option.map_eq_some_iff.mp member
  exact flat_quoted original

theorem Callable.flat_detailed (f : Callable) : Flat f.detailed.toList := by
  refine flat_detailedRecord (by decide) ?_
  simp only [List.forall_mem_cons]
  exact ⟨⟨by decide, flat_quotedOption f.name⟩, ⟨by decide, flat_quoted _⟩, nofun⟩

theorem Symbol.flat_detailed (s : Symbol) : Flat s.detailed.toList := by
  refine flat_detailedRecord (by decide) ?_
  simp only [List.forall_mem_cons]
  exact ⟨⟨by decide, flat_toString_nat _⟩, ⟨by decide, flat_quotedOption s.description⟩, nofun⟩

namespace Value

mutual

/-- The detailed text of a value is flat, whatever strings, keys, patterns, names and
descriptions the value holds. -/
theorem flat_detailed : (value : Value) → Flat value.detailed.toList
  | .null => by decide
  | .boolean b => by cases b <;> decide
  | .number x => flat_detailedCall (by decide) x.flat_detailedText
  | .string s => flat_detailedCall (by decide) (flat_quoted s)
  | .array items => by
    have marks : Flat "[".toList ∧ Flat "]".toList := by decide
    refine flat_detailedCall (by decide) ?_
    simp only [String.toList_append, flat_append, marks, true_and, and_true]
    exact flat_commaSeparated (flat_detailedItems items)
  | .object entries => by
    have marks : Flat "\x7b".toList ∧ Flat "\x7d".toList := by decide
    refine flat_detailedCall (by decide) ?_
    simp only [String.toList_append, flat_append, marks, true_and, and_true]
    exact flat_commaSeparated (flat_detailedEntries entries)
  | .regex pattern =>
    flat_detailedCall (by decide) (flat_detailedCall (by decide) (flat_quoted pattern))
  | .date t => flat_detailedCall (by decide) t.flat_exactText
  | .function f => flat_detailedCall (by decide) f.flat_detailed
  | .symbol s => flat_detailedCall (by decide) s.flat_detailed

theorem flat_detailedItems : (items : List Value) →
    ∀ text ∈ detailedItems items, Flat text.toList
  | [] => nofun
  | item :: rest => List.forall_mem_cons.mpr ⟨item.flat_detailed, flat_detailedItems rest⟩

theorem flat_detailedEntries : (entries : List (String × Value)) →
    ∀ text ∈ detailedEntries entries, Flat text.toList
  | [] => nofun
  | (key, value) :: rest => by
    have colon : Flat ": ".toList := by decide
    refine List.forall_mem_cons.mpr ⟨?_, flat_detailedEntries rest⟩
    simp only [String.toList_append, flat_append, flat_quoted, colon, value.flat_detailed,
      and_self]

end

end Value

end Values

end RecordCheck
