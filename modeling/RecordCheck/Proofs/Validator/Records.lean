import Mathlib.Data.List.Basic
import Mathlib.Data.List.Induction
import RecordCheck.Validator
import RecordCheck.Proofs.Validator.FieldResults

/-!
# What a validator sees of a record

A validator asks a record for the fields of its schema and for nothing else, so
two records that agree on these fields get the same report, whatever kinds of
records they are and whatever else they hold (`Validator.validate_congr`).

* Looking a field up in a JSON value and taking it as a value comes to the same
  as taking the whole JSON value as a value and looking the field up there.
* Pairs collected in a map of any kind answer for a key with the last pair that
  has it (`Entries.last?`), so it does not matter which kind collects them.
-/

namespace RecordCheck

/-! ## Records that agree -/

section Agree

variable {ρ σ : Type} [Record ρ] [Record σ]

/-- Under each of the keys both records have the same value, or none. -/
def Record.Agree (keys : List String) (record : ρ) (other : σ) : Prop :=
  ∀ key ∈ keys, Record.field? record key = Record.field? other key

variable (validator : Validator) {record : ρ} {other : σ}

theorem Validator.checkField_congr (run : Validator.Run) {key : String} (pipeline : Pipeline)
    (same : Record.field? record key = Record.field? other key) :
    validator.checkField record run (key, pipeline) =
      validator.checkField other run (key, pipeline) := by
  unfold Validator.checkField
  dsimp only
  rw [same]

/-- Records that agree on the keys of the schema cannot be told apart. -/
theorem Validator.run_congr (agree : Record.Agree validator.schema.keys record other) :
    validator.run record = validator.run other := by
  refine List.foldl_ext _ _ _ fun run field member => ?_
  obtain ⟨key, pipeline⟩ := field
  exact validator.checkField_congr run pipeline (agree key (List.mem_map_of_mem member))

theorem Validator.validate_congr (agree : Record.Agree validator.schema.keys record other) :
    validator.validate record = validator.validate other := by
  unfold Validator.validate
  rw [validator.run_congr agree]

end Agree

/-! ## JSON -/

/-- Taking a field as a value and taking the record as a value commute. -/
theorem Record.field?_ofJson (json : Json) (key : String) :
    Record.field? (Value.ofJson json) key = Record.field? json key := by
  cases json with
  | object members => exact Value.get?_ofJsonMembers key members
  | _ => rfl

theorem Record.field?_of_not_object {json : Json} (other : ∀ members, json ≠ .object members)
    (key : String) : Record.field? json key = none := by
  cases json with
  | object members => exact absurd rfl (other members)
  | _ => rfl

/-! ## Collected pairs -/

namespace Entries

variable {α : Type}

/-- The value of the last pair with the key. -/
def last? (key : String) (pairs : List (String × α)) : Option α := get? key pairs.reverse

/-- To answer with the last pair is to answer nothing without pairs, and after one more pair
with that pair if it has the key. -/
theorem eq_last? {key : String} (read : List (String × α) → Option α) (nil : read [] = none)
    (snoc : ∀ front k value,
      read (front ++ [(k, value)]) = if k = key then some value else read front)
    (pairs : List (String × α)) : read pairs = last? key pairs := by
  unfold last?
  induction pairs using List.reverseRecOn with
  | nil => exact nil
  | append_singleton front entry ih =>
    obtain ⟨k, value⟩ := entry
    rw [snoc, ih, List.reverse_append]
    rfl

end Entries

section Collected

variable (key : String) (pairs : List (String × Value))

theorem Record.field?_orderedMap :
    Record.field? (OrderedMap.ofList pairs) key = Entries.last? key pairs := by
  refine Entries.eq_last? (fun pairs => (OrderedMap.ofList pairs).get? key) rfl ?_ pairs
  intro front k value
  have appended : OrderedMap.ofList (front ++ [(k, value)]) =
      (OrderedMap.ofList front).insert k value := by
    simp only [OrderedMap.ofList, OrderedMap.insert, Entries.ofList, List.foldl_append,
      List.foldl_cons, List.foldl_nil]
  rw [appended, OrderedMap.get?_insert]
  simp only [eq_comm]

theorem Record.field?_ofEntries :
    Record.field? (Value.ofEntries pairs) key = Entries.last? key pairs :=
  Record.field?_orderedMap key pairs

theorem Record.field?_hashMap :
    Record.field? (Std.HashMap.ofList pairs) key = Entries.last? key pairs := by
  refine Entries.eq_last? (fun pairs => (Std.HashMap.ofList pairs)[key]?) ?_ ?_ pairs
  · rw [Std.HashMap.ofList_nil, Std.HashMap.getElem?_empty]
  · intro front k value
    have appended : Std.HashMap.ofList (front ++ [(k, value)]) =
        (Std.HashMap.ofList front).insert k value := by
      simp only [Std.HashMap.ofList_eq_insertMany_empty, Std.HashMap.insertMany_append,
        Std.HashMap.insertMany_list_singleton]
    rw [appended, Std.HashMap.getElem?_insert]
    simp only [beq_iff_eq]

theorem Record.field?_treeMap :
    Record.field? (Std.TreeMap.ofList pairs) key = Entries.last? key pairs := by
  refine Entries.eq_last? (fun pairs => (Std.TreeMap.ofList pairs)[key]?) ?_ ?_ pairs
  · rw [Std.TreeMap.ofList_nil, Std.TreeMap.getElem?_emptyc]
  · intro front k value
    have appended : Std.TreeMap.ofList (front ++ [(k, value)]) =
        (Std.TreeMap.ofList front).insert k value := by
      simp only [Std.TreeMap.ofList_eq_insertMany_empty, Std.TreeMap.insertMany_append,
        Std.TreeMap.insertMany_list_singleton]
    rw [appended, Std.TreeMap.getElem?_insert]
    simp only [Std.LawfulEqCmp.compare_eq_iff_eq]

end Collected

/-! ## Reports -/

/-- The report on a record depends on the registered fields alone.

A JSON value has the fields of the value it is taken for, which are none if it is not an object,
and so it gets the report of that value. Pairs give every field the value of its last pair in
whichever map they are collected, and so all maps of them get one report. Whatever two records
are, they get one report if they agree on the registered keys. -/
theorem Validator.report_of_registered_fields (validator : Validator) :
    (∀ json : Json,
      (∀ key, Record.field? json key = Record.field? (Value.ofJson json) key) ∧
      ((∀ members, json ≠ .object members) → ∀ key,
        Record.field? json key = none ∧ Record.field? (Value.ofJson json) key = none) ∧
      validator.validate json = validator.validate (Value.ofJson json)) ∧
    (∀ members : List (String × Json),
      validator.validate (JsonObject.mk members) = validator.validate (Json.object members)) ∧
    (∀ pairs : List (String × Value),
      (∀ key,
        Record.field? (OrderedMap.ofList pairs) key = Entries.last? key pairs ∧
        Record.field? (Std.HashMap.ofList pairs) key = Entries.last? key pairs ∧
        Record.field? (Std.TreeMap.ofList pairs) key = Entries.last? key pairs ∧
        Record.field? (Value.ofEntries pairs) key = Entries.last? key pairs) ∧
      validator.validate (Std.HashMap.ofList pairs) =
        validator.validate (OrderedMap.ofList pairs) ∧
      validator.validate (Std.TreeMap.ofList pairs) =
        validator.validate (OrderedMap.ofList pairs) ∧
      validator.validate (Value.ofEntries pairs) =
        validator.validate (OrderedMap.ofList pairs)) ∧
    ∀ {ρ σ : Type} [Record ρ] [Record σ] (record : ρ) (other : σ),
      Record.Agree validator.schema.keys record other →
        validator.validate record = validator.validate other := by
  refine ⟨fun json => ⟨?_, ?_, ?_⟩, fun members => ?_, fun pairs => ⟨fun key => ?_, ?_, ?_, ?_⟩,
    fun record other agree => validator.validate_congr agree⟩
  · exact fun key => (Record.field?_ofJson json key).symm
  · intro other key
    rw [Record.field?_ofJson, Record.field?_of_not_object other]
    exact ⟨rfl, rfl⟩
  · exact validator.validate_congr fun key _ => (Record.field?_ofJson json key).symm
  · exact validator.validate_congr fun key _ => rfl
  · exact ⟨Record.field?_orderedMap key pairs, Record.field?_hashMap key pairs,
      Record.field?_treeMap key pairs, Record.field?_ofEntries key pairs⟩
  · refine validator.validate_congr fun key _ => ?_
    rw [Record.field?_hashMap, Record.field?_orderedMap]
  · refine validator.validate_congr fun key _ => ?_
    rw [Record.field?_treeMap, Record.field?_orderedMap]
  · refine validator.validate_congr fun key _ => ?_
    rw [Record.field?_ofEntries, Record.field?_orderedMap]

/-- A name of the wrong kind after one of the right kind, and a field of no pipeline. -/
def Value.renamed : List (String × Value) :=
  [("name", .string "Al"), ("height", .boolean true), ("name", .boolean false)]

/-- Collected in a hash map, `renamed` gets the report of a JSON object of its last name alone. -/
theorem Validator.report_of_registered_fields_renamed :
    Record.Agree nameAndAge.schema.keys (Std.HashMap.ofList Value.renamed)
        (Json.object [("name", .boolean false)]) ∧
      nameAndAge.validate (Std.HashMap.ofList Value.renamed) =
        ⟨2, [⟨.type, "name", some (.boolean false), .expected "string"⟩]⟩ ∧
      (∀ members, Json.null ≠ .object members) ∧
      Record.field? (Value.ofJson .null) "name" = none := by
  obtain ⟨json, -, -, alike⟩ := nameAndAge.report_of_registered_fields
  have agree : Record.Agree nameAndAge.schema.keys (Std.HashMap.ofList Value.renamed)
      (Json.object [("name", .boolean false)]) := by
    intro key member
    rw [Record.field?_hashMap]
    rcases List.mem_cons.mp member with rfl | member
    · rfl
    · rcases List.mem_cons.mp member with rfl | member
      · rfl
      · cases member
  exact ⟨agree, alike _ _ agree, nofun, ((json .null).2.1 nofun "name").2⟩

end RecordCheck
