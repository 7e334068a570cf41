import Mathlib.Data.Finset.Card
import RecordCheck.Proofs.Validator.Records

/-!
# Registering fields

However the fields of a schema are registered, the schema is that of all of them collected in
their order (`Schema.Route.schema_eq`). Of the fields with one key the first decides where the
key stands and the last which pipeline it has (`Schema.of_registrations`).

That no key stands twice is part of every schema (`OrderedMap.unique`), so one registration
either changes the pipeline of the only entry of its key or puts a new entry at the end.
-/

namespace RecordCheck.Schema

/-! ## One registration -/

section Register

variable (schema : Schema) (key : String) (pipeline : Pipeline)

/-- A registration leaves all other keys where they are. -/
theorem idxOf?_keys_register {other : String} (different : other ≠ key) :
    (schema.register key pipeline).keys.idxOf? other = schema.keys.idxOf? other := by
  rw [keys_register]
  split
  · rfl
  · have absent : [key].findIdx? (· == other) = none := by simp [different.symm]
    show (schema.keys ++ [key]).findIdx? (· == other) = schema.keys.findIdx? (· == other)
    rw [List.findIdx?_append, absent]
    exact Option.or_none

theorem toList_eq : schema.toList.map (fun field => (field.1, some field.2)) =
    schema.keys.map fun key => (key, schema.get? key) := by
  rw [keys, OrderedMap.keys, List.map_map]
  refine List.map_congr_left fun field member => ?_
  rw [Function.comp_apply, get?_of_mem member]

end Register

/-! ## Many registrations -/

theorem registerAll_eq_foldl (schema : Schema) (fields : List (String × Pipeline)) :
    schema.registerAll fields =
      fields.foldl (fun schema field => schema.register field.1 field.2) schema := by
  induction fields generalizing schema with
  | nil => rfl
  | cons field rest ih => exact ih (schema.register field.1 field.2)

/-- Collecting some fields and registering the others one by one is collecting them all. -/
theorem ofList_append (front rest : List (String × Pipeline)) :
    ofList (front ++ rest) = (ofList front).registerAll rest := by
  rw [registerAll_eq_foldl, ofList, List.foldl_append]
  rfl

theorem ofList_concat (front : List (String × Pipeline)) (key : String) (pipeline : Pipeline) :
    ofList (front ++ [(key, pipeline)]) = (ofList front).register key pipeline :=
  ofList_append front _

/-- The last pipeline of a key is the one that it has. -/
theorem get?_ofList (fields : List (String × Pipeline)) (key : String) :
    (ofList fields).get? key = Entries.last? key fields := by
  refine Entries.eq_last? (fun fields => (ofList fields).get? key) rfl ?_ fields
  intro front other pipeline
  rw [ofList_concat, get?_register]
  simp only [eq_comm]

/-- The keys stand in the order in which they first came. -/
theorem keys_ofList (fields : List (String × Pipeline)) :
    (ofList fields).keys = (fields.map Prod.fst).eraseDups := by
  induction fields using List.reverseRecOn with
  | nil => rfl
  | append_singleton front field ih =>
    have known : field.1 ∈ (ofList front).keys ↔ field.1 ∈ front.map Prod.fst := by
      rw [ih, List.mem_eraseDups]
    rw [ofList_concat, keys_register, List.map_append, List.eraseDups_append, ← ih]
    simp only [known, List.map_cons, List.map_nil, List.removeAll]
    split
    · rename_i present
      rw [List.filter_cons_of_neg (by simpa using present), List.filter_nil]
      exact (List.append_nil _).symm
    · rename_i absent
      rw [List.filter_cons_of_pos (by simpa using absent), List.filter_nil, List.eraseDups_cons]
      rfl

/-! ## Ways to a schema -/

/-- How a schema is made: from nothing, from pairs that are collected or written down, or by
registering one more field. -/
inductive Route
  | empty
  | collected (fields : List (String × Pipeline))
  | written (fields : List (String × Pipeline))
  | field (before : Route) (key : String) (pipeline : Pipeline)
  | fieldWith (before : Route) (key : String) (factory : Unit → Pipeline)

namespace Route

/-- The schema that is made. -/
def schema : Route → Schema
  | .empty => .empty
  | .collected fields => .ofList fields
  | .written fields => Schema.empty.registerAll fields
  | .field before key pipeline => before.schema.register key pipeline
  | .fieldWith before key factory => before.schema.registerWith key factory

/-- The fields in the order of their registration. -/
def fields : Route → List (String × Pipeline)
  | .empty => []
  | .collected fields => fields
  | .written fields => fields
  | .field before key pipeline => before.fields ++ [(key, pipeline)]
  | .fieldWith before key factory => before.fields ++ [(key, factory ())]

/-- Only the fields and their order matter, not the way in which they are registered. -/
theorem schema_eq (route : Route) : route.schema = ofList route.fields := by
  induction route with
  | empty => rfl
  | collected fields => rfl
  | written fields => exact registerAll_eq_foldl _ fields
  | field before key pipeline ih => rw [schema, fields, ofList_concat, ih]
  | fieldWith before key factory ih => rw [schema, fields, ofList_concat, ih, registerWith]

end Route

/-- What is in a schema, by whatever way its fields were registered.

The keys are the distinct ones in the order of their first registration, no key twice; each has
the pipeline of its last registration, and a key has none exactly if it was never registered. There
are as many fields as distinct keys, and they are listed as the keys with their pipelines. All the
registrations collected give the same schema, and so do the first of them by any way with the others
following one by one. One more registration leaves the pipeline and the place of all other keys. -/
theorem of_registrations (route : Route) :
    let schema := route.schema
    let names := route.fields.map Prod.fst
    schema.keys = names.eraseDups ∧ schema.keys.Nodup ∧
    (∀ key, schema.get? key = Entries.last? key route.fields) ∧
    (∀ key, schema.get? key = none ↔ key ∉ names) ∧
    schema.size = names.toFinset.card ∧
    schema.toList.map (fun field => (field.1, some field.2)) =
      schema.keys.map (fun key => (key, schema.get? key)) ∧
    schema = ofList route.fields ∧
    (∀ (other : Route) rest, route.fields = other.fields ++ rest →
      schema = other.schema.registerAll rest) ∧
    ∀ key pipeline other, other ≠ key →
      (schema.register key pipeline).get? other = schema.get? other ∧
        (schema.register key pipeline).keys.idxOf? other = schema.keys.idxOf? other := by
  intro schema names
  have collected : schema = ofList route.fields := route.schema_eq
  have keys : schema.keys = names.eraseDups := by rw [collected, keys_ofList]
  have registered (key : String) : key ∈ schema.keys ↔ key ∈ names := by
    rw [keys, List.mem_eraseDups]
  refine ⟨keys, schema.nodup_keys, fun key => ?_, fun key => ?_, ?_, schema.toList_eq, collected,
    fun other rest split => ?_, fun key pipeline other different => ⟨?_, ?_⟩⟩
  · rw [collected, get?_ofList]
  · rw [get?_eq_none_iff, registered]
  · have distinct : names.toFinset = schema.keys.toFinset := by
      ext key
      rw [List.mem_toFinset, List.mem_toFinset, registered]
    rw [distinct, List.toFinset_card_of_nodup schema.nodup_keys]
    exact schema.fields.size_eq
  · rw [collected, split, ofList_append, other.schema_eq]
  · rw [get?_register, if_neg different]
  · exact schema.idxOf?_keys_register key pipeline different

example : (Route.field (.written [("name", .empty), ("age", .empty)]) "name" .empty).schema.keys =
    ["name", "age"] := by decide

end RecordCheck.Schema
