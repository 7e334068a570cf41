import RecordCheck.Pipeline

/-!
# Schemas

A schema assigns pipelines to keys, in the order in which the keys were first
registered. A key that is registered again keeps its place and takes the new
pipeline.
-/

namespace RecordCheck

/-- The pipelines of the fields of a record. -/
structure Schema where
  fields : OrderedMap Pipeline

namespace Schema

/-- The schema without fields. -/
def empty : Schema := ⟨.empty⟩

instance : Inhabited Schema := ⟨empty⟩

/-- The schema with a field registered. -/
def register (schema : Schema) (key : String) (pipeline : Pipeline) : Schema :=
  ⟨schema.fields.insert key pipeline⟩

/-- The schema with a field registered under the pipeline that a factory makes. The factory is
called here and not later. -/
def registerWith (schema : Schema) (key : String) (factory : Unit → Pipeline) : Schema :=
  schema.register key (factory ())

/-- The schema with fields written down one behind another, each registered in the schema that
those before it have made. -/
def registerAll (schema : Schema) : List (String × Pipeline) → Schema
  | [] => schema
  | (key, pipeline) :: rest => (schema.register key pipeline).registerAll rest

/-- The fields registered one after another in the empty schema. -/
def ofList (fields : List (String × Pipeline)) : Schema :=
  fields.foldl (fun schema field => schema.register field.1 field.2) empty

/-- The pipeline of a key. -/
def get? (schema : Schema) (key : String) : Option Pipeline := schema.fields.get? key

/-- The keys in the order of their first registration. -/
def keys (schema : Schema) : List String := schema.fields.keys

/-- The keys and their pipelines in the order of the keys. -/
def toList (schema : Schema) : List (String × Pipeline) := schema.fields.entries

/-- The number of keys. -/
def size (schema : Schema) : Nat := schema.fields.size

/-- Whether the schema has no fields. -/
def isEmpty (schema : Schema) : Bool := schema.size == 0

@[simp] theorem get?_empty (key : String) : empty.get? key = none := rfl

@[simp] theorem get?_register (schema : Schema) (key other : String) (pipeline : Pipeline) :
    (schema.register key pipeline).get? other =
      if other = key then some pipeline else schema.get? other :=
  OrderedMap.get?_insert schema.fields key other pipeline

theorem keys_register (schema : Schema) (key : String) (pipeline : Pipeline) :
    (schema.register key pipeline).keys =
      if key ∈ schema.keys then schema.keys else schema.keys ++ [key] :=
  OrderedMap.keys_insert schema.fields key pipeline

end Schema

end RecordCheck
