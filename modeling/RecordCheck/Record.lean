import Std.Data.HashMap
import Std.Data.TreeMap
import RecordCheck.Value.Json

/-!
# Records

A record is anything that can be asked for the value of a field. Maps of values
are records whatever keeps them; objects among values and JSON values are
records of their entries, and all other values are records without fields.
-/

namespace RecordCheck

/-- Data whose fields have values. -/
class Record (α : Type) where
  /-- The value of a field, absent if the record does not have the field. -/
  field? : α → String → Option Value

/-- The members of a JSON object. -/
structure JsonObject where
  members : List (String × Json)

instance : Record (OrderedMap Value) where
  field? := OrderedMap.get?

instance : Record (Std.HashMap String Value) where
  field? record key := record[key]?

instance : Record (Std.TreeMap String Value) where
  field? record key := record[key]?

instance : Record Value where
  field? record key := record.object?.bind (Entries.get? key)

instance : Record JsonObject where
  field? record key := (Entries.get? key record.members).map Value.ofJson

instance : Record Json where
  field? record key := (record.member? key).map Value.ofJson

end RecordCheck
