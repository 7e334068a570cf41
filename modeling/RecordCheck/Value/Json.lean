import RecordCheck.Json
import RecordCheck.Value.Text

/-!
# Values and JSON

Every JSON value is a value: its integers become the nearest numbers of double
precision, and its objects keep their sorted order. Every value has a JSON form
for reports, in which the kinds that JSON does not know become their shown text
and numbers that are not finite become `null`.
-/

namespace RecordCheck.Value

mutual

/-- The JSON form of a value. -/
def toJson : Value → Json
  | .null => .null
  | .boolean b => .boolean b
  | .number x => .ofBinary64 x
  | .string s => .string s
  | .array items => .array (toJsonItems items)
  | .object entries => .ofMembers (toJsonEntries entries)
  | .regex pattern => .string (Value.regex pattern).shown
  | .date t => .string t.text
  | .function f => .string f.shown
  | .symbol s => .string s.shown

/-- The JSON forms of elements. -/
def toJsonItems : List Value → List Json
  | [] => []
  | item :: rest => item.toJson :: toJsonItems rest

/-- The JSON forms of entries. -/
def toJsonEntries : List (String × Value) → List (String × Json)
  | [] => []
  | (key, value) :: rest => (key, value.toJson) :: toJsonEntries rest

end

mutual

/-- The value of a JSON value. -/
def ofJson : Json → Value
  | .null => .null
  | .boolean b => .boolean b
  | .integer n => .number (.ofInt n)
  | .number x => .number x
  | .string s => .string s
  | .array items => .array (ofJsonItems items)
  | .object members => .object (ofJsonMembers members)

/-- The values of elements. -/
def ofJsonItems : List Json → List Value
  | [] => []
  | item :: rest => ofJson item :: ofJsonItems rest

/-- The entries that members are. -/
def ofJsonMembers : List (String × Json) → List (String × Value)
  | [] => []
  | (key, json) :: rest => (key, ofJson json) :: ofJsonMembers rest

end

/-- Looking a member up and taking it as a value commute. -/
theorem get?_ofJsonMembers (key : String) (members : List (String × Json)) :
    Entries.get? key (ofJsonMembers members) = (Entries.get? key members).map ofJson := by
  induction members with
  | nil => rfl
  | cons entry rest ih =>
    obtain ⟨k, json⟩ := entry
    by_cases same : k = key <;> simp [ofJsonMembers, Entries.get?, same, ih]

end RecordCheck.Value
