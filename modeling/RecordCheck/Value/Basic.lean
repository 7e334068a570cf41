import RecordCheck.OrderedMap
import RecordCheck.Number.Numeral
import RecordCheck.Time.Timestamp

/-!
# Values of a record

A record holds values of ten kinds. Besides the kinds of JSON there are regular
expressions, which are only ever shown and compared by their pattern, points in
time, functions and symbols. The last two have an identity of their own: two of
them are the same only if one was made from the other by copying.

A field that a record does not have is not a value but `none`.
-/

namespace RecordCheck

/-- A function as a value: its identity and the name it is shown under. What it
computes is kept by the store that made it. -/
structure Callable where
  identity : Nat
  name : Option String
  deriving DecidableEq

/-- An opaque token. The description is for reading only. -/
structure Symbol where
  identity : UInt64
  description : Option String
  deriving DecidableEq

/-- A value of a record. The entries of an object stand in insertion order. -/
inductive Value
  | null
  | boolean (b : Bool)
  | number (x : Binary64)
  | string (s : String)
  | array (items : List Value)
  | object (entries : List (String × Value))
  | regex (pattern : String)
  | date (t : Timestamp)
  | function (f : Callable)
  | symbol (s : Symbol)

namespace Value

instance : Inhabited Value := ⟨.null⟩

/-- The object with these entries; a repeated key keeps its first place and its last value. -/
def ofEntries (entries : List (String × Value)) : Value :=
  .object (Entries.ofList entries)

/-- A number of any of the callers' types as a value. -/
def ofNumeral (n : Numeral) : Value := .number n.toBinary64

/-- Whether the value is the explicit null. -/
def isNull : Value → Bool
  | .null => true
  | _ => false

/-- The number, if the value is one. -/
def number? : Value → Option Binary64
  | .number x => some x
  | _ => none

/-- The text, if the value is a string. -/
def string? : Value → Option String
  | .string s => some s
  | _ => none

/-- The elements, if the value is an array. -/
def array? : Value → Option (List Value)
  | .array items => some items
  | _ => none

/-- The entries, if the value is an object. -/
def object? : Value → Option (List (String × Value))
  | .object entries => some entries
  | _ => none

end Value

end RecordCheck
