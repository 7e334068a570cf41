import RecordCheck.Value.Basic

/-!
# Equality of values

Values are equal if they are of one kind and equal as such: numbers by value, so
that `nan` differs from itself; arrays element by element; objects as maps,
whatever the order of their entries; regular expressions by pattern; functions
by identity; symbols by identity and description.
-/

namespace RecordCheck.Value

mutual

/-- Whether two values are equal. -/
def equal : Value → Value → Bool
  | .null, .null => true
  | .boolean a, .boolean b => a == b
  | .number a, .number b => a.equal b
  | .string a, .string b => a == b
  | .array a, .array b => equalItems a b
  | .object a, .object b => a.length == b.length && entriesWithin a b
  | .regex a, .regex b => a == b
  | .date a, .date b => a == b
  | .function a, .function b => a.identity == b.identity
  | .symbol a, .symbol b => a == b
  | _, _ => false

/-- Whether two arrays are equal element by element. -/
def equalItems : List Value → List Value → Bool
  | [], [] => true
  | a :: as, b :: bs => a.equal b && equalItems as bs
  | _, _ => false

/-- Whether every entry of the first has an equal value under its key in the second. -/
def entriesWithin : List (String × Value) → List (String × Value) → Bool
  | [], _ => true
  | (key, a) :: rest, other =>
    (match Entries.get? key other with
    | some b => a.equal b
    | none => false) && entriesWithin rest other

end

instance : BEq Value := ⟨equal⟩

end RecordCheck.Value
