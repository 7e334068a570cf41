import RecordCheck.OrderedMap
import RecordCheck.Number.Binary

/-!
# JSON values

The data that records come from and reports go to. Integers are kept apart from
numbers of double precision, and the members of an object stand in ascending
order of their keys, each key once.
-/

namespace RecordCheck

/-- A JSON value. The members of an object are kept in ascending order of keys. -/
inductive Json
  | null
  | boolean (b : Bool)
  | integer (n : Int)
  | number (x : Binary64)
  | string (s : String)
  | array (items : List Json)
  | object (members : List (String × Json))

instance : Inhabited Json := ⟨.null⟩

/-! ## Members in order of their keys -/

namespace SortedEntries

universe u

variable {α : Type u}

/-- The sorted entries with the value put under the key, in place or between its neighbours. -/
def insert (key : String) (value : α) : List (String × α) → List (String × α)
  | [] => [(key, value)]
  | (k, old) :: rest =>
    if key < k then (key, value) :: (k, old) :: rest
    else if k = key then (key, value) :: rest
    else (k, old) :: insert key value rest

/-- The entries sorted by key, the last value of each key. -/
def ofList (entries : List (String × α)) : List (String × α) :=
  entries.foldl (fun made entry => insert entry.1 entry.2 made) []

theorem get?_insert_self (key : String) (value : α) (entries : List (String × α)) :
    Entries.get? key (insert key value entries) = some value := by
  induction entries with
  | nil => simp [insert, Entries.get?]
  | cons entry rest ih =>
    obtain ⟨k, old⟩ := entry
    by_cases before : key < k
    · simp [insert, Entries.get?, before]
    · by_cases same : k = key <;> simp [insert, Entries.get?, before, same, ih]

theorem get?_insert_of_ne {key other : String} (different : other ≠ key) (value : α)
    (entries : List (String × α)) :
    Entries.get? other (insert key value entries) = Entries.get? other entries := by
  induction entries with
  | nil => simp [insert, Entries.get?, different.symm]
  | cons entry rest ih =>
    obtain ⟨k, old⟩ := entry
    by_cases before : key < k
    · simp [insert, Entries.get?, before, different.symm]
    · by_cases same : k = key
      · subst same; simp [insert, Entries.get?, different.symm]
      · simp [insert, Entries.get?, before, same, ih]

end SortedEntries

namespace Json

/-- The object with these members; of one key the last value stays. -/
def ofMembers (members : List (String × Json)) : Json :=
  .object (SortedEntries.ofList members)

/-- A number as JSON; one that is not finite has no place there and becomes `null`. -/
def ofBinary64 (x : Binary64) : Json :=
  if x.isFinite then .number x else .null

/-- The value of a member, if the value is an object that has it. -/
def member? (key : String) : Json → Option Json
  | .object members => Entries.get? key members
  | _ => none

/-- The word of a closed set of words: a string, or an object whose only key is
the word and whose value under it is `null`. -/
def word? : Json → Option String
  | .string s => some s
  | .object [(key, .null)] => some key
  | _ => none

/-! ## Reading structures -/

/-- The truth value, if the value is one. -/
def boolean? : Json → Option Bool
  | .boolean b => some b
  | _ => none

/-- The text, if the value is a string. -/
def string? : Json → Option String
  | .string s => some s
  | _ => none

/-- The fields of a structure with these names: an object, whose other members
are ignored, or an array of at most so many elements in the order of the names. -/
def fields? (names : List String) : Json → Option (List (String × Json))
  | .object members => some members
  | .array items => if items.length ≤ names.length then some (names.zip items) else none
  | _ => none

/-- What a field holds: the default if it is missing, and nothing if it is there
but cannot be read. -/
def field {α : Type} (fields : List (String × Json)) (name : String) (missing : α)
    (read? : Json → Option α) : Option α :=
  match Entries.get? name fields with
  | some json => read? json
  | none => some missing

/-! ## Equality -/

mutual

/-- Whether two JSON values are equal. Numbers are equal by value, so that the
zeros are; an integer and a number of double precision are never equal. -/
def equal : Json → Json → Bool
  | .null, .null => true
  | .boolean a, .boolean b => a == b
  | .integer a, .integer b => a == b
  | .number a, .number b => a.equal b
  | .string a, .string b => a == b
  | .array a, .array b => equalItems a b
  | .object a, .object b => equalMembers a b
  | _, _ => false

/-- Whether two arrays are equal element by element. -/
def equalItems : List Json → List Json → Bool
  | [], [] => true
  | a :: as, b :: bs => a.equal b && equalItems as bs
  | _, _ => false

/-- Whether two lists of members are equal in order. -/
def equalMembers : List (String × Json) → List (String × Json) → Bool
  | [], [] => true
  | (key, a) :: as, (other, b) :: bs => key == other && a.equal b && equalMembers as bs
  | _, _ => false

end

instance : BEq Json := ⟨equal⟩

end Json

end RecordCheck
