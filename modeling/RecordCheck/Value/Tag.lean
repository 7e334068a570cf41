import RecordCheck.Value.Basic

/-!
# Tags

Every value, and the absence of one, has exactly one tag. Arrays, regular
expressions and dates have tags of their own and are not objects.
-/

namespace RecordCheck

/-- The kinds of values, and the tag of an absent one. -/
inductive Tag
  | array
  | regex
  | date
  | null
  | function
  | object
  | number
  | string
  | boolean
  | symbol
  | undefined
  deriving DecidableEq

/-- A name that no tag has. -/
structure UnknownTag where
  name : String
  deriving DecidableEq

/-- The sentence that reports the error. -/
def UnknownTag.message (e : UnknownTag) : String := "unknown type tag `" ++ e.name ++ "`"

namespace Tag

/-- Every tag, in the order in which values are told apart. -/
def all : List Tag :=
  [.array, .regex, .date, .null, .function, .object, .number, .string, .boolean, .symbol,
   .undefined]

theorem mem_all (tag : Tag) : tag ∈ all := by cases tag <;> decide

/-- The lower-case name, used in parameters and messages. -/
def name : Tag → String
  | .array => "array"
  | .regex => "regex"
  | .date => "date"
  | .null => "null"
  | .function => "function"
  | .object => "object"
  | .number => "number"
  | .string => "string"
  | .boolean => "boolean"
  | .symbol => "symbol"
  | .undefined => "undefined"

/-- The capitalised name, used where a pipeline is shown in detail. -/
def title : Tag → String
  | .array => "Array"
  | .regex => "Regex"
  | .date => "Date"
  | .null => "Null"
  | .function => "Function"
  | .object => "Object"
  | .number => "Number"
  | .string => "String"
  | .boolean => "Boolean"
  | .symbol => "Symbol"
  | .undefined => "Undefined"

/-- The tag with exactly this name. -/
def parse (name : String) : Except UnknownTag Tag :=
  match all.find? (fun tag => tag.name == name) with
  | some tag => .ok tag
  | none => .error ⟨name⟩

theorem parse_name (tag : Tag) : parse tag.name = .ok tag := by cases tag <;> rfl

end Tag

namespace Value

/-- The tag of a present value. -/
def tag : Value → Tag
  | .null => .null
  | .boolean _ => .boolean
  | .number _ => .number
  | .string _ => .string
  | .array _ => .array
  | .object _ => .object
  | .regex _ => .regex
  | .date _ => .date
  | .function _ => .function
  | .symbol _ => .symbol

end Value

/-- The tag of a value that may be absent. -/
def classify : Option Value → Tag
  | some value => value.tag
  | none => .undefined

end RecordCheck
