import RecordCheck.Value.Basic
import RecordCheck.Number.Text
import RecordCheck.Text.Quoted

/-!
# Text of values

A value has two texts. The shown text is for messages: strings are quoted, while
object keys, patterns, names and descriptions stand as they are. The detailed
text names the kind of every value and quotes everything that a caller chose.
-/

namespace RecordCheck

/-! ## Shapes of the detailed text -/

/-- The texts joined by commas. -/
def commaSeparated (texts : List String) : String := ", ".intercalate texts

/-- A name with fields in braces. -/
def detailedRecord (name : String) (fields : List (String × String)) : String :=
  name ++ " \x7b " ++ commaSeparated (fields.map fun field => field.1 ++ ": " ++ field.2) ++ " \x7d"

/-- A name around one argument. -/
def detailedCall (name argument : String) : String := name ++ "(" ++ argument ++ ")"

/-- The detailed text of something that may be absent. -/
def detailedOption (text : Option String) : String :=
  match text with
  | some text => detailedCall "Some" text
  | none => "None"

/-! ## Functions and symbols -/

namespace Callable

/-- The text of a function in messages. -/
def shown (f : Callable) : String :=
  match f.name with
  | some name => "[function " ++ name ++ "]"
  | none => "[function]"

/-- The text of a function with its parts named. -/
def detailed (f : Callable) : String :=
  detailedRecord "Callable"
    [("name", detailedOption (f.name.map Text.quoted)), ("func", Text.quoted "<function>")]

end Callable

namespace Symbol

/-- The text of a symbol in messages. -/
def shown (s : Symbol) : String := "Symbol(" ++ s.description.getD "" ++ ")"

/-- The text of a symbol with its parts named. -/
def detailed (s : Symbol) : String :=
  detailedRecord "Symbol"
    [("id", toString s.identity.toNat),
     ("description", detailedOption (s.description.map Text.quoted))]

end Symbol

/-! ## Values -/

namespace Value

mutual

/-- The text of a value in messages. -/
def shown : Value → String
  | .null => "null"
  | .boolean b => if b then "true" else "false"
  | .number x => x.text
  | .string s => Text.quoted s
  | .array items => "[" ++ commaSeparated (shownItems items) ++ "]"
  | .object entries => "\x7b" ++ commaSeparated (shownEntries entries) ++ "\x7d"
  | .regex pattern => "/" ++ pattern ++ "/"
  | .date t => t.text
  | .function f => f.shown
  | .symbol s => s.shown

/-- The shown texts of elements. -/
def shownItems : List Value → List String
  | [] => []
  | item :: rest => item.shown :: shownItems rest

/-- The shown texts of entries: the key as it is, a colon, the value. -/
def shownEntries : List (String × Value) → List String
  | [] => []
  | (key, value) :: rest => (key ++ ": " ++ value.shown) :: shownEntries rest

end

mutual

/-- The text of a value that names the kind of every part. -/
def detailed : Value → String
  | .null => "Null"
  | .boolean b => detailedCall "Bool" (if b then "true" else "false")
  | .number x => detailedCall "Number" x.detailedText
  | .string s => detailedCall "String" (Text.quoted s)
  | .array items =>
    detailedCall "Array" ("[" ++ commaSeparated (detailedItems items) ++ "]")
  | .object entries =>
    detailedCall "Object" ("\x7b" ++ commaSeparated (detailedEntries entries) ++ "\x7d")
  | .regex pattern => detailedCall "Regex" (detailedCall "Regex" (Text.quoted pattern))
  | .date t => detailedCall "Date" t.exactText
  | .function f => detailedCall "Function" f.detailed
  | .symbol s => detailedCall "Symbol" s.detailed

/-- The detailed texts of elements. -/
def detailedItems : List Value → List String
  | [] => []
  | item :: rest => item.detailed :: detailedItems rest

/-- The detailed texts of entries: the quoted key, a colon, the value. -/
def detailedEntries : List (String × Value) → List String
  | [] => []
  | (key, value) :: rest => (Text.quoted key ++ ": " ++ value.detailed) :: detailedEntries rest

end

end Value

end RecordCheck
