import RecordCheck.Log.Backend
import RecordCheck.Text.Terminal

/-!
# Plain layouts

An entry is laid out as a line of text or as a JSON object. Both leave out what
depends on the moment, the place and the terminal: time, place in the source,
thread and colours.
-/

namespace RecordCheck.Log

namespace Entry

/-! ## Lines of text -/

/-- The fields with a space before each. -/
def inlineFields (fields : List (String × FieldValue)) : String :=
  String.join (fields.map fun field => " " ++ field.1 ++ "=" ++ field.2.inline)

/-- The name of a severity in five columns. -/
def severityColumn (severity : Severity) : String :=
  String.ofList (List.replicate (5 - severity.name.length) ' ') ++ severity.name

/-- The names of the spans, each with a colon, and a space if there are any. -/
def spanColumn (spans : List Span) : String :=
  if spans.isEmpty then "" else String.join (spans.map fun span => span.name ++ ":") ++ " "

/-- The line of an entry: severity, spans, target, message, then the fields of
the event and of the spans.
Only the message is tamed: it is free text of whoever tells the event. -/
def compact (entry : Entry) (display : Display) : String :=
  severityColumn entry.event.severity ++ " " ++ spanColumn entry.spans ++
    (if display.target then entry.event.target ++ ": " else "") ++
    Text.tame entry.event.message ++ inlineFields entry.event.fields ++
    String.join (entry.spans.map fun span => inlineFields span.fields)

/-! ## JSON objects -/

/-- The content of a field as JSON: counts stay numbers. -/
def fieldJson : FieldValue → Json
  | .string s => .string s
  | .text s => .string s
  | .count n => .integer n

/-- The fields as members of an object. -/
def fieldMembers (fields : List (String × FieldValue)) : List (String × Json) :=
  fields.map fun field => (field.1, fieldJson field.2)

/-- A span by its name and its fields. -/
def spanJson (span : Span) : Json :=
  .ofMembers (("name", .string span.name) :: fieldMembers span.fields)

/-- Message and fields of the event, at the top level or under `fields`. -/
def contentMembers (event : Event) (flatten : Bool) : List (String × Json) :=
  let members := ("message", .string event.message) :: fieldMembers event.fields
  if flatten then members else [("fields", .ofMembers members)]

/-- The innermost span, and all spans from the outermost inwards if they are listed. -/
def spanMembers (spans : List Span) (spanList : Bool) : List (String × Json) :=
  match spans.getLast? with
  | none => []
  | some innermost =>
    ("span", spanJson innermost) ::
      if spanList then [("spans", .array (spans.map spanJson))] else []

/-- The object of an entry. -/
def toJson (entry : Entry) (display : Display) : Json :=
  .ofMembers
    (("level", .string entry.event.severity.name) ::
      (if display.target then [("target", .string entry.event.target)] else []) ++
      contentMembers entry.event display.flatten ++ spanMembers entry.spans display.spanList)

end Entry

/-! ## Written lines -/

/-- What is written for an entry. -/
inductive Line
  | text (line : String)
  | object (json : Json)

/-- A line and the spans whose fields stand on it. -/
structure Layout where
  line : Line
  shown : List Span

/-- The layout of an entry under a configuration. Compact lines show all spans;
JSON shows the innermost, and the others only in the list of spans. The pretty
layout spreads an entry over several lines with its time and place and is not
laid out here. -/
def Entry.layouts (config : Config) (entry : Entry) : List Layout :=
  match config.format with
  | .compact => [⟨.text (entry.compact config.display), entry.spans⟩]
  | .json =>
    [⟨.object (entry.toJson config.display),
      if config.display.spanList then entry.spans else entry.spans.getLast?.toList⟩]
  | .pretty => []

end RecordCheck.Log
