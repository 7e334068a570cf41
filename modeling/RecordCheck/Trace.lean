import RecordCheck.Text.Quoted

/-!
# Traces

While it works, the library tells what it does: it enters and leaves spans and
emits events between. Events and spans have a severity, the name of the part of
the program they come from, and fields. A trace lists what was told, in order.
-/

namespace RecordCheck

/-- How important an event is. -/
inductive Severity
  | trace
  | debug
  | info
  | warn
  | error
  deriving DecidableEq

namespace Severity

/-- Every severity, the least important first. -/
def all : List Severity := [.trace, .debug, .info, .warn, .error]

/-- The name in capitals. -/
def name : Severity → String
  | .trace => "TRACE"
  | .debug => "DEBUG"
  | .info => "INFO"
  | .warn => "WARN"
  | .error => "ERROR"

/-- The rank: the more important, the higher. -/
def rank : Severity → Nat
  | .trace => 1
  | .debug => 2
  | .info => 3
  | .warn => 4
  | .error => 5

end Severity

/-- The content of a field. Texts are told apart by how they were given: a
string, which is quoted where a line could not show its ends, or finished text. -/
inductive FieldValue
  | string (s : String)
  | text (s : String)
  | count (n : Nat)
  deriving DecidableEq

namespace FieldValue

/-- The content as text. -/
def plain : FieldValue → String
  | .string s => s
  | .text s => s
  | .count n => toString n

/-- The content in a line of text. -/
def inline : FieldValue → String
  | .string s => Text.quoted s
  | .text s => s
  | .count n => toString n

end FieldValue

/-- A span of work. -/
structure Span where
  severity : Severity
  target : String
  name : String
  fields : List (String × FieldValue)
  deriving DecidableEq

/-- Something that happened. -/
structure Event where
  severity : Severity
  target : String
  message : String
  fields : List (String × FieldValue)
  deriving DecidableEq

/-- One thing that is told. -/
inductive Signal
  | enter (span : Span)
  | event (event : Event)
  | exit
  deriving DecidableEq

/-- What was told, in order. -/
abbrev Trace := List Signal

end RecordCheck
