import RecordCheck.Log.Config
import RecordCheck.Trace

/-!
# What a logger is built on

A logger does not read filters, decide what they let through or lay out lines
by itself. It leaves this to a backend, of which it only knows what is listed
here; so what sessions do is the same over every backend.
-/

namespace RecordCheck.Log

/-- An event and the spans around it, the outermost first. -/
structure Entry where
  spans : List Span
  event : Event
  deriving DecidableEq

/-- The part of logging that is not the business of a session. -/
structure Backend where
  /-- Filters as they are kept. -/
  Filter : Type
  /-- The filter that a text writes, if it writes one. -/
  parse? : String → Option Filter
  /-- Whether a filter lets a span through that is entered inside these spans. -/
  letsEnter : Filter → List Span → Span → Bool
  /-- Whether a filter lets an entry through. -/
  letsTell : Filter → Entry → Bool
  /-- Lines as they are written. -/
  Line : Type
  /-- The lines on which an entry is written. -/
  lines : Config → Entry → List Line
  /-- The spans that a line shows with their fields, the outermost first. -/
  shown : Line → List Span

end RecordCheck.Log
