import RecordCheck.Log.Entry
import RecordCheck.Log.Filter

/-!
# The plain backend

Plain filters and plain layouts together are a backend. What a plain filter lets
through depends on target and severity alone, and not on the spans around.
-/

namespace RecordCheck.Log

/-- The backend of plain filters and plain layouts. -/
def Backend.plain : Backend where
  Filter := Log.Filter
  parse? := Log.Filter.parse?
  letsEnter filter _ span := filter.enables span.target span.severity
  letsTell filter entry := filter.enables entry.event.target entry.event.severity
  Line := Layout
  lines := Entry.layouts
  shown := Layout.shown

end RecordCheck.Log
