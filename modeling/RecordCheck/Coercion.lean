import RecordCheck.Value.Basic
import RecordCheck.Number.Literal
import RecordCheck.Text.WhiteSpace

/-!
# Numbers in strings

A string that spells a finite number, with white space around it or not, can be
taken for that number.
-/

namespace RecordCheck

/-- The finite number that a text spells between white space. -/
def parseNumber? (text : String) : Option Binary64 :=
  (Binary.read? (Text.trim text)).filter Binary.isFinite

/-- The number in place of a string that spells one; all else is left alone. -/
def coerceNumber? (value : Value) : Option Value :=
  (value.string?.bind parseNumber?).map Value.number

end RecordCheck
