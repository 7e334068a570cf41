import RecordCheck.Value.Basic
import RecordCheck.Number.Text

/-!
# Measuring values

Length rules measure a value in one of two ways: the elements of a collection,
where an empty one has no length at all, or the digits of a number. Decimal
rules count the places behind the point.
-/

namespace RecordCheck

/-- How the length of a value is taken. -/
inductive Measure
  | collection
  | digits
  deriving DecidableEq

/-- The characters of the integer part of a number without its sign. The integer
part is the number itself if it is integral, and the next integer below it if not. -/
def digitLength (x : Binary64) : Nat :=
  let integral := if x.isIntegral then x else x.floor
  integral.abs.text.length

/-- The digits after the point in the text of a number. -/
def decimalPlaces (x : Binary64) : Nat :=
  match x with
  | .finite _ m => m.shortest.places
  | _ => 0

/-- The number of characters of a string or of elements of an array. -/
def collectionLength? : Value → Option Nat
  | .string s => some s.length
  | .array items => some items.length
  | _ => none

namespace Measure

/-- The length of a value, if it has one by this measure. -/
def length? (measure : Measure) (value : Value) : Option Nat :=
  match measure with
  | .collection => (collectionLength? value).filter (0 < ·)
  | .digits => value.number?.map digitLength

/-- The capitalised name, for detailed texts. -/
def title : Measure → String
  | .collection => "Collection"
  | .digits => "Digits"

end Measure

end RecordCheck
