import RecordCheck.Number.Rounding

/-!
# Reading numbers

A literal is an optional sign followed by digits with an optional point and an
optional exponent, or by a name of infinity or `nan` in any case. `Literal.parse?`
reads a whole text as a literal, `Binary.read?` rounds it to a format.
-/

namespace RecordCheck

/-- A number as it is written. -/
inductive Literal
  | nan
  | infinity (negative : Bool)
  /-- The sign and the exact decimal `coefficient * 10 ^ exponent`. -/
  | decimal (negative : Bool) (coefficient : Nat) (exponent : Int)
  deriving DecidableEq

namespace Literal

/-- The value of a string of decimal digits. -/
def digitsValue (digits : List Char) : Nat :=
  digits.foldl (fun n c => 10 * n + (c.toNat - '0'.toNat)) 0

/-- The digits at the start of the text and the text behind them. -/
def spanDigits (text : List Char) : List Char × List Char :=
  (text.takeWhile Char.isDigit, text.dropWhile Char.isDigit)

/-- An optional sign at the start of the text, and the text behind it. -/
def spanSign : List Char → Bool × List Char
  | '+' :: rest => (false, rest)
  | '-' :: rest => (true, rest)
  | text => (false, text)

/-- The exponent part of a literal: nothing, or `e`, an optional sign and digits. -/
def parseExponent? : List Char → Option Int
  | [] => some 0
  | mark :: rest =>
    if mark = 'e' ∨ mark = 'E' then
      let (negative, digits) := spanSign rest
      if digits.isEmpty ∨ !digits.all Char.isDigit then none
      else some (if negative then -(digitsValue digits : Int) else digitsValue digits)
    else none

/-- The fraction part at the start of the text, and the text behind it. -/
def spanFraction : List Char → List Char × List Char
  | '.' :: rest => spanDigits rest
  | text => ([], text)

/-- Digits with an optional point and an optional exponent; one digit at least. -/
def parseDecimal? (negative : Bool) (text : List Char) : Option Literal := do
  let (integral, rest) := spanDigits text
  let (fraction, rest) := spanFraction rest
  if integral.isEmpty ∧ fraction.isEmpty then none
  else
    let exponent ← parseExponent? rest
    some (.decimal negative (digitsValue (integral ++ fraction)) (exponent - fraction.length))

/-- The literal that the whole text spells. -/
def parse? (text : List Char) : Option Literal :=
  let (negative, rest) := spanSign text
  let word := rest.map Char.toLower
  if word = ['n', 'a', 'n'] then some .nan
  else if word = "inf".toList ∨ word = "infinity".toList then some (.infinity negative)
  else parseDecimal? negative rest

/-- The nearest number of a format. -/
def toBinary {f : Format} : Literal → Binary f
  | .nan => .nan
  | .infinity negative => .infinity negative
  | .decimal negative coefficient exponent =>
    .ofRounded negative (Magnitude.ofDecimal? coefficient exponent)

end Literal

/-- The number that the text spells, rounded to the format. -/
def Binary.read? {f : Format} (text : String) : Option (Binary f) :=
  (Literal.parse? text.toList).map Literal.toBinary

end RecordCheck
