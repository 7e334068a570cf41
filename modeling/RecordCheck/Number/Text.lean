import RecordCheck.Number.Decimal

/-!
# Decimal text of a number

A number has two texts, both made of the digits of its shortest decimal. The
plain text is positional at every size. The detailed text shows that a number is
not an integer type: it always has a point or an exponent.
-/

namespace RecordCheck

namespace Decimal

/-- The decimal without an exponent: zeros fill the places up to the point. -/
def positional (d : Decimal) : List Char :=
  let digits := d.digits
  if 0 ≤ d.exponent then
    if d.coefficient = 0 then digits else digits ++ List.replicate d.exponent.toNat '0'
  else if d.places < digits.length then
    digits.take (digits.length - d.places) ++ '.' :: digits.drop (digits.length - d.places)
  else
    '0' :: '.' :: List.replicate (d.places - digits.length) '0' ++ digits

/-- The decimal with one digit before the point and the power of ten behind `e`. -/
def scientific (d : Decimal) : List Char :=
  let fraction := d.digits.drop 1
  d.digits.take 1 ++ (if fraction.isEmpty then [] else '.' :: fraction) ++
    'e' :: (toString d.leading).toList

/-- Positional from `10 ^ -4` to below `10 ^ 16`, with `.0` where there are no
places; scientific outside. -/
def detailed (d : Decimal) : List Char :=
  if d.coefficient ≠ 0 ∧ (d.leading < -4 ∨ 16 ≤ d.leading) then d.scientific
  else if 0 ≤ d.exponent then d.positional ++ ['.', '0']
  else d.positional

end Decimal

namespace Binary

variable {f : Format}

/-- The text with a layout of the finite numbers: `nan` has no sign. -/
def textWith (layout : Decimal → List Char) : Binary f → String
  | .nan => "NaN"
  | .infinity negative => if negative then "-inf" else "inf"
  | .finite negative m =>
    String.ofList ((if negative then ['-'] else []) ++ layout m.shortest)

/-- The positional text: the fewest digits that read back, no exponent, no point
in an integral number, and a sign also on negative zero. -/
def text : Binary f → String := textWith Decimal.positional

/-- The text that keeps a point or an exponent. -/
def detailedText : Binary f → String := textWith Decimal.detailed

end Binary

end RecordCheck
