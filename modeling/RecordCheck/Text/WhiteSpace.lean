import RecordCheck.Text.CharRange

/-!
# White space

The property White_Space of Unicode, and texts with it removed at both ends.
-/

namespace RecordCheck.Text

/-- The ranges of the property White_Space. -/
def whiteSpaceRanges : List CharRange :=
  [(0x9, 0xd), (0x20, 0x20), (0x85, 0x85), (0xa0, 0xa0), (0x1680, 0x1680), (0x2000, 0x200a),
   (0x2028, 0x2029), (0x202f, 0x202f), (0x205f, 0x205f), (0x3000, 0x3000)]

/-- Whether the character is white space. -/
def isWhiteSpace (c : Char) : Bool := inRanges whiteSpaceRanges c

/-- The characters without the white space at either end. -/
def trimList (cs : List Char) : List Char :=
  ((cs.dropWhile isWhiteSpace).reverse.dropWhile isWhiteSpace).reverse

/-- The text without the white space at either end. -/
def trim (text : String) : String := String.ofList (trimList text.toList)

/-- The text without white space at either end and with its ASCII letters in lower case. -/
def caseless (text : String) : String :=
  String.ofList ((trimList text.toList).map Char.toLower)

end RecordCheck.Text
