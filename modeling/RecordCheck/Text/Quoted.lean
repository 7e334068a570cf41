import RecordCheck.Text.Unprintable
import RecordCheck.Text.GraphemeExtend
import RecordCheck.Text.DefaultIgnorable

/-!
# Quoted text

A text between double quotes in which every character that could not be told by
eye is escaped: the quote and the backslash, the controls with a short name, and
by number all that is unprintable, is drawn on the character before it or has no
shape. A quoted text therefore stays on one line.
-/

namespace RecordCheck.Text

/-- The two voicing marks of halfwidth kana. They extend the character before
them, yet they are letters with a place of their own in the line. -/
def isVoicingMark (c : Char) : Bool := c = '\uff9e' || c = '\uff9f'

/-- Whether the character is written by its number. -/
def isHidden (c : Char) : Bool :=
  if 0x20 ≤ c.toNat ∧ c.toNat < 0x7f then false
  else isUnprintable c || (isGraphemeExtend c && !isVoicingMark c) || isDefaultIgnorable c

/-- The escape of a character by its number, in lower case without leading zeros. -/
def numericEscape (c : Char) : List Char :=
  ['\\', 'u', '\x7b'] ++ Nat.toDigits 16 c.toNat ++ ['\x7d']

/-- A character as it stands in a quoted text. -/
def escapeChar (c : Char) : List Char :=
  if c = '\x00' then ['\\', '0']
  else if c = '\t' then ['\\', 't']
  else if c = '\r' then ['\\', 'r']
  else if c = '\n' then ['\\', 'n']
  else if c = '"' then ['\\', '"']
  else if c = '\\' then ['\\', '\\']
  else if isHidden c then numericEscape c
  else [c]

/-- The text between double quotes, escaped. -/
def quoted (text : String) : String :=
  String.ofList ('"' :: text.toList.flatMap escapeChar ++ ['"'])

end RecordCheck.Text
