import RecordCheck.Text.Quoted

/-!
# Text for a terminal

A terminal takes some controls as commands or as the start of a command. A text
that comes from elsewhere must not steer the terminal it is shown on, so `tame`
writes these controls by their numbers. Tabs, line breaks and the controls that
no terminal acts on stay as they are.
-/

namespace RecordCheck.Text

/-- Whether a terminal acts on the character: bell, backspace, form feed, escape,
delete, and the controls from U+0080 to U+009F. -/
def isTerminalControl (c : Char) : Bool :=
  c.toNat = 0x07 || c.toNat = 0x08 || c.toNat = 0x0c || c.toNat = 0x1b ||
    (0x7f ≤ c.toNat && c.toNat ≤ 0x9f)

/-- The escape of an ASCII character by the two digits of its number. -/
def byteEscape (c : Char) : List Char :=
  ['\\', 'x', Nat.digitChar (c.toNat / 16), Nat.digitChar (c.toNat % 16)]

/-- A character as it stands in a tame text. -/
def tameChar (c : Char) : List Char :=
  if isTerminalControl c then
    if c.toNat < 0x80 then byteEscape c else numericEscape c
  else [c]

/-- The text with every character that a terminal acts on written by its number. -/
def tame (text : String) : String := String.ofList (text.toList.flatMap tameChar)

end RecordCheck.Text
