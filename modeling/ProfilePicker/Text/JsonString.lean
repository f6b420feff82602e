import ProfilePicker.Text.Basic

/-!
# Strings of JSON

How a text is written as a string of JSON: the quotation mark, the backslash and the controls
are escaped, everything else stands for itself.
-/
namespace ProfilePicker.Text

/-- A control character named by four digits. -/
def jsonControl (c : Char) : Text :=
  let digits := Nat.toDigits 16 c.toNat
  ['\\', 'u'] ++ List.replicate (4 - digits.length) '0' ++ digits

/-- How a character is written inside a string of JSON. -/
def jsonChar (c : Char) : Text :=
  if c = '"' then ['\\', '"']
  else if c = '\\' then ['\\', '\\']
  else if c = '\n' then ['\\', 'n']
  else if c = '\r' then ['\\', 'r']
  else if c = '\t' then ['\\', 't']
  else if c = '\x08' then ['\\', 'b']
  else if c = '\x0c' then ['\\', 'f']
  else if c.toNat < 0x20 then jsonControl c
  else [c]

/-- A text as a string of JSON. -/
def jsonString (s : Text) : Text := ['"'] ++ s.flatMap jsonChar ++ ['"']

end ProfilePicker.Text
