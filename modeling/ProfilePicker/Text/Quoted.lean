import ProfilePicker.Text.Quoted.Table

/-!
# Quoted texts

A text in messages stands between quotation marks, written so that it can be told apart from
what surrounds it: the quotation mark and the backslash are escaped, line breaks and tabs have
a letter each, and a character without a shape of its own is named by its number.
-/
namespace ProfilePicker.Text

/-- A character named by its code point. -/
def named (c : Char) : Text := ['\\', 'u', '\x7b'] ++ Nat.toDigits 16 c.toNat ++ ['\x7d']

/-- How a character is written inside quotation marks. -/
def quotedChar (c : Char) : Text :=
  if c = '"' then ['\\', '"']
  else if c = '\\' then ['\\', '\\']
  else if c = '\n' then ['\\', 'n']
  else if c = '\r' then ['\\', 'r']
  else if c = '\t' then ['\\', 't']
  else if c = '\x00' then ['\\', '0']
  else if shapelessRanges.holds c then named c
  else [c]

/-- The text between quotation marks. -/
def quoted (s : Text) : Text := ['"'] ++ s.flatMap quotedChar ++ ['"']

end ProfilePicker.Text
