import ProfilePicker.Text.Basic

/-!
# Whole numbers of settings

Whole numbers as settings write them, in digits to some base. One is kept if it can be written
in 64 bits with a sign.
-/
namespace ProfilePicker.Settings

/-- The value of a digit up to sixteen. -/
def digitValue (c : Char) : Nat :=
  if c.isDigit then c.toNat - '0'.toNat else c.toLower.toNat - 'a'.toNat + 10

/-- The number that some digits write. -/
def numberOf (base : Nat) (digits : Text) : Nat :=
  digits.foldl (fun n c => n * base + digitValue c) 0

/-- The magnitude of the least whole number; the greatest one is one less. -/
def wholeLimit : Nat := Nat.pow 2 63

/-- Whether a whole number is kept. -/
def isKept (negative : Bool) (magnitude : Nat) : Bool :=
  magnitude < wholeLimit || (negative && magnitude = wholeLimit)

end ProfilePicker.Settings
