import ProfilePicker.Settings.Toml.Written
import ProfilePicker.Settings.Value

/-!
# Settings written in JSON

One value of JSON, with nothing but white space around it. Of a name that is given twice in an
object, the last value counts.
-/
namespace ProfilePicker.Settings.Json

/-- The rest of a text after white space. -/
def skipSpace (s : Text) : Text :=
  s.dropWhile fun c => c = ' ' || c = '\t' || c = '\n' || c = '\r'

/-- The number that four digits to the base sixteen write, and the rest. -/
def unit? (s : Text) : Option (Nat × Text) :=
  let digits := s.take 4
  if digits.length = 4 && digits.all Toml.isHexDigit then
    some (numberOf 16 digits, s.drop 4)
  else none

/-- The character named by one number, or by two numbers that make up one, and the rest. -/
def named? (s : Text) : Option (Char × Text) := do
  let (high, rest) ← unit? s
  if 0xd800 ≤ high && high < 0xdc00 then
    match rest with
    | '\\' :: 'u' :: more => do
      let (low, rest) ← unit? more
      if 0xdc00 ≤ low && low < 0xe000 then
        some (Char.ofNat (0x10000 + (high - 0xd800) * 0x400 + (low - 0xdc00)), rest)
      else none
    | _ => none
  else (Toml.charOf? high).map fun c => (c, rest)

/-- The character of an escape, after the backslash, and the rest. -/
def escaped? : Text → Option (Char × Text)
  | '"' :: rest => some ('"', rest)
  | '\\' :: rest => some ('\\', rest)
  | '/' :: rest => some ('/', rest)
  | 'b' :: rest => some ('\x08', rest)
  | 'f' :: rest => some ('\x0c', rest)
  | 'n' :: rest => some ('\n', rest)
  | 'r' :: rest => some ('\r', rest)
  | 't' :: rest => some ('\t', rest)
  | 'u' :: rest => named? rest
  | _ => none

/-- A string, after its opening mark, and the rest, with fuel for each character. -/
def string? : Nat → Text → Option (Text × Text)
  | 0, _ => none
  | _ + 1, [] => none
  | fuel + 1, c :: rest =>
    if c = '"' then some ([], rest)
    else if c = '\\' then do
      let (d, rest) ← escaped? rest
      let (s, rest) ← string? fuel rest
      return (d :: s, rest)
    else if c.toNat < 0x20 then none
    else (string? fuel rest).map fun (s, rest) => (c :: s, rest)

/-- The text a number is shown as: a whole number of 64 bits in decimal digits, any other with as
few digits as possible. -/
def number? (s : Text) : Option Text := do
  let (negative, unsigned) := match s with
    | '-' :: rest => (true, rest)
    | rest => (false, rest)
  let (mantissa, power) := unsigned.span fun c => c ≠ 'e' && c ≠ 'E'
  let (whole, part) := mantissa.span (· ≠ '.')
  if whole.isEmpty || !whole.all Char.isDigit then none
  if whole.head? = some '0' && whole.length ≠ 1 then none
  let partDigits ← match part with
    | [] => some []
    | _ :: digits => if digits.isEmpty || !digits.all Char.isDigit then none else some digits
  let exponent ← match power with
    | [] => some 0
    | _ :: written => if written.contains '_' then none else Toml.exponent? written
  let n := numberOf 10 whole
  let isWhole := part.isEmpty && power.isEmpty
  if isWhole && n ≠ 0 && isKept negative n then
    return Toml.signed negative (Text.ofNat n)
  match Binary64.ofDecimal (numberOf 10 (whole ++ partDigits))
      (exponent - partDigits.length) with
  | .infinite => none
  | kept => return Toml.signed negative kept.shown

/-- The characters of numbers and of the three words. -/
def isWordChar (c : Char) : Bool := c.isAlphanum || c = '+' || c = '-' || c = '.'

/-- The value of a number or one of the three words. -/
def word? (s : Text) : Option Value :=
  if s = ['n', 'u', 'l', 'l'] then some .absent
  else if s = ['t', 'r', 'u', 'e'] || s = ['f', 'a', 'l', 's', 'e'] then some (.scalar s)
  else (number? s).map .scalar

/-- The most lists and objects that can stand one inside the other. -/
def mostNested : Nat := 127

mutual

/-- A value that may have so many levels inside it, and the rest, with fuel for each value and
separator. -/
def value? (origin : Option Text) : Nat → Nat → Text → Option (Value × Text)
  | 0, _, _ => none
  | fuel + 1, levels, s =>
    match skipSpace s, levels with
    | '[' :: _, 0 => none
    | '\x7b' :: _, 0 => none
    | '\x7b' :: rest, levels + 1 =>
      match skipSpace rest with
      | '\x7d' :: more => some (.table [], more)
      | start => fields? origin fuel levels [] start
    | '[' :: rest, levels + 1 =>
      match skipSpace rest with
      | ']' :: more => some (.list origin, more)
      | start => elements? origin fuel levels start
    | '"' :: rest, _ =>
      (string? (rest.length + 1) rest).map fun (text, rest) => (.scalar text, rest)
    | start, _ =>
      let (word, rest) := start.span isWordChar
      (word? word).map fun v => (v, rest)

/-- The elements of a list from one of them on, and the rest. -/
def elements? (origin : Option Text) : Nat → Nat → Text → Option (Value × Text)
  | 0, _, _ => none
  | fuel + 1, levels, s => do
    let (_, rest) ← value? origin fuel levels s
    match skipSpace rest with
    | ',' :: more => elements? origin fuel levels more
    | ']' :: more => some (.list origin, more)
    | _ => none

/-- The fields of an object from one of them on, and the rest. -/
def fields? (origin : Option Text) : Nat → Nat → Entries → Text → Option (Value × Text)
  | 0, _, _, _ => none
  | fuel + 1, levels, entries, s =>
    match skipSpace s with
    | '"' :: rest => do
      let (name, rest) ← string? (rest.length + 1) rest
      let rest ← Toml.after? ':' (skipSpace rest)
      let (v, rest) ← value? origin fuel levels rest
      let entries := Entries.change name (fun _ => v) entries
      match skipSpace rest with
      | ',' :: more => fields? origin fuel levels entries more
      | '\x7d' :: more => some (.table entries, more)
      | _ => none
    | _ => none

end

/-- The value of a JSON text from the given file. -/
def read? (origin : Option Text) (s : Text) : Option Value :=
  match value? origin (s.length + 1) mostNested s with
  | some (v, rest) => if (skipSpace rest).isEmpty then some v else none
  | none => none

end ProfilePicker.Settings.Json
