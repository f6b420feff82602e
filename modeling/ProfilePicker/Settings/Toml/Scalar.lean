import ProfilePicker.Decimal.Binary64
import ProfilePicker.Settings.Whole

/-!
# Numbers, truth values and dates of TOML

A value that is no string, list or table is written as one word, or as a date and a time with
a space between them. Each form is kept as the text it is shown as: a whole number in decimal
digits, a fraction with as few digits as possible, a date in its regular form.
-/
namespace ProfilePicker.Settings.Toml

/-- The digits of a number without the underscores, each of which stands between two digits. -/
def digits? (isDigit : Char → Bool) : Text → Option Text
  | [] => none
  | [c] => if isDigit c then some [c] else none
  | c :: '_' :: rest => if isDigit c then (digits? isDigit rest).map (c :: ·) else none
  | c :: rest => if isDigit c then (digits? isDigit rest).map (c :: ·) else none

/-- Whether a character is a digit to the base sixteen. -/
def isHexDigit (c : Char) : Bool :=
  c.isDigit || ('a' ≤ c && c ≤ 'f') || ('A' ≤ c && c ≤ 'F')

/-- A number as it is shown. -/
def signed (negative : Bool) (shown : Text) : Text := if negative then '-' :: shown else shown

/-- The sign of a word, and the rest. -/
def splitSign : Text → Option Bool × Text
  | '+' :: rest => (some false, rest)
  | '-' :: rest => (some true, rest)
  | s => (none, s)

/-- A whole number in a given base, in decimal digits. -/
def based? (base : Nat) (isDigit : Char → Bool) (s : Text) : Option Text := do
  let n := numberOf base (← digits? isDigit s)
  if isKept false n then some (Text.ofNat n) else none

/-- The digits of a whole part: without a zero in front of other digits. -/
def wholeDigits? (s : Text) : Option Text := do
  match ← digits? Char.isDigit s with
  | '0' :: _ :: _ => none
  | digits => some digits

/-- A whole number in decimal digits. -/
def whole? (s : Text) : Option Text :=
  match s with
  | '0' :: 'x' :: rest => based? 16 isHexDigit rest
  | '0' :: 'o' :: rest => based? 8 (fun c => '0' ≤ c && c ≤ '7') rest
  | '0' :: 'b' :: rest => based? 2 (fun c => c = '0' || c = '1') rest
  | _ => do
    let (sign, rest) := splitSign s
    let negative := sign = some true
    let n := numberOf 10 (← wholeDigits? rest)
    if isKept negative n then
      some (signed (negative && n ≠ 0) (Text.ofNat n))
    else none

/-- The exponent of a fraction, after its letter. -/
def exponent? (s : Text) : Option Int := do
  let (sign, rest) := splitSign s
  let n := numberOf 10 (← digits? Char.isDigit rest)
  return if sign = some true then -(n : Int) else n

/-- A number with a point or an exponent, as few digits as possible. -/
def fraction? (s : Text) : Option Text := do
  let (sign, rest) := splitSign s
  let negative := sign = some true
  if rest = ['i', 'n', 'f'] then return signed negative rest
  if rest = ['n', 'a', 'n'] then return ['N', 'a', 'N']
  let (mantissa, power) := rest.span fun c => c ≠ 'e' && c ≠ 'E'
  let exponent ← match power with
    | [] => some 0
    | _ :: written => exponent? written
  let (whole, part) := mantissa.span (· ≠ '.')
  let wholeDigits ← wholeDigits? whole
  let partDigits ← match part with
    | [] => some []
    | _ :: written => digits? Char.isDigit written
  if part.isEmpty && power.isEmpty then none
  let digits := numberOf 10 (wholeDigits ++ partDigits)
  match Binary64.ofDecimal digits (exponent - partDigits.length) with
  | .infinite => none
  | kept => return signed negative kept.shown

/-! ## Dates and times -/

/-- A number of exactly so many digits, and the rest. -/
def fixed? (count : Nat) (s : Text) : Option (Nat × Text) :=
  let digits := s.take count
  if digits.length = count && digits.all Char.isDigit then
    some (numberOf 10 digits, s.drop count)
  else none

/-- The rest after a character. -/
def after? (c : Char) : Text → Option Text
  | d :: rest => if c = d then some rest else none
  | [] => none

/-- How many days a month has. -/
def daysIn (year month : Nat) : Nat :=
  if month = 2 then
    if year % 4 = 0 && (year % 100 ≠ 0 || year % 400 = 0) then 29 else 28
  else if month = 4 || month = 6 || month = 9 || month = 11 then 30
  else 31

/-- A date, as it is written, and the rest. -/
def date? (s : Text) : Option (Text × Text) := do
  let (year, rest) ← fixed? 4 s
  let (month, rest) ← fixed? 2 (← after? '-' rest)
  let (day, rest) ← fixed? 2 (← after? '-' rest)
  if 1 ≤ month && month ≤ 12 && 1 ≤ day && day ≤ daysIn year month then
    some (s.take 10, rest)
  else none

/-- A fraction of a second as it is shown: to the billionth, without zeros at the end unless
nothing else is left. -/
def shownPart (digits : Text) : Text :=
  let kept := ((digits.take 9).reverse.dropWhile (· = '0')).reverse
  '.' :: if kept.isEmpty then ['0'] else kept

/-- A second and the fraction of it, if one is given, and the rest. -/
def second? (s : Text) : Option (Text × Text) := do
  let (second, rest) ← fixed? 2 s
  if 60 < second then none
  match rest with
  | '.' :: more =>
    match more.span Char.isDigit with
    | ([], _) => none
    | (digits, rest) => some (s.take 2 ++ shownPart digits, rest)
  | _ => some (s.take 2, rest)

/-- A time of day, and the rest. The seconds may be left out. -/
def time? (s : Text) : Option (Text × Text) := do
  let (hour, rest) ← fixed? 2 s
  let (minute, rest) ← fixed? 2 (← after? ':' rest)
  if 23 < hour || 59 < minute then none
  match rest with
  | ':' :: more => (second? more).map fun (second, rest) => (s.take 6 ++ second, rest)
  | _ => some (s.take 5, rest)

/-- The distance from universal time, if one is given, and the rest. -/
def offset? (s : Text) : Option (Text × Text) :=
  match s with
  | [] => some ([], [])
  | c :: rest =>
    if c = 'Z' || c = 'z' then some (['Z'], rest)
    else if c = '+' || c = '-' then do
      let (hour, more) ← fixed? 2 rest
      let (minute, more) ← fixed? 2 (← after? ':' more)
      if 23 < hour || 59 < minute then none
      let sign := if hour = 0 && minute = 0 then '+' else c
      some (sign :: rest.take 5, more)
    else some ([], s)

/-- A date, a time of day, or both, with or without the distance from universal time. -/
def dateTime? (s : Text) : Option Text :=
  match date? s with
  | some (date, []) => some date
  | some (date, mark :: rest) =>
    if mark = 'T' || mark = 't' || mark = ' ' then do
      let (time, rest) ← time? rest
      match ← offset? rest with
      | (offset, []) => some (date ++ ['T'] ++ time ++ offset)
      | _ => none
    else none
  | none =>
    match time? s with
    | some (time, []) => some time
    | _ => none

/-- What a word is shown as. -/
def word? (s : Text) : Option Text :=
  if s = ['t', 'r', 'u', 'e'] || s = ['f', 'a', 'l', 's', 'e'] then some s
  else ((whole? s).or (fraction? s)).or (dateTime? s)

/-- The characters that words are made of. -/
def isWordChar (c : Char) : Bool :=
  c.isAlphanum || c = '+' || c = '-' || c = '_' || c = '.' || c = ':'

/-- The word at the start of a text and the rest. A time of day after a date and a space
belongs to the word. -/
def splitWord (s : Text) : Text × Text :=
  let (word, rest) := s.span isWordChar
  match date? word, rest with
  | some (_, []), ' ' :: more =>
    if (more.head?.map Char.isDigit).getD false then
      let (time, rest) := more.span isWordChar
      (word ++ ' ' :: time, rest)
    else (word, rest)
  | _, _ => (word, rest)

end ProfilePicker.Settings.Toml
