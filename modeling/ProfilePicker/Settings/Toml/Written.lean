import ProfilePicker.Settings.Toml.Scalar

/-!
# Strings, keys and blanks of TOML

The parts of a TOML text below its values. A string stands between quotation marks, with
escapes, or between apostrophes, as it is; between three of either it may hold line ends, which
are kept as they are written. A key is a list of names with points between them.
-/
namespace ProfilePicker.Settings.Toml

/-- Whether a character may stand in a comment or a string. -/
def isPlain (c : Char) : Bool := c = '\t' || (0x20 ≤ c.toNat && c.toNat ≠ 0x7f)

/-- The rest of a text after a line end. -/
def lineEnd? : Text → Option Text
  | '\n' :: rest => some rest
  | '\r' :: '\n' :: rest => some rest
  | _ => none

/-- The rest of a text after a comment, if one is there. -/
def skipComment : Text → Text
  | '#' :: rest => rest.dropWhile isPlain
  | s => s

/-- The rest of a text after the end of a statement: spaces, a comment, and a line end or the
end of the text. -/
def statementEnd? (s : Text) : Option Text :=
  match skipComment s.skipBlanks with
  | [] => some []
  | rest => lineEnd? rest

/-- The rest of a text after spaces, comments and line ends. -/
def skipLines : Nat → Text → Text
  | 0, s => s
  | fuel + 1, s =>
    let rest := skipComment s.skipBlanks
    match lineEnd? rest with
    | some more => skipLines fuel more
    | none => rest

/-- The character of a code point, if it is one. -/
def charOf? (n : Nat) : Option Char :=
  if n < 0xd800 || (0xdfff < n && n < 0x110000) then some (Char.ofNat n) else none

/-- The character that so many digits to the base sixteen name, and the rest. -/
def namedChar? (count : Nat) (s : Text) : Option (Char × Text) :=
  let digits := s.take count
  if digits.length = count && digits.all isHexDigit then
    (charOf? (numberOf 16 digits)).map fun c => (c, s.drop count)
  else none

/-- The character of an escape, after the backslash, and the rest. -/
def escaped? : Text → Option (Char × Text)
  | 'b' :: rest => some ('\x08', rest)
  | 't' :: rest => some ('\t', rest)
  | 'n' :: rest => some ('\n', rest)
  | 'f' :: rest => some ('\x0c', rest)
  | 'r' :: rest => some ('\r', rest)
  | 'e' :: rest => some ('\x1b', rest)
  | '"' :: rest => some ('"', rest)
  | '\\' :: rest => some ('\\', rest)
  | 'x' :: rest => namedChar? 2 rest
  | 'u' :: rest => namedChar? 4 rest
  | 'U' :: rest => namedChar? 8 rest
  | _ => none

/-- A string of one line with escapes, after its opening mark, and the rest. -/
def quotedLine? : Nat → Text → Option (Text × Text)
  | 0, _ => none
  | _ + 1, [] => none
  | fuel + 1, c :: rest =>
    if c = '"' then some ([], rest)
    else if c = '\\' then do
      let (d, rest) ← escaped? rest
      let (s, rest) ← quotedLine? fuel rest
      return (d :: s, rest)
    else if isPlain c then (quotedLine? fuel rest).map fun (s, rest) => (c :: s, rest)
    else none

/-- A string of one line without escapes, after its opening mark, and the rest. -/
def literalLine? : Text → Option (Text × Text)
  | [] => none
  | c :: rest =>
    if c = '\'' then some ([], rest)
    else if isPlain c then (literalLine? rest).map fun (s, rest) => (c :: s, rest)
    else none

/-- The rest of a text after blanks and line ends, for a line that is continued. -/
def skipToText : Text → Text
  | ' ' :: rest => skipToText rest
  | '\t' :: rest => skipToText rest
  | '\n' :: rest => skipToText rest
  | '\r' :: '\n' :: rest => skipToText rest
  | s => s

/-- Whether spaces and a line end come next. -/
def endsLine (s : Text) : Bool := (lineEnd? s.skipBlanks).isSome

/-- A string of several lines, after its opening marks, and the rest. Up to two marks may stand
before the three that close it. -/
def severalLines? (mark : Char) (escapes : Bool) : Nat → Text → Option (Text × Text)
  | 0, _ => none
  | _ + 1, [] => none
  | fuel + 1, c :: rest =>
    if c = mark then
      let run := (rest.takeWhile (· = mark)).length + 1
      let behind := rest.drop (run - 1)
      if run < 3 then
        (severalLines? mark escapes fuel behind).map fun (s, rest) =>
          (List.replicate run mark ++ s, rest)
      else if run ≤ 5 then some (List.replicate (run - 3) mark, behind)
      else none
    else if escapes && c = '\\' then
      if endsLine rest then severalLines? mark escapes fuel (skipToText rest)
      else do
        let (d, rest) ← escaped? rest
        let (s, rest) ← severalLines? mark escapes fuel rest
        return (d :: s, rest)
    else if isPlain c || (lineEnd? (c :: rest)).isSome then
      (severalLines? mark escapes fuel rest).map fun (s, rest) => (c :: s, rest)
    else none

/-- The rest of a text after a line end, if one comes next. -/
def dropLineEnd (s : Text) : Text := (lineEnd? s).getD s

/-- A string and the rest. -/
def string? (s : Text) : Option (Text × Text) :=
  match s with
  | '"' :: '"' :: '"' :: rest => severalLines? '"' true (rest.length + 1) (dropLineEnd rest)
  | '\'' :: '\'' :: '\'' :: rest => severalLines? '\'' false (rest.length + 1) (dropLineEnd rest)
  | '"' :: rest => quotedLine? (rest.length + 1) rest
  | '\'' :: rest => literalLine? rest
  | _ => none

/-- The characters of a name without quotation marks. -/
def isBareChar (c : Char) : Bool := c.isAlphanum || c = '_' || c = '-'

/-- One name of a key and the rest. -/
def name? (s : Text) : Option (Text × Text) :=
  match s with
  | '"' :: rest => quotedLine? (rest.length + 1) rest
  | '\'' :: rest => literalLine? rest
  | _ =>
    match s.span isBareChar with
    | ([], _) => none
    | (name, rest) => some (name, rest)

/-- The most names that a key can have. -/
def mostNames : Nat := 80

/-- A key of at most so many names and the rest. -/
def keyWithin? : Nat → Text → Option (List Text × Text)
  | 0, _ => none
  | fuel + 1, s => do
    let (name, rest) ← name? s.skipBlanks
    match rest.skipBlanks with
    | '.' :: more => (keyWithin? fuel more).map fun (key, rest) => (name :: key, rest)
    | rest => some ([name], rest)

/-- A key and the rest. -/
def key? (s : Text) : Option (List Text × Text) := keyWithin? mostNames s

end ProfilePicker.Settings.Toml
