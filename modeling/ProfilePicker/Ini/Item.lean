import ProfilePicker.Text.Blank
import ProfilePicker.Text.Placed

/-!
# What a settings text says

A settings text is read as a list of items in the order of the text: a header, which names the
section of the entries after it, and an entry, which gives a key a value. The reader goes
through the characters turn by turn. It keeps the key it has read until the value of that key
follows, so key and value may stand on different lines.

Nothing is unquoted and no escape is resolved, since values such as secrets have to be read
character for character; a backslash only keeps the next character from ending a name, a key
or a value, and disappears together with a line feed after it.
-/
namespace ProfilePicker.Ini

/-- One statement of a settings text. -/
inductive Item where
  /-- The entries after it belong to the section of this name. -/
  | header (name : Text)
  /-- A key has a value. -/
  | entry (key value : Text)
deriving Repr, DecidableEq

/-- Why a settings text cannot be read. -/
inductive Cause where
  /-- A comment that does not start its line. -/
  | inlineComment
  /-- A value without a key before it. -/
  | missingKey
  /-- A header that is not closed before the text ends. -/
  | openHeader
  /-- A key that is not followed by a value before the text ends. -/
  | keyWithoutValue
deriving Repr, DecidableEq

/-- The wording of a cause. -/
def Cause.message : Cause → Text
  | inlineComment => "doesn't support inline comment"
  | missingKey => "missing key"
  | openHeader => "expecting \"[Some(']')]\" but found EOF."
  | keyWithoutValue => "expecting \"[Some('='), Some(':')]\" but found EOF."

/-- A cause and the line and column where the reader stood, both counted from one. -/
structure Problem where
  /-- The line. -/
  line : Nat
  /-- The column. -/
  column : Nat
  /-- The cause. -/
  cause : Cause
deriving Repr, DecidableEq

/-- A problem at a character; before the first character of a text when there is none. -/
def Problem.at (place : Option Placed) (cause : Cause) : Problem :=
  match place with
  | some p => ⟨p.line + 1, p.column + 1, cause⟩
  | none => ⟨1, 1, cause⟩

/-- The characters that begin a comment. -/
def startsComment (c : Char) : Bool := c = ';' || c = '#'

/-- The characters that separate a key from its value. -/
def isDelimiter (c : Char) : Bool := c = '=' || c = ':'

/-- The characters that indent a line. -/
def isIndent (c : Char) : Bool := c = ' ' || c = '\t'

/-- The characters that end a line. -/
def isLineEnd (c : Char) : Bool := c = '\n' || c = '\r'

/-- The characters before the first one that ends the piece, and the rest from there on. A
backslash protects the character after it; with a line feed after it, both are left out. -/
def takeUntil (ends : Char → Bool) : List Placed → Text × List Placed
  | [] => ([], [])
  | [p] => if ends p.char then ([], [p]) else ([p.char], [])
  | p :: q :: rest =>
    if ends p.char then ([], p :: q :: rest)
    else if p.char = '\\' then
      let (piece, after) := takeUntil ends rest
      if q.char = '\n' then (piece, after) else (p.char :: q.char :: piece, after)
    else
      let (piece, after) := takeUntil ends (q :: rest)
      (p.char :: piece, after)

/-- What follows the end of the line. -/
def afterLine (s : List Placed) : List Placed := (s.dropWhile (·.char != '\n')).drop 1

/-- What follows the blanks between two items. An indented line is not such a gap: its
indentation is left for the next turn. -/
def skipGap : List Placed → List Placed
  | [] => []
  | [p] => if isBlank p.char then [] else [p]
  | p :: q :: rest =>
    if !isBlank p.char then p :: q :: rest
    else if isLineEnd p.char && isIndent q.char then q :: rest
    else skipGap (q :: rest)

/-- What one turn of the reader yields. -/
structure Turn where
  /-- The item that the turn completed. -/
  item : Option Item
  /-- The key that waits for its value; empty when none does. -/
  key : Text
  /-- The characters left to read. -/
  rest : List Placed

/-- A header, from the character after its opening bracket. -/
def header (last : Option Placed) (key : Text) (s : List Placed) : Except Problem Turn :=
  match takeUntil (· = ']') s with
  | (_, []) => .error (.at last .openHeader)
  | (name, _ :: rest) => .ok ⟨some (.header name.trim), key, skipGap rest⟩

/-- The value of a key, from the character after the delimiter. -/
def value (key : Text) (s : List Placed) : Turn :=
  let start := s.dropWhile fun p => isBlank p.char && !isLineEnd p.char
  let (written, rest) := takeUntil isLineEnd start
  ⟨some (.entry key written.trim), [], skipGap rest⟩

/-- An indented line, from the first character after its indentation. A key that no delimiter
follows is dropped here without complaint. -/
def indented (last : Option Placed) (key : Text) : List Placed → Except Problem Turn
  | [] => .ok ⟨none, key, []⟩
  | p :: rest =>
    if p.char = '[' then header last key rest
    else if isLineEnd p.char then .ok ⟨none, key, rest⟩
    else
      let (name, after) := takeUntil isDelimiter (p :: rest)
      .ok ⟨none, name.trim, skipGap after⟩

/-- One turn of the reader, at a character of the text with the given rest. The last character
of the whole text is where problems at the end of the text are reported. -/
def turn (last : Option Placed) (key : Text) (p : Placed) (rest : List Placed) :
    Except Problem Turn :=
  if startsComment p.char then
    if p.column > 1 then .error (.at p .inlineComment)
    else .ok ⟨none, key, skipGap (afterLine rest)⟩
  else if p.char = '[' then header last key rest
  else if isDelimiter p.char then
    if key.isEmpty then .error (.at p .missingKey) else .ok (value key rest)
  else if isIndent p.char then indented last key (rest.dropWhile (isIndent ·.char))
  else if isLineEnd p.char then .ok ⟨none, key, skipGap rest⟩
  else
    match takeUntil isDelimiter (p :: rest) with
    | (_, []) => .error (.at last .keyWithoutValue)
    | (name, q :: after) => .ok ⟨none, name.trim, skipGap (q :: after)⟩

/-! ## Every turn goes forward -/

theorem takeUntil_length_le (ends : Char → Bool) (s : List Placed) :
    (takeUntil ends s).2.length ≤ s.length := by
  fun_induction takeUntil ends s <;> simp_all <;> omega

/-- A piece that does not end at its first character takes that character. -/
theorem takeUntil_cons_length_le {ends : Char → Bool} {p : Placed} (goesOn : ends p.char = false)
    (rest : List Placed) : (takeUntil ends (p :: rest)).2.length ≤ rest.length := by
  cases rest with
  | nil => simp [takeUntil, goesOn]
  | cons q rest =>
    have inner := takeUntil_length_le ends rest
    have outer := takeUntil_length_le ends (q :: rest)
    simp only [takeUntil, goesOn, Bool.false_eq_true, if_false, List.length_cons] at outer ⊢
    split
    · split <;> exact Nat.le_trans inner (Nat.le_succ _)
    · simpa using outer

theorem skipGap_length_le (s : List Placed) : (skipGap s).length ≤ s.length := by
  fun_induction skipGap s with
  | case1 => simp
  | case2 => simp
  | case3 => simp
  | case4 => simp
  | case5 => simp
  | case6 p q rest _ _ ih => exact Nat.le_trans ih (Nat.le_succ _)

theorem length_dropWhile_le (p : Placed → Bool) (s : List Placed) :
    (s.dropWhile p).length ≤ s.length :=
  (List.dropWhile_sublist p).length_le

theorem afterLine_length_le (s : List Placed) : (afterLine s).length ≤ s.length := by
  have := length_dropWhile_le (·.char != '\n') s
  simp only [afterLine, List.length_drop]
  omega

theorem header_length_le {last : Option Placed} {key : Text} {s : List Placed} {t : Turn}
    (done : header last key s = .ok t) : t.rest.length ≤ s.length := by
  have shorter := takeUntil_length_le (· = ']') s
  unfold header at done
  split at done
  · cases done
  · rename_i name close rest found
    rw [found] at shorter
    have := skipGap_length_le rest
    cases done
    simp only [List.length_cons] at shorter ⊢
    omega

theorem value_length_le (key : Text) (s : List Placed) :
    (value key s).rest.length ≤ s.length := by
  have start := length_dropWhile_le (fun p => isBlank p.char && !isLineEnd p.char) s
  have taken := takeUntil_length_le isLineEnd
    (s.dropWhile fun p => isBlank p.char && !isLineEnd p.char)
  exact Nat.le_trans (skipGap_length_le _) (Nat.le_trans taken start)

theorem indented_length_le {last : Option Placed} {key : Text} {s : List Placed} {t : Turn}
    (done : indented last key s = .ok t) : t.rest.length ≤ s.length := by
  cases s with
  | nil => cases done; simp
  | cons p rest =>
    simp only [indented] at done
    split at done
    · have := header_length_le done
      simp only [List.length_cons]
      omega
    · split at done
      · cases done; simp
      · cases done
        exact Nat.le_trans (skipGap_length_le _) (takeUntil_length_le _ _)

/-- A turn takes at least the character it stands at. -/
theorem turn_length_le {last : Option Placed} {key : Text} {p : Placed} {rest : List Placed}
    {t : Turn} (done : turn last key p rest = .ok t) : t.rest.length ≤ rest.length := by
  simp only [turn] at done
  split at done
  · split at done
    · cases done
    · cases done
      exact Nat.le_trans (skipGap_length_le _) (afterLine_length_le rest)
  split at done
  · exact header_length_le done
  split at done
  · split at done
    · cases done
    · cases done
      exact value_length_le key rest
  split at done
  · exact Nat.le_trans (indented_length_le done) (length_dropWhile_le _ rest)
  split at done
  · cases done
    exact skipGap_length_le rest
  · rename_i goesOn _ _
    split at done
    · cases done
    · rename_i name q after found
      have shorter := takeUntil_cons_length_le (by simpa using goesOn) rest
      rw [found] at shorter
      cases done
      exact Nat.le_trans (skipGap_length_le _) shorter

/-- The items of the characters left to read while a key waits for its value. -/
def itemsFrom (last : Option Placed) (key : Text) : List Placed → Except Problem (List Item)
  | [] => .ok []
  | p :: rest =>
    match done : turn last key p rest with
    | .error problem => .error problem
    | .ok t =>
      have : t.rest.length ≤ rest.length := turn_length_le done
      match itemsFrom last t.key t.rest with
      | .error problem => .error problem
      | .ok more => .ok (t.item.toList ++ more)
termination_by s => s.length

/-- The items of a settings text. -/
def items (s : Text) : Except Problem (List Item) :=
  itemsFrom s.placed.getLast? [] s.placed

end ProfilePicker.Ini
