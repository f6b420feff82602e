import ProfilePicker.Text.LetterCase.Table

/-!
# Writing a text small

Every capital letter becomes its small letter. Two letters need more than the table: the
dotted capital I becomes an i and a dot above, and the capital sigma has a second small form
at the end of a word, which depends on the letters around it.
-/
namespace ProfilePicker

/-- The run of the table that holds a character. -/
def CaseRun.covers (run : CaseRun) (c : Char) : Bool :=
  run.first ≤ c.toNat && c.toNat < run.first + run.count * run.stride &&
    (c.toNat - run.first) % run.stride = 0

/-- The small letter of a capital letter with one small form; any other character itself. -/
def smallLetter (c : Char) : Char :=
  match caseRuns.find? (·.covers c) with
  | some run => Char.ofNat (run.small + (c.toNat - run.first))
  | none => c

namespace Text

/-- Whether the first character that letter case does not look past has letter case. -/
def startsCased (s : Text) : Bool :=
  match s.dropWhile caseIgnorableRanges.holds with
  | c :: _ => casedRanges.holds c
  | [] => false

/-- A capital sigma ends a word when a cased character stands before it and none after it; the
text before it is given last character first. -/
def sigmaEndsWord (before after : Text) : Bool := startsCased before && !startsCased after

/-- The small form of one character between the text before it, last character first, and the
text after it. -/
def smallForm (before : Text) (c : Char) (after : Text) : Text :=
  if c = 'Σ' then [if sigmaEndsWord before after then 'ς' else 'σ']
  else if c = 'İ' then ['i', '\u0307']
  else [smallLetter c]

/-- The small forms of the rest of a text, after a part given last character first. -/
def toLowerAfter (before : Text) : Text → Text
  | [] => []
  | c :: after => smallForm before c after ++ toLowerAfter (c :: before) after

/-- The text with every capital letter written small. -/
def toLower (s : Text) : Text := toLowerAfter [] s

/-- A character is written small as one character at least. -/
theorem smallForm_ne_nil (before : Text) (c : Char) (after : Text) :
    smallForm before c after ≠ [] := by
  rw [smallForm]
  split
  · simp
  · split <;> simp

/-- Small letters do not make a text empty. -/
theorem toLowerAfter_ne_nil (before : Text) {s : Text} (nonempty : s ≠ []) :
    toLowerAfter before s ≠ [] := by
  obtain ⟨c, rest, rfl⟩ := List.exists_cons_of_ne_nil nonempty
  rw [toLowerAfter]
  exact List.append_ne_nil_of_left_ne_nil (smallForm_ne_nil before c rest) _

/-- Letters of the basic alphabet compared without regard to case, all else exactly. -/
def equalsIgnoringBasicCase (s t : Text) : Bool := s.map Char.toLower == t.map Char.toLower

end Text

end ProfilePicker
