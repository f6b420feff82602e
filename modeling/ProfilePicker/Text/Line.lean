import ProfilePicker.Text.Basic

/-!
# Lines

A line ends with a line feed, and a carriage return directly before the line feed belongs to
the ending. The last line of a text may lack its ending; a text that ends with a line ending
has no further, empty line after it.
-/
namespace ProfilePicker.Text

/-- The lines of a text, without their endings. -/
def lines : Text → List Text
  | [] => []
  | '\n' :: rest => [] :: lines rest
  | '\r' :: '\n' :: rest => [] :: lines rest
  | c :: rest =>
    match lines rest with
    | [] => [[c]]
    | line :: more => (c :: line) :: more

/-- The text of the given lines, each closed by the same ending. -/
def joinLines (ending : Text) (ls : List Text) : Text := ls.flatMap (· ++ ending)

/-- Whether some line of a text ends with a carriage return and a line feed. -/
def hasCarriageReturns : Text → Bool
  | '\r' :: '\n' :: _ => true
  | _ :: rest => hasCarriageReturns rest
  | [] => false

/-- The line ending an edit of the text uses: the long one as soon as it occurs once. -/
def lineEnding (s : Text) : Text := if s.hasCarriageReturns then "\r\n" else "\n"

end ProfilePicker.Text
