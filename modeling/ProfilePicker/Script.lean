import ProfilePicker.Question

/-!
# Scripted users

A user whose reactions are written down in advance, one for each question. A reaction of the
wrong kind counts as none, and takes the place of the right one.
-/
namespace ProfilePicker

/-- A reaction to a question. -/
inductive Answer where
  /-- The position of an option. -/
  | select (index : Nat)
  /-- A text; the suggestion if none is given. -/
  | input (text : Option Text)
  /-- A text that is not shown. -/
  | password (text : Text)
  /-- Yes or no; what holds without an answer if none is given. -/
  | confirm (value : Option Bool)
  /-- No reply but a fault. -/
  | fail (fault : Fault)
deriving Repr, DecidableEq

/-- What a reaction means for a question, if it is of the right kind. -/
def Answer.to? : Answer → (q : Question) → Option (Except Fault q.Reply)
  | fail fault, _ => some (.error fault)
  | select index, .select _ _ => some (.ok index)
  | input text, .input _ suggestion => some (.ok (text.getD suggestion))
  | password text, .password _ => some (.ok text)
  | confirm value, .confirm _ default => some (.ok (value.getD default))
  | _, _ => none

/-- The user with the given reactions, one after the other, and a fault for every question that
has none. -/
def Prompt.playing (answers : List Answer) (otherwise : Question → Fault) : Prompt where
  answer before q := ((answers[before.length]?).bind (·.to? q)).getD (.error (otherwise q))

end ProfilePicker
