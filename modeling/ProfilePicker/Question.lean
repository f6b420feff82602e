import ProfilePicker.Fault

/-!
# Questions to the user

The program asks four kinds of question, and each kind has its own kind of reply. How the user
reacts is a function of everything asked before and of the question: this covers every user,
also one who changes their mind, and a terminal that fails.
-/
namespace ProfilePicker

/-- A question. -/
inductive Question where
  /-- Which of some options? -/
  | select (title : Text) (options : List Text)
  /-- A text, with a suggestion that the user may accept. -/
  | input (title suggestion : Text)
  /-- A text that is not shown while it is typed. -/
  | password (title : Text)
  /-- Yes or no, with the reply that holds if the user just goes on. -/
  | confirm (title : Text) (default : Bool)
deriving Repr, DecidableEq

/-- What answers a question: the position of an option, a text, or yes or no. -/
abbrev Question.Reply : Question → Type
  | select _ _ => Nat
  | input _ _ => Text
  | password _ => Text
  | confirm _ _ => Bool

/-- How questions are answered: from the questions asked before, the reply to the next one, or
why there is none. -/
structure Prompt where
  /-- The reaction to a question. -/
  answer : List Question → (q : Question) → Except Fault q.Reply

end ProfilePicker
