import ProfilePicker.Question
import ProfilePicker.Ranking
import ProfilePicker.Text.Cluster
import ProfilePicker.Text.LetterCase

/-!
# Answering by keys

What a user types at a terminal, and the reply it amounts to. Typed text can be taken back, each
time what a reader takes for one character. In a list the marked option moves up and down and
around the ends, and typed text keeps the options that fit it, the best one first. The escape
key and the interrupt cancel any question.
-/
namespace ProfilePicker.Terminal

/-- A key. -/
inductive Key where
  /-- A character of a text. -/
  | char (c : Char)
  /-- The end of a reply. -/
  | enter
  /-- Taking back the last character. -/
  | backspace
  /-- To the option above. -/
  | up
  /-- To the option below. -/
  | down
  /-- No reply at all. -/
  | cancel
deriving Repr, DecidableEq

/-- The keys that some characters from a terminal stand for. Other control characters than those
of the keys stand for nothing. -/
def keys : Text → List Key
  | [] => []
  | '\x1b' :: '[' :: 'A' :: rest => .up :: keys rest
  | '\x1b' :: '[' :: 'B' :: rest => .down :: keys rest
  | '\x1b' :: rest => .cancel :: keys rest
  | '\x03' :: rest => .cancel :: keys rest
  | '\r' :: rest | '\n' :: rest => .enter :: keys rest
  | '\x7f' :: rest => .backspace :: keys rest
  | c :: rest => if c.toNat < 0x20 then keys rest else .char c :: keys rest

/-- The fault of a question when there is no terminal. -/
def noTerminal : Fault := .prompt "The input device is not a TTY"

/-- The text after a key that changes it. -/
def edited (typed : Text) : Key → Text
  | .char c => typed ++ [c]
  | .backspace => typed.withoutLastCluster
  | _ => typed

/-- A typed text. It is read when the reader of texts takes it, and can be corrected as long as
it does not. -/
def typedReply {α : Type} (read? : Text → Option α) (typed : Text) : List Key → Except Fault α
  | [] => .error noTerminal
  | .cancel :: _ => .error .canceled
  | .enter :: rest =>
    match read? typed with
    | some value => .ok value
    | none => typedReply read? typed rest
  | key :: rest => typedReply read? (edited typed key) rest

/-- A text, or the suggestion for no text. -/
def readInput? (suggestion typed : Text) : Option Text :=
  some (if typed.isEmpty then suggestion else typed)

/-- Yes or no in any letter case, or what holds without an answer. -/
def readConfirmation? (default : Bool) (typed : Text) : Option Bool :=
  let word := typed.toLower
  if typed.isEmpty then some default
  else if word = ['y'] || word = ['y', 'e', 's'] then some true
  else if word = ['n'] || word = ['n', 'o'] then some false
  else none

/-- A list of options while the user looks for one. -/
structure Search where
  /-- What has been typed. -/
  typed : Text
  /-- The positions of the options that are kept, in the order they are shown. -/
  kept : List Nat
  /-- The marked place among them. -/
  marked : Nat

namespace Search

/-- The list before anything is typed. -/
def start (options : List Text) : Search := ⟨[], Ranking.ranked options [], 0⟩

/-- The list after a further key. The mark moves around the ends, and goes back to the first place
when the typed text changes what is shown. -/
def press (options : List Text) (s : Search) : Key → Search
  | .up => { s with marked := if s.marked = 0 then s.kept.length - 1 else s.marked - 1 }
  | .down => { s with marked := if s.kept.length ≤ s.marked + 1 then 0 else s.marked + 1 }
  | key =>
    let typed := edited s.typed key
    let kept := Ranking.ranked options typed
    ⟨typed, kept, if kept = s.kept then s.marked else 0⟩

end Search

/-- The position of an option. The key that ends a reply does nothing in an empty list. -/
def selectReply (options : List Text) (s : Search) : List Key → Except Fault Nat
  | [] => .error noTerminal
  | .cancel :: _ => .error .canceled
  | .enter :: rest =>
    match s.kept[s.marked]? with
    | some index => .ok index
    | none => selectReply options s rest
  | key :: rest => selectReply options (s.press options key) rest

/-- The reply to a question that some keys amount to. -/
def reply (typed : List Key) : (q : Question) → Except Fault q.Reply
  | .select _ options => selectReply options (.start options) typed
  | .input _ suggestion => typedReply (readInput? suggestion) [] typed
  | .password _ => typedReply some [] typed
  | .confirm _ default => typedReply (readConfirmation? default) [] typed

/-- Whether some characters are enough to end a question. -/
def isEnough (q : Question) (typed : Text) : Bool :=
  match reply (keys typed) q with
  | .ok _ => true
  | .error fault => fault ≠ noTerminal

/-- How a terminal shows a question. -/
def shown : Question → Text
  | .select title options =>
    title ++ ['\n'] ++ options.flatMap fun option => [' ', ' '] ++ option ++ ['\n']
  | .input title suggestion =>
    if suggestion.isEmpty then title ++ " " else title ++ " (" ++ suggestion ++ ") "
  | .password title => title ++ " "
  | .confirm title default => title ++ if default then " (Y/n) " else " (y/N) "

/-- The user who types the given characters at each question in turn. -/
def typing (entries : List Text) : Prompt where
  answer before q :=
    match entries[before.length]? with
    | some typed => reply (keys typed) q
    | none => .error noTerminal

/-- Nobody at all: every question fails. -/
def absent : Prompt := typing []

end ProfilePicker.Terminal
