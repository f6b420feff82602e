import ProfilePicker.Text.Basic

/-!
# Ranking options

How well an option fits a typed text. It fits if it has the typed characters in the same order,
and it fits the better the more of them stand together and where words begin. The score is the
best one among all ways to find the typed characters in the option. It is computed row by row,
one row for each typed character: a cell holds the best score up to a place in the option, once
with the typed character at that place and once with it before.
-/
namespace ProfilePicker.Ranking

/-- What a character is for the next one. -/
inductive Kind where
  /-- Separates words. -/
  | separator
  /-- Separates parts of words. -/
  | divider
  | small
  | capital
  | digit
  | other
deriving Repr, DecidableEq

/-- The characters that separate words. -/
def separators : Text := " /\\|()[]\x7b\x7d\x00"

/-- The characters that separate parts of words. -/
def dividers : Text := "!\"#$%&'*+,-.:;<=>?@^_\x60~"

/-- What a character is for the next one. -/
def Kind.of (c : Char) : Kind :=
  if separators.contains c then separator
  else if dividers.contains c then divider
  else if c.isLower then small
  else if c.isUpper then capital
  else if c.isDigit then digit
  else other

/-- The points for a typed character that is found. -/
def found : Int := 16

/-- The points for one that is found in the other letter case. -/
def foundInOtherCase : Int := 14

/-- The least points for one that directly follows the one typed before it. -/
def adjacent : Int := 4

/-- The points that the first character of a gap costs. -/
def gapStart : Int := 4

/-- The points that each further character of a gap costs. -/
def gapGrowth : Int := 1

/-- The score of what is impossible. -/
def hopeless : Int := -32768

/-- The points for a place in an option, by the characters on both sides of its beginning. -/
def placePoints : Kind → Kind → Int
  | .separator, _ => 8
  | .divider, _ => 7
  | .small, .capital | .digit, .capital => 6
  | _, _ => 0

/-- The characters of a text with the points for their places, after a character. -/
def placesAfter (before : Kind) : Text → List (Char × Int)
  | [] => []
  | c :: rest => (c, placePoints before (.of c)) :: placesAfter (.of c) rest

/-- The characters of an option with the points for their places. The first place counts twice. -/
def places (option : Text) : List (Char × Int) :=
  match placesAfter .separator option with
  | [] => []
  | (c, points) :: rest => (c, 2 * points) :: rest

/-- The points for a typed character at a character of an option, if it is found there. -/
def points? (typed c : Char) : Option Int :=
  if typed = c then some found
  else if typed.toLower = c.toLower then some foundInOtherCase
  else none

/-- The best scores up to a place in an option. -/
structure Cell where
  /-- With the character typed last at this place. -/
  here : Int
  /-- With that character before this place. -/
  before : Int

/-- The cell before the first place of a row. -/
def edge : Cell := ⟨hopeless, hopeless⟩

/-- The cell of a place: `left` is the cell before it, and `above` the cell before it in the row
of the characters typed before. -/
def cell (typed : Char) (left above : Cell) (place : Char × Int) : Cell where
  here :=
    match points? typed place.1 with
    | some points => points + max (above.here + max place.2 adjacent) (above.before + place.2)
    | none => hopeless
  before := max (left.here - gapStart) (left.before - gapGrowth)

/-- The cells of a row from some place on. -/
def cellsFrom (typed : Char) (left : Cell) : List Cell → List (Char × Int) → List Cell
  | above :: row, place :: rest =>
    let here := cell typed left above place
    here :: cellsFrom typed here row rest
  | _, _ => []

/-- The row of a typed character under the row of those before it. -/
def nextRow (places : List (Char × Int)) (row : List Cell) (typed : Char) : List Cell :=
  edge :: cellsFrom typed edge row places

/-- The row before any typed character: a gap has begun everywhere. -/
def firstRow (places : List (Char × Int)) : List Cell :=
  List.replicate (places.length + 1) ⟨hopeless, -gapGrowth⟩

/-- The score of an option for a typed text. -/
def score (typed option : Text) : Int :=
  if typed.isEmpty then 0
  else
    let row := typed.foldl (nextRow (places option)) (firstRow (places option))
    (row.map (·.here)).foldl max hopeless

/-- Whether an option has the typed characters in the same order, in either case of the letters
of the basic alphabet. -/
def fits (typed option : Text) : Bool :=
  (typed.map Char.toLower).isSublist (option.map Char.toLower)

/-- The positions of the options that fit, the best one first. Of options that fit equally well
the first one stays first. -/
def ranked (options : List Text) (typed : Text) : List Nat :=
  let scored := (options.zipIdx.filter fun (option, _) => fits typed option).map
    fun (option, index) => (score typed option, index)
  (scored.mergeSort fun a b => b.1 ≤ a.1).map (·.2)

end ProfilePicker.Ranking
