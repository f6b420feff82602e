import ProfilePicker.Text.Cluster.Table

/-!
# Characters as a reader sees them

What a reader takes for one character may be several in a row: a letter with its accents, a
syllable, a flag of two letters, a picture joined from others. Such a row is a cluster. Where a
cluster ends depends on the next character and on what comes before it, which a small state
remembers. Main statement: the clusters of a text make it up.
-/
namespace ProfilePicker.Text

/-- What a character is to its neighbours. -/
inductive Joint where
  | carriageReturn
  | lineFeed
  | control
  /-- Extends what comes before it. -/
  | extender
  /-- Extends what comes before it and links a consonant to the next one. -/
  | linker
  /-- Extends what comes before it and keeps it from being linked. -/
  | nonJoiner
  /-- Extends what comes before it and joins it to a picture. -/
  | joiner
  | spacingMark
  | leadingMark
  | linkable
  | picture
  /-- One of the two letters of a flag. -/
  | flagLetter
  /-- The leading consonant of a syllable. -/
  | lead
  /-- The vowel of a syllable. -/
  | vowel
  /-- The trailing consonant of a syllable. -/
  | trail
  /-- A syllable that ends with its vowel. -/
  | openSyllable
  /-- A syllable that ends with a consonant. -/
  | closedSyllable
  | other
deriving Repr, DecidableEq

namespace Joint

/-- The first syllable that is one character. -/
def firstSyllable : Nat := 0xac00

/-- The last syllable that is one character. -/
def lastSyllable : Nat := 0xd7a3

/-- How many syllables differ in their trailing consonant alone, the one without any included. -/
def trailCount : Nat := 28

/-- What a character is to its neighbours. -/
def of (c : Char) : Joint :=
  if c = '\r' then carriageReturn
  else if c = '\n' then lineFeed
  else if c = '\u200d' then joiner
  else if c = '\u200c' then nonJoiner
  else if firstSyllable ≤ c.toNat && c.toNat ≤ lastSyllable then
    if (c.toNat - firstSyllable) % trailCount = 0 then openSyllable else closedSyllable
  else if 0x1f1e6 ≤ c.toNat && c.toNat ≤ 0x1f1ff then flagLetter
  else if linkerRanges.holds c then linker
  else if extenderRanges.holds c then extender
  else if spacingMarkRanges.holds c then spacingMark
  else if controlRanges.holds c then control
  else if leadingMarkRanges.holds c then leadingMark
  else if linkableRanges.holds c then linkable
  else if pictureRanges.holds c then picture
  else if leadRanges.holds c then lead
  else if vowelRanges.holds c then vowel
  else if trailRanges.holds c then trail
  else other

/-- Whether a character breaks a row wherever it stands. -/
def isBreak : Joint → Bool
  | carriageReturn | lineFeed | control => true
  | _ => false

/-- Whether a character belongs to what comes before it. -/
def isAttached : Joint → Bool
  | extender | linker | nonJoiner | joiner | spacingMark => true
  | _ => false

/-- Whether two neighbours are parts of one syllable. -/
def sharesSyllable : Joint → Joint → Bool
  | lead, lead | lead, vowel | lead, openSyllable | lead, closedSyllable => true
  | openSyllable, vowel | openSyllable, trail | vowel, vowel | vowel, trail => true
  | closedSyllable, trail | trail, trail => true
  | _, _ => false

end Joint

/-- What the characters read so far wait for. -/
inductive Awaiting where
  /-- Nothing. -/
  | nothing
  /-- The second letter of a flag. -/
  | flagLetter
  /-- A joiner after a picture. -/
  | joiner
  /-- A picture to be joined. -/
  | picture
  /-- A linker after a consonant. -/
  | linker
  /-- A consonant to be linked. -/
  | consonant
deriving Repr, DecidableEq

/-- What the characters read so far wait for after one more. -/
def Awaiting.next : Awaiting → Joint → Awaiting
  | flagLetter, .flagLetter => nothing
  | _, .flagLetter => flagLetter
  | _, .picture => joiner
  | joiner, .extender | joiner, .linker | joiner, .nonJoiner => joiner
  | joiner, .joiner => picture
  | _, .linkable => linker
  | linker, .extender | linker, .joiner => linker
  | linker, .linker => consonant
  | consonant, .extender | consonant, .joiner | consonant, .linker => consonant
  | _, _ => nothing

/-- The characters read so far, as far as the next one depends on them. -/
structure Cluster where
  /-- The last character. -/
  last : Joint
  /-- What they wait for. -/
  awaiting : Awaiting

namespace Cluster

/-- Nothing read. -/
def start : Cluster := ⟨.control, .nothing⟩

/-- The characters read so far and one more. -/
def next (r : Cluster) (j : Joint) : Cluster := ⟨j, r.awaiting.next j⟩

/-- Whether the next character belongs to the same cluster. -/
def takes (r : Cluster) (j : Joint) : Bool :=
  if r.last.isBreak || j.isBreak then r.last = .carriageReturn && j = .lineFeed
  else j.isAttached || r.last = .leadingMark || r.last.sharesSyllable j ||
    (j = .flagLetter && r.awaiting = .flagLetter) || (j = .picture && r.awaiting = .picture) ||
    (j = .linkable && r.awaiting = .consonant)

/-- The rest of the cluster that is being read, and the clusters after it. -/
def split (r : Cluster) : Text → Text × List Text
  | [] => ([], [])
  | c :: rest =>
    let (own, more) := (r.next (.of c)).split rest
    if r.takes (.of c) then (c :: own, more) else ([], (c :: own) :: more)

theorem split_flatten (r : Cluster) (s : Text) : (r.split s).1 ++ (r.split s).2.flatten = s := by
  induction s generalizing r with
  | nil => rfl
  | cons c rest ih =>
    have later := ih (r.next (.of c))
    by_cases taken : r.takes (.of c) <;> simp [split, taken, later]

end Cluster

/-- The clusters of a text. -/
def clusters (s : Text) : List Text := (Cluster.start.split s).2

/-- A text without its last cluster. -/
def withoutLastCluster (s : Text) : Text := s.clusters.dropLast.flatten

/-- Nothing comes before the first cluster. -/
theorem start_split_fst (s : Text) : (Cluster.start.split s).1 = [] := by
  cases s with
  | nil => rfl
  | cons c rest => simp [Cluster.split, Cluster.takes, Cluster.start, Joint.isBreak]

/-- The clusters of a text make it up. -/
theorem clusters_flatten (s : Text) : s.clusters.flatten = s := by
  have whole := Cluster.start.split_flatten s
  rwa [start_split_fst, List.nil_append] at whole

end ProfilePicker.Text
