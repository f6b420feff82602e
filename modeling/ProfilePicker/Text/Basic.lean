/-!
# Texts

A text is the list of its characters. Everything the program reads, compares and writes is a
text in this sense, so that each operation on it is a function on lists.
-/
namespace ProfilePicker

/-- A text, as the list of its characters. -/
abbrev Text := List Char

/-- A literal stands for the list of its characters. -/
instance : Coe String Text := ⟨String.toList⟩

/-- A class of characters, as the closed intervals of code points that make it up. -/
abbrev CharClass := List (Nat × Nat)

/-- A character is in a class when one of the intervals holds its code point. -/
def CharClass.holds (ranges : CharClass) (c : Char) : Bool :=
  ranges.any fun (first, last) => first ≤ c.toNat && c.toNat ≤ last

namespace Text

/-- A number in decimal digits. -/
def ofNat (n : Nat) : Text := Nat.toDigits 10 n

/-- The rest of a text after spaces and tabs. -/
def skipBlanks (s : Text) : Text := s.dropWhile fun c => c = ' ' || c = '\t'

/-- The text after a given beginning, if it begins so. -/
def dropStart? : Text → Text → Option Text
  | [], s => some s
  | _ :: _, [] => none
  | p :: ps, c :: s => if p = c then dropStart? ps s else none

/-- What stands before and after the first occurrence of a character. -/
def splitAt? (mark : Char) : Text → Option (Text × Text)
  | [] => none
  | c :: s =>
    if c = mark then some ([], s)
    else (splitAt? mark s).map fun (before, after) => (c :: before, after)

/-- A text begins so exactly when the beginning and what follows make it up. -/
theorem dropStart?_eq_some_iff {start s rest : Text} :
    dropStart? start s = some rest ↔ s = start ++ rest := by
  induction start generalizing s with
  | nil => simp [dropStart?, eq_comm]
  | cons p ps ih =>
    cases s with
    | nil => simp [dropStart?]
    | cons c s =>
      by_cases same : p = c
      · simp [dropStart?, same, ih]
      · simp [dropStart?, same, Ne.symm same]

/-- Splitting at a mark finds its first occurrence and loses nothing. -/
theorem splitAt?_eq_some_iff {mark : Char} {s before after : Text} :
    splitAt? mark s = some (before, after) ↔ mark ∉ before ∧ s = before ++ mark :: after := by
  induction s generalizing before with
  | nil => simp [splitAt?]
  | cons c s ih =>
    by_cases same : c = mark
    · subst same
      cases before with
      | nil => simp [splitAt?]
      | cons b bs => simp [splitAt?]; grind
    · cases before with
      | nil => simp [splitAt?, same]
      | cons b bs =>
        simp only [splitAt?, same, if_false, Option.map_eq_some_iff, Prod.mk.injEq,
          List.cons.injEq, List.mem_cons, List.cons_append, Prod.exists]
        constructor
        · rintro ⟨front, back, found, ⟨rfl, rfl⟩, rfl⟩
          have := ih.1 found
          exact ⟨by grind, rfl, this.2⟩
        · rintro ⟨absent, rfl, rfl⟩
          exact ⟨bs, after, ih.2 ⟨by grind, rfl⟩, ⟨rfl, rfl⟩, rfl⟩

end Text

end ProfilePicker
