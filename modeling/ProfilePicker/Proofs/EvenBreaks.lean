import ProfilePicker.Proofs.Lines

/-!
# Texts with even line breaks

A text whose line breaks are all of one kind, and which ends with one unless it is empty, is its
lines joined by that line break. Carriage returns elsewhere are characters like all others. And
lines that hold no line break come back from the text they are joined to, whose edits use the same
one.
-/
namespace ProfilePicker.Text

/-- A text that is empty or ends with a line break, where a carriage return stands before each line
feed when the ending is the long one, and before none when it is the short one. -/
structure ClosedBy (ending s : Text) : Prop where
  /-- A line feed stands at the end. -/
  closed : s ≠ [] → s.getLast? = some '\n'
  /-- All line breaks are of the kind of the ending. -/
  even : ∀ front back, s = front ++ '\n' :: back →
    (front.getLast? = some '\r' ↔ ending = longEnding)

/-- A text whose line breaks are all short or all long, and which ends with one unless it is
empty. -/
def EvenBreaks (s : Text) : Prop := ClosedBy shortEnding s ∨ ClosedBy longEnding s

/-- A line that one of the endings closes: no line feed stands in it, and none of its own characters
belongs to the ending. -/
structure IsLine (ending line : Text) : Prop where
  /-- No line feed stands in it. -/
  noFeed : '\n' ∉ line
  /-- A short ending behind it is not taken for a long one. -/
  noReturn : ending = shortEnding → line.getLast? ≠ some '\r'

variable {ending s line : Text}

/-- The two endings differ. -/
theorem shortEnding_ne_longEnding : shortEnding ≠ longEnding := by decide

/-- A text without line ends is a line, whatever closes it. -/
theorem OneLine.isLine (oneLine : OneLine line) (ending : Text) : IsLine ending line where
  noFeed := fun member => (oneLine _ member).1 rfl
  noReturn := fun _ last => (oneLine _ (List.mem_of_getLast? last)).2 rfl

/-- What follows the last character of a text. -/
theorem getLast?_append_cons (front back : Text) (c : Char) :
    (front ++ c :: back).getLast? = some (back.getLast?.getD c) := by
  rw [List.getLast?_append, List.getLast?_cons, Option.some_or]

namespace ClosedBy

/-- The empty text has no line breaks. -/
theorem nil (ending : Text) : ClosedBy ending [] where
  closed := fun filled => absurd rfl filled
  even := fun front back whole => by simp at whole

/-- What follows a line break is closed as the whole is. -/
theorem after (front : Text) (closes : ClosedBy ending (front ++ '\n' :: s)) :
    ClosedBy ending s := by
  refine ⟨fun filled => ?_, fun f back whole => ?_⟩
  · have last := closes.closed (by simp)
    rw [getLast?_append_cons] at last
    obtain ⟨c, found⟩ := List.getLast?_isSome.2 filled |> Option.isSome_iff_exists.1
    rw [found] at last ⊢
    exact last
  · have later := closes.even (front ++ '\n' :: f) back (by simp [whole])
    rw [getLast?_append_cons] at later
    cases last : f.getLast? with
    | none => simpa [last] using later
    | some c => simpa [last] using later

/-- What follows another character is, too, unless that character belongs to a line break. -/
theorem tail {c : Char} (closes : ClosedBy ending (c :: s)) (other : c ≠ '\n')
    (apart : ∀ rest, c = '\r' → s ≠ '\n' :: rest) : s ≠ [] ∧ ClosedBy ending s := by
  have filled : s ≠ [] := by
    rintro rfl
    exact other (by simpa using closes.closed (by simp))
  refine ⟨filled, fun _ => ?_, fun front back whole => ?_⟩
  · have last := closes.closed (by simp)
    rwa [List.getLast?_cons_of_ne_nil filled] at last
  · have later := closes.even (c :: front) back (by simp [whole])
    cases front with
    | nil =>
      have noReturn : c ≠ '\r' := fun same => apart back same whole
      simpa [noReturn] using later
    | cons d front => simpa using later

/-- A line and its ending stand in front of what is closed in the same way. -/
theorem cons (known : IsEnding ending) (isLine : IsLine ending line) (closes : ClosedBy ending s) :
    ClosedBy ending (line ++ ending ++ s) := by
  -- The ending is a line feed behind `back`, which is empty or a carriage return.
  obtain ⟨back, shape, noFeed, last⟩ : ∃ back, ending = back ++ ['\n'] ∧ '\n' ∉ line ++ back ∧
      ((line ++ back).getLast? = some '\r' ↔ ending = longEnding) := by
    rcases known with rfl | rfl
    · refine ⟨[], rfl, by simpa using isLine.noFeed, ?_⟩
      rw [List.append_nil]
      exact iff_of_false (isLine.noReturn rfl) shortEnding_ne_longEnding
    · exact ⟨['\r'], rfl, by simpa using isLine.noFeed, by simp⟩
  subst shape
  have whole : line ++ (back ++ ['\n']) ++ s = (line ++ back) ++ '\n' :: s := by simp
  rw [whole]
  generalize line ++ back = first at noFeed last ⊢
  refine ⟨fun _ => ?_, fun front rest same => ?_⟩
  · rw [getLast?_append_cons]
    cases found : s.getLast? with
    | none => rfl
    | some c =>
      have filled : s ≠ [] := by
        rintro rfl
        cases found
      rw [← found, closes.closed filled]
      rfl
  · rcases List.append_eq_append_iff.1 same with ⟨gap, rfl, rest'⟩ | ⟨gap, rfl, rest'⟩
    · cases gap with
      | nil => simpa using last
      | cons d gap =>
        obtain ⟨rfl, later⟩ := List.cons.inj rest'
        have inside := closes.even gap rest later
        rw [getLast?_append_cons]
        cases found : gap.getLast? with
        | none => simpa [found] using inside
        | some c => simpa [found] using inside
    · cases gap with
      | nil => simpa using last
      | cons d gap =>
        obtain ⟨rfl, -⟩ := List.cons.inj rest'
        exact absurd (by simp) noFeed

end ClosedBy

/-- Joined lines are closed by their ending. -/
theorem closedBy_joinLines (known : IsEnding ending) {ls : List Text}
    (isLine : ∀ line ∈ ls, IsLine ending line) : ClosedBy ending (joinLines ending ls) := by
  induction ls with
  | nil => exact .nil ending
  | cons line ls ih =>
    rw [List.forall_mem_cons] at isLine
    exact .cons known isLine.1 (ih isLine.2)

/-- A text that an ending closes is its lines, joined by the ending. -/
theorem ClosedBy.lines (known : IsEnding ending) (closes : ClosedBy ending s) :
    joinLines ending s.lines = s ∧ ∀ line ∈ s.lines, IsLine ending line := by
  fun_induction Text.lines s with
  | case1 => exact ⟨rfl, by simp⟩
  | case2 rest ih =>
    obtain ⟨joined, isLine⟩ := ih (after [] closes)
    have short : ending = shortEnding := by
      refine known.resolve_right fun long => ?_
      simpa using (closes.even [] rest rfl).2 long
    subst short
    refine ⟨congrArg (shortEnding ++ ·) joined, ?_⟩
    rw [List.forall_mem_cons]
    exact ⟨⟨by simp, by simp⟩, isLine⟩
  | case3 rest ih =>
    obtain ⟨joined, isLine⟩ := ih (after ['\r'] closes)
    obtain rfl : ending = longEnding := (closes.even ['\r'] rest rfl).1 rfl
    refine ⟨congrArg (longEnding ++ ·) joined, ?_⟩
    rw [List.forall_mem_cons]
    exact ⟨⟨by simp, by simp⟩, isLine⟩
  | case4 c rest other apart nothing ih =>
    obtain ⟨filled, later⟩ := closes.tail other fun rest' => apart rest'
    obtain ⟨joined, -⟩ := ih later
    rw [nothing] at joined
    exact absurd joined.symm filled
  | case5 c rest other apart line more found ih =>
    obtain ⟨-, later⟩ := closes.tail other fun rest' => apart rest'
    obtain ⟨joined, isLine⟩ := ih later
    rw [found] at joined isLine
    rw [List.forall_mem_cons] at isLine
    obtain ⟨first, others⟩ := isLine
    refine ⟨congrArg (c :: ·) joined, ?_⟩
    rw [List.forall_mem_cons]
    refine ⟨⟨by simp [first.noFeed, Ne.symm other], fun short last => ?_⟩, others⟩
    cases line with
    | nil =>
      subst short
      have returned : c = '\r' := by simpa using last
      exact apart (joinLines shortEnding more) returned joined.symm
    | cons d line => exact first.noReturn short (by simpa using last)

/-- A long ending that is found stands somewhere. -/
theorem exists_of_hasCarriageReturns (found : s.hasCarriageReturns = true) :
    ∃ front back, s = front ++ '\r' :: '\n' :: back := by
  fun_induction hasCarriageReturns s with
  | case1 rest => exact ⟨[], rest, rfl⟩
  | case2 c rest _ ih =>
    obtain ⟨front, back, whole⟩ := ih found
    exact ⟨c :: front, back, congrArg (c :: ·) whole⟩
  | case3 => cases found

/-- An edit of a text that an ending closes uses that ending. -/
theorem ClosedBy.lineEnding (known : IsEnding ending) (closes : ClosedBy ending s)
    (filled : s ≠ []) : s.lineEnding = ending := by
  rw [lineEnding_eq]
  rcases known with rfl | rfl
  · refine if_neg fun found => ?_
    obtain ⟨front, back, rfl⟩ := exists_of_hasCarriageReturns found
    have long := closes.even (front ++ ['\r']) back (by simp)
    exact shortEnding_ne_longEnding (long.1 (by simp))
  · obtain ⟨front, rfl⟩ := List.getLast?_eq_some_iff.1 (closes.closed filled)
    obtain ⟨front, rfl⟩ := List.getLast?_eq_some_iff.1 ((closes.even front [] rfl).2 rfl)
    refine if_pos ?_
    simpa using hasCarriageReturns_append front []

/-- A text that one of the endings closes has even breaks. -/
theorem ClosedBy.evenBreaks (known : IsEnding ending) (closes : ClosedBy ending s) :
    EvenBreaks s := by
  rcases known with rfl | rfl
  · exact .inl closes
  · exact .inr closes

/-- A text with even breaks is closed by the ending that an edit uses. -/
theorem EvenBreaks.closedBy (even : EvenBreaks s) : ClosedBy s.lineEnding s := by
  by_cases filled : s = []
  · subst filled
    exact .nil _
  · rcases even with closes | closes
    · rwa [closes.lineEnding (.inl rfl) filled]
    · rwa [closes.lineEnding (.inr rfl) filled]

/-- Lines come back from the text they are joined to, when the ending closes them. -/
theorem lines_joinLines (known : IsEnding ending) {ls : List Text}
    (isLine : ∀ line ∈ ls, IsLine ending line) : lines (joinLines ending ls) = ls := by
  induction ls with
  | nil => rfl
  | cons line ls ih =>
    rw [List.forall_mem_cons] at isLine
    obtain ⟨first, others⟩ := isLine
    have later := ih others
    rw [joinLines_cons, List.append_assoc]
    rcases known with rfl | rfl
    · exact (lines_append_short first.noFeed (first.noReturn rfl) _).trans (congrArg _ later)
    · exact (lines_append_long first.noFeed _).trans (congrArg _ later)

/-- An edit of the joined lines uses the ending that closes them. -/
theorem lineEnding_joinLines (known : IsEnding ending) {ls : List Text}
    (isLine : ∀ line ∈ ls, IsLine ending line) (someLine : ls ≠ []) :
    (joinLines ending ls).lineEnding = ending := by
  refine (closedBy_joinLines known isLine).lineEnding known fun empty => someLine ?_
  rw [← lines_joinLines known isLine, empty]
  rfl

end ProfilePicker.Text
