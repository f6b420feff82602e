import Mathlib.Data.List.TakeWhile
import ProfilePicker.Text.Line

/-!
# Splitting into lines and joining them

A text is split at line feeds, and a carriage return before a line feed goes with it. So the first
line of a text is what stands before its first ending, whichever of the two endings this is.
-/
namespace ProfilePicker.Text

/-- A line feed alone. -/
def shortEnding : Text := ['\n']

/-- A carriage return and a line feed. -/
def longEnding : Text := ['\r', '\n']

/-- One of the two endings of a line. -/
def IsEnding (ending : Text) : Prop := ending = shortEnding ∨ ending = longEnding

instance (ending : Text) : Decidable (IsEnding ending) :=
  inferInstanceAs (Decidable (ending = shortEnding ∨ ending = longEnding))

/-- What holds of all characters of a text is found out one character after the other. -/
instance (priority := 2000) {s : Text} {p : Char → Prop} [DecidablePred p] :
    Decidable (∀ c ∈ s, p c) := List.decidableBAll p s

/-- A text without line feeds and carriage returns. -/
def OneLine (s : Text) : Prop := ∀ c ∈ s, c ≠ '\n' ∧ c ≠ '\r'

instance (s : Text) : Decidable (OneLine s) :=
  inferInstanceAs (Decidable (∀ c ∈ s, c ≠ '\n' ∧ c ≠ '\r'))

/-- Two texts on one line stand on one line together. -/
theorem oneLine_append {s t : Text} : OneLine (s ++ t) ↔ OneLine s ∧ OneLine t := by
  simp only [OneLine, List.mem_append]
  exact ⟨fun both => ⟨fun c h => both c (.inl h), fun c h => both c (.inr h)⟩,
    fun ⟨first, second⟩ c h => h.elim (first c) (second c)⟩

/-- The ending of a text is the long one as soon as it occurs. -/
theorem lineEnding_eq (s : Text) :
    s.lineEnding = if s.hasCarriageReturns then longEnding else shortEnding := rfl

/-- The ending of a text is one of the two. -/
theorem isEnding_lineEnding (s : Text) : IsEnding s.lineEnding := by
  rw [lineEnding_eq]
  split
  · exact .inr rfl
  · exact .inl rfl

/-- The first line of a text that a line feed closes. -/
theorem lines_append_short {line : Text} (noFeed : '\n' ∉ line)
    (noReturn : line.getLast? ≠ some '\r') (rest : Text) :
    lines (line ++ '\n' :: rest) = line :: lines rest := by
  induction line with
  | nil => rw [List.nil_append, lines]
  | cons c line ih =>
    have feed : c ≠ '\n' := fun same => noFeed (by simp [same])
    have later : lines (line ++ '\n' :: rest) = line :: lines rest := by
      refine ih (fun member => noFeed (List.mem_cons_of_mem c member)) fun last => noReturn ?_
      simp [List.getLast?_cons, last]
    rw [List.cons_append, lines, later]
    · exact feed
    · intro tail returned following
      cases line with
      | nil => exact noReturn (by simp [returned])
      | cons d line =>
        have : d = '\n' := by simpa using (List.cons.inj following).1
        exact noFeed (by simp [this])

/-- The first line of a text that a carriage return and a line feed close. -/
theorem lines_append_long {line : Text} (noFeed : '\n' ∉ line) (rest : Text) :
    lines (line ++ '\r' :: '\n' :: rest) = line :: lines rest := by
  induction line with
  | nil => rw [List.nil_append, lines]
  | cons c line ih =>
    have feed : c ≠ '\n' := fun same => noFeed (by simp [same])
    have later := ih fun member => noFeed (List.mem_cons_of_mem c member)
    rw [List.cons_append, lines, later]
    · exact feed
    · intro tail returned following
      cases line with
      | nil => simp at following
      | cons d line =>
        have : d = '\n' := by simpa using (List.cons.inj following).1
        exact noFeed (by simp [this])

/-- Joining no lines gives the empty text. -/
@[simp]
theorem joinLines_nil (ending : Text) : joinLines ending [] = [] := rfl

/-- The first of some joined lines stands in front. -/
@[simp]
theorem joinLines_cons (ending line : Text) (ls : List Text) :
    joinLines ending (line :: ls) = line ++ ending ++ joinLines ending ls := rfl

/-- Joined lines stand one after the other. -/
@[simp]
theorem joinLines_append (ending : Text) (ls more : List Text) :
    joinLines ending (ls ++ more) = joinLines ending ls ++ joinLines ending more := by
  simp [joinLines]

/-- A long ending somewhere is found. -/
theorem hasCarriageReturns_append (s t : Text) :
    hasCarriageReturns (s ++ '\r' :: '\n' :: t) = true := by
  fun_induction hasCarriageReturns s with
  | case1 => rfl
  | case2 c s _ ih =>
    rw [List.cons_append]
    unfold hasCarriageReturns
    split <;> simp_all
  | case3 => rfl

end ProfilePicker.Text
