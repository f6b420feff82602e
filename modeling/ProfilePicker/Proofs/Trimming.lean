import Mathlib.Data.List.TakeWhile
import ProfilePicker.Text.Blank

/-!
# Trimmed texts

A text is trimmed when it neither begins nor ends with a blank. Blanks around a text never
change what trimming makes of it, so a trimmed text survives being written between blanks.
-/
namespace ProfilePicker.Text

/-- A text that trimming leaves as it is. -/
def Trimmed (s : Text) : Prop := s.trim = s

instance (s : Text) : Decidable (Trimmed s) := inferInstanceAs (Decidable (s.trim = s))

/-- Every character of a blank text is blank. -/
theorem isBlank_iff {s : Text} : s.isBlank = true ↔ ∀ c ∈ s, ProfilePicker.isBlank c = true := by
  simp [isBlank]

/-- Blanks in front of a text are trimmed away. -/
theorem trim_append_of_isBlank_left {front : Text} (blank : front.isBlank = true) (s : Text) :
    (front ++ s).trim = s.trim := by
  have dropped : (front ++ s).trimStart = s.trimStart :=
    List.dropWhile_append_of_pos (isBlank_iff.1 blank)
  rw [trim, trim, dropped]

/-- A visible character is not trimmed away. -/
theorem trim_ne_nil {s : Text} {c : Char} (member : c ∈ s)
    (visible : ProfilePicker.isBlank c = false) : s.trim ≠ [] := by
  intro nothing
  have blank := isBlank_iff.1 (trim_eq_nil_iff.1 nothing) c member
  rw [visible] at blank
  cases blank

/-- Blanks at the end of a text are dropped there. -/
theorem trimEnd_append_of_isBlank {back : Text} (blank : back.isBlank = true) (s : Text) :
    (s ++ back).trimEnd = s.trimEnd := by
  have reversed : ∀ c ∈ back.reverse, ProfilePicker.isBlank c = true := by
    simpa using isBlank_iff.1 blank
  rw [trimEnd, trimEnd, List.reverse_append, List.dropWhile_append_of_pos reversed]

/-- Blanks behind a text are trimmed away. -/
theorem trim_append_of_isBlank_right {back : Text} (blank : back.isBlank = true) (s : Text) :
    (s ++ back).trim = s.trim := by
  by_cases nothing : s.isBlank = true
  · have all : (s ++ back).isBlank = true := by simp [isBlank] at nothing blank ⊢; grind
    rw [trim_eq_nil_iff.2 nothing, trim_eq_nil_iff.2 all]
  · have kept : s.trimStart ≠ [] := mt trimStart_eq_nil_iff.1 nothing
    have start : (s ++ back).trimStart = s.trimStart ++ back := by
      simp only [trimStart, ne_eq] at kept ⊢
      simp [List.dropWhile_append, kept]
    rw [trim, trim, start, trimEnd_append_of_isBlank blank]

/-- A text that does not begin with a blank keeps its start. -/
theorem trimStart_eq_self_iff {s : Text} :
    s.trimStart = s ↔ ∀ c, s.head? = some c → ProfilePicker.isBlank c = false := by
  rw [trimStart, List.dropWhile_eq_self_iff]
  cases s <;> simp

/-- A text that does not end with a blank keeps its end. -/
theorem trimEnd_eq_self_iff {s : Text} :
    s.trimEnd = s ↔ ∀ c, s.getLast? = some c → ProfilePicker.isBlank c = false := by
  rw [trimEnd, List.reverse_eq_iff, ← List.head?_reverse]
  exact trimStart_eq_self_iff

/-- Trimming at the end never adds a character. -/
theorem trimEnd_length_le (s : Text) : s.trimEnd.length ≤ s.length := by
  have := (List.dropWhile_sublist ProfilePicker.isBlank (l := s.reverse)).length_le
  simpa [trimEnd] using this

/-- Trimming at the start never adds a character. -/
theorem trimStart_length_le (s : Text) : s.trimStart.length ≤ s.length :=
  (List.dropWhile_sublist ProfilePicker.isBlank (l := s)).length_le

/-- A text is trimmed exactly when no blank stands at either end. -/
theorem trimmed_iff {s : Text} : Trimmed s ↔
    (∀ c, s.head? = some c → ProfilePicker.isBlank c = false) ∧
      ∀ c, s.getLast? = some c → ProfilePicker.isBlank c = false := by
  rw [← trimStart_eq_self_iff, ← trimEnd_eq_self_iff, Trimmed]
  constructor
  · intro same
    have start : s.trimStart = s := by
      have ends := trimEnd_length_le s.trimStart
      have starts := trimStart_length_le s
      have total := congrArg List.length same
      rw [trim] at total
      exact (List.dropWhile_suffix _).eq_of_length
        (show s.trimStart.length = s.length by omega)
    rw [trim, start] at same
    exact ⟨start, same⟩
  · rintro ⟨start, finish⟩
    rw [trim, start, finish]

/-- What trimming leaves is trimmed. -/
theorem trimmed_trim (s : Text) : Trimmed s.trim := by
  have start : s.trimStart.trimStart = s.trimStart := by
    rw [trimStart_eq_self_iff]
    intro c found
    have := List.head?_dropWhile_not (p := ProfilePicker.isBlank) (l := s)
    simp only [trimStart] at found
    rw [found] at this
    simpa using this
  rw [trimmed_iff]
  constructor
  · intro c found
    rw [trimStart_eq_self_iff] at start
    have front : s.trim <+: s.trimStart := by
      rw [trim, trimEnd, ← List.reverse_suffix, List.reverse_reverse]
      exact List.dropWhile_suffix _
    obtain ⟨rest, same⟩ := front
    apply start c
    rw [← same, List.head?_append, found]
    rfl
  · intro c found
    have := List.head?_dropWhile_not (p := ProfilePicker.isBlank) (l := s.trimStart.reverse)
    rw [trim, trimEnd, List.getLast?_reverse] at found
    rw [found] at this
    simpa using this

/-- No character comes in by trimming. -/
theorem mem_of_mem_trim {c : Char} {s : Text} (member : c ∈ s.trim) : c ∈ s := by
  have back : c ∈ s.trimStart := by
    have := (List.dropWhile_sublist ProfilePicker.isBlank (l := s.trimStart.reverse)).subset
      (a := c)
    simp only [trim, trimEnd, List.mem_reverse] at member this
    exact this member
  exact (List.dropWhile_sublist _).subset back

/-- What trimming leaves of the end of a text is its front. -/
theorem exists_trimEnd (s : Text) : ∃ back, s = s.trimEnd ++ back := by
  refine ⟨(s.reverse.takeWhile ProfilePicker.isBlank).reverse, ?_⟩
  rw [trimEnd, ← List.reverse_append, List.takeWhile_append_dropWhile, List.reverse_reverse]

/-- What trimming takes from the start of a text is blank. -/
theorem exists_trimStart (s : Text) : ∃ front, s = front ++ s.trimStart ∧
    front.isBlank = true := by
  refine ⟨s.takeWhile ProfilePicker.isBlank, List.takeWhile_append_dropWhile.symm, ?_⟩
  rw [isBlank, List.all_eq_true]
  exact fun c member => List.mem_takeWhile_imp member

/-- A text without a blank at its start is trimmed at its end alone. -/
theorem trim_of_visible {s : Text}
    (visible : ∀ c, s.head? = some c → ProfilePicker.isBlank c = false) : s.trim = s.trimEnd := by
  rw [trim, trimStart_eq_self_iff.2 visible]

/-- Trimming at the end stops at a visible character. -/
theorem trimEnd_append_visible {c : Char} (visible : ProfilePicker.isBlank c = false)
    (front back : Text) : (front ++ c :: back).trimEnd = front ++ c :: back.trimEnd := by
  have reversed : (front ++ c :: back).reverse = back.reverse ++ c :: front.reverse := by simp
  rw [trimEnd, reversed, List.dropWhile_append]
  by_cases nothing : back.reverse.dropWhile ProfilePicker.isBlank = []
  · simp [nothing, visible, trimEnd]
  · simp [nothing, trimEnd]

/-- Trimming stops at the visible characters that stand first and last. -/
theorem trim_visible {front : Text} (blank : front.isBlank = true) {c : Char}
    (visible : ProfilePicker.isBlank c = false) (back : Text) :
    (front ++ c :: back).trim = c :: back.trimEnd := by
  have start : trimStart (c :: back) = c :: back :=
    trimStart_eq_self_iff.2 (by simp [visible])
  rw [trim_append_of_isBlank_left blank, trim, start]
  exact trimEnd_append_visible visible [] back

/-- Trimming leaves a visible first character alone. -/
theorem trim_cons_visible {c : Char} (visible : ProfilePicker.isBlank c = false) (back : Text) :
    trim (c :: back) = c :: back.trimEnd :=
  trim_visible (show isBlank [] = true from rfl) visible back

/-- A trimmed text between blanks is what trimming finds. -/
theorem Trimmed.trim_between {s front back : Text} (trimmed : Trimmed s)
    (before : front.isBlank = true) (behind : back.isBlank = true) :
    (front ++ s ++ back).trim = s := by
  rw [trim_append_of_isBlank_right behind, trim_append_of_isBlank_left before, trimmed]

/-! ## Visible characters -/

/-- The characters of a text that are not blank. -/
def visible (s : Text) : Text := s.filter (!ProfilePicker.isBlank ·)

/-- The visible characters of two texts follow one another. -/
@[simp]
theorem visible_append (s t : Text) : (s ++ t).visible = s.visible ++ t.visible :=
  List.filter_append s t

/-- Dropping blanks at the start drops nothing visible. -/
theorem visible_trimStart (s : Text) : s.trimStart.visible = s.visible := by
  induction s with
  | nil => rfl
  | cons c s ih =>
    by_cases blank : ProfilePicker.isBlank c = true
    · simpa [trimStart, visible, blank] using ih
    · simp [trimStart, visible, blank]

/-- Dropping blanks at the end drops nothing visible. -/
theorem visible_trimEnd (s : Text) : s.trimEnd.visible = s.visible := by
  have reversed := congrArg List.reverse (visible_trimStart s.reverse)
  simpa [trimStart, trimEnd, visible, List.filter_reverse] using reversed

/-- Trimming drops nothing visible. -/
@[simp]
theorem visible_trim (s : Text) : s.trim.visible = s.visible := by
  rw [trim, visible_trimEnd, visible_trimStart]

/-- A text is blank when it has no visible character. -/
theorem visible_eq_nil_iff {s : Text} : s.visible = [] ↔ s.isBlank = true := by
  rw [isBlank_iff, visible, List.filter_eq_nil_iff]
  simp

/-- No more characters are visible than there are. -/
theorem visible_length_le (s : Text) : s.visible.length ≤ s.length :=
  List.length_filter_le _ s

end ProfilePicker.Text
