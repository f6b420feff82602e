import ProfilePicker.Proofs.Keeping
import ProfilePicker.Text.LetterCase

/-!
# Names in small letters

Writing a text small turns letters into letters. No blank comes in that way, and nothing else that
a header would not take as it is, so a name that a header can hold stays one.
-/
namespace ProfilePicker

open Ini (PlainName)

/-- The characters that a header does not take as they are everywhere: blanks, the end of the
header, and what protects the next character. -/
def headerMarks : CharClass := (0x5c, 0x5d) :: blanks

/-- A character is its own small letter, or the small letter stands as far from the first one of a
run as the character stands from its first capital letter. -/
theorem smallLetter_cases (c : Char) : smallLetter c = c ∨
    ∃ run ∈ caseRuns, run.covers c = true ∧
      (smallLetter c).toNat = run.small + (c.toNat - run.first) := by
  -- The numbers of all small letters are numbers of characters.
  have valid : ∀ run ∈ caseRuns, run.small + run.count * run.stride ≤ 0xd800 ∨
      0xdfff < run.small ∧ run.small + run.count * run.stride ≤ 0x110000 := by decide +kernel
  cases found : caseRuns.find? (·.covers c) with
  | none =>
    left
    rw [smallLetter, found]
  | some run =>
    right
    have member := List.mem_of_find?_eq_some found
    have covers : run.covers c = true := by simpa using List.find?_some found
    refine ⟨run, member, covers, ?_⟩
    simp only [CaseRun.covers, Bool.and_eq_true, decide_eq_true_eq] at covers
    have bounds := valid run member
    have inside : c.toNat - run.first < run.count * run.stride := by omega
    have number : (run.small + (c.toNat - run.first)).isValidChar := by
      unfold Nat.isValidChar
      omega
    have letter : Char.ofNat (run.small + (c.toNat - run.first)) = Char.ofNatAux _ number :=
      dif_pos number
    rw [smallLetter, found]
    exact congrArg Char.toNat letter

/-- No capital letter becomes such a character. -/
theorem smallLetter_of_mark {c : Char} (marks : headerMarks.holds (smallLetter c) = true) :
    smallLetter c = c := by
  -- None of the marks lies among the small letters of a run.
  have free : ∀ run ∈ caseRuns, ∀ marks ∈ headerMarks,
      marks.2 < run.small ∨ run.small + run.count * run.stride ≤ marks.1 := by decide +kernel
  rcases smallLetter_cases c with same | ⟨run, member, covers, number⟩
  · exact same
  · obtain ⟨mark, marked, holds⟩ := List.any_eq_true.1 marks
    have away := free run member mark marked
    simp only [CaseRun.covers, Bool.and_eq_true, decide_eq_true_eq] at covers
    simp only [Bool.and_eq_true, decide_eq_true_eq] at holds
    omega

namespace Text

variable {before after front s : Text} {c d : Char}

/-- Such a character is the small form of itself alone. -/
theorem eq_of_mem_smallForm (marks : headerMarks.holds d = true)
    (member : d ∈ smallForm before c after) : d = c := by
  rw [smallForm] at member
  split at member
  · split at member <;> obtain rfl := List.mem_singleton.1 member <;>
      exact absurd marks (by decide)
  · split at member
    · rcases List.mem_pair.1 member with rfl | rfl <;> exact absurd marks (by decide)
    · obtain rfl := List.mem_singleton.1 member
      exact smallLetter_of_mark marks

/-- No such character comes in by writing a text small. -/
theorem mem_of_mem_toLower (marks : headerMarks.holds d = true) (member : d ∈ s.toLower) :
    d ∈ s := by
  have rest : ∀ (s before : Text), d ∈ toLowerAfter before s → d ∈ s := by
    intro s
    induction s with
    | nil => exact fun _ => id
    | cons c s ih =>
      intro before member
      rcases List.mem_append.1 member with here | later
      · exact eq_of_mem_smallForm marks here ▸ List.mem_cons_self
      · exact .tail c (ih _ later)
  exact rest s [] member

/-- None comes to stand first. -/
theorem head?_of_toLower (marks : headerMarks.holds d = true) (first : s.toLower.head? = some d) :
    s.head? = some d := by
  cases s with
  | nil => exact first
  | cons c s =>
    rw [toLower, toLowerAfter, List.head?_append_of_ne_nil _ (smallForm_ne_nil _ _ _)] at first
    rw [eq_of_mem_smallForm marks (List.mem_of_head? first), List.head?_cons]

/-- None comes to stand last. -/
theorem getLast?_of_toLower (marks : headerMarks.holds d = true)
    (last : s.toLower.getLast? = some d) : s.getLast? = some d := by
  have rest : ∀ (s before : Text), (toLowerAfter before s).getLast? = some d →
      s.getLast? = some d := by
    intro s
    induction s with
    | nil => exact fun _ => id
    | cons c s ih =>
      intro before last
      cases s with
      | nil =>
        rw [toLowerAfter, toLowerAfter, List.append_nil] at last
        rw [eq_of_mem_smallForm marks (List.mem_of_getLast? last), List.getLast?_singleton]
      | cons e s =>
        have more := toLowerAfter_ne_nil (c :: before) (List.cons_ne_nil e s)
        rw [toLowerAfter, List.getLast?_append_of_ne_nil _ more] at last
        rw [List.getLast?_cons_cons]
        exact ih _ last
  exact rest s [] last

end Text

/-- A name that a header can hold stays one when the end of it is written small. -/
theorem Ini.PlainName.append_toLower {front name : Text} (plain : PlainName (front ++ name)) :
    PlainName (front ++ name.toLower) := by
  by_cases empty : name = []
  · subst empty
    exact plain
  have small : name.toLower ≠ [] := Text.toLowerAfter_ne_nil [] empty
  have marks : ∀ {c}, isBlank c = true → headerMarks.holds c = true := fun blank => by
    rw [CharClass.holds, headerMarks, List.any_cons]
    exact Bool.or_eq_true_iff.2 (.inr blank)
  have old : ∀ {c}, headerMarks.holds c = true → c ∈ front ++ name.toLower → c ∈ front ++ name :=
    fun marks member => List.mem_append.2
      ((List.mem_append.1 member).imp_right (Text.mem_of_mem_toLower marks))
  obtain ⟨first, last⟩ := Text.trimmed_iff.1 plain.trimmed
  refine ⟨by simp [small], Text.trimmed_iff.2 ⟨fun c found => ?_, fun c found => ?_⟩,
    fun c member => ?_, fun member => plain.noBracket (old rfl member),
    fun member => plain.noBackslash (old rfl member)⟩
  · by_contra blank
    rw [Bool.not_eq_false] at blank
    refine absurd blank (ne_true_of_eq_false (first c ?_))
    cases front with
    | nil => exact Text.head?_of_toLower (marks blank) found
    | cons e front => exact found
  · by_contra blank
    rw [Bool.not_eq_false] at blank
    refine absurd blank (ne_true_of_eq_false (last c ?_))
    rw [List.getLast?_append_of_ne_nil _ small] at found
    rw [List.getLast?_append_of_ne_nil _ empty]
    exact Text.getLast?_of_toLower (marks blank) found
  · constructor
    · rintro rfl
      exact (plain.oneLine _ (old rfl member)).1 rfl
    · rintro rfl
      exact (plain.oneLine _ (old rfl member)).2 rfl

end ProfilePicker
