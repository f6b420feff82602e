import ProfilePicker.Proofs.PlainEdits

/-!
# Short and long line breaks

A plain text can be written with either kind of line breaks. The two texts say the same to the
reader, although it takes the carriage return and the line feed of a long break one after the other,
and the editor changes both in the same way and keeps the breaks of each. So they stay twins under
any number of edits, and say the same whenever they are read again.
-/
namespace ProfilePicker

namespace Text

/-- The text with a carriage return before each line feed. -/
def longBreaks (s : Text) : Text := s.flatMap fun c => if c = '\n' then longEnding else [c]

/-- Texts get their long breaks one after the other. -/
theorem longBreaks_append (s t : Text) :
    (s ++ t).longBreaks = s.longBreaks ++ t.longBreaks :=
  List.flatMap_append

/-- A text without line feeds stays as it is. -/
theorem longBreaks_of_noFeed {s : Text} (noFeed : '\n' ∉ s) : s.longBreaks = s := by
  induction s with
  | nil => rfl
  | cons c s ih =>
    rw [List.mem_cons, not_or] at noFeed
    have later := ih noFeed.2
    rw [longBreaks] at later ⊢
    rw [List.flatMap_cons, if_neg (Ne.symm noFeed.1), later]
    rfl

/-- Lines that short endings close are then closed by long ones. -/
theorem longBreaks_joinLines {ls : List Text} (oneLine : ∀ line ∈ ls, OneLine line) :
    (joinLines shortEnding ls).longBreaks = joinLines longEnding ls := by
  induction ls with
  | nil => rfl
  | cons line ls ih =>
    rw [List.forall_mem_cons] at oneLine
    have noFeed : '\n' ∉ line := fun member => (oneLine.1 _ member).1 rfl
    rw [joinLines_cons, joinLines_cons, longBreaks_append, longBreaks_append,
      longBreaks_of_noFeed noFeed, ih oneLine.2]
    rfl

end Text

namespace Ini

open Text (joinLines shortEnding longEnding)

/-! ## Twins -/

/-- Two texts of the same plain lines, one with short breaks and one with long ones. -/
inductive Twins : Text → Text → Prop
  /-- There is a line, so that each of them has a break. -/
  | joined {ls : List Text} (plain : ∀ line ∈ ls, PlainLine line) (someLine : ls ≠ []) :
      Twins (joinLines shortEnding ls) (joinLines longEnding ls)

/-- Two documents whose texts are twins and which answer the same. -/
structure Document.Twins (d d' : Document) : Prop where
  /-- The texts are twins. -/
  texts : Ini.Twins d.text d'.text
  /-- What they say is the same. -/
  contents : d'.contents = d.contents

/-- Two documents that have the same sections and the same values. -/
structure Document.ReadsAs (d d' : Document) : Prop where
  /-- The sections are the same, in the same order. -/
  sections : d'.sections = d.sections
  /-- So is the value of every key in every section. -/
  get : ∀ name key, d'.get? name key = d.get? name key

/-- A plain text without carriage returns has a twin. -/
theorem PlainText.twins {s : Text} (plain : PlainText s) (filled : s ≠ []) (noReturn : '\r' ∉ s) :
    Twins s s.longBreaks := by
  obtain ⟨joined, lines⟩ := plainText_iff.1 plain
  have short : s.lineEnding = shortEnding := by
    rw [Text.lineEnding_eq]
    refine if_neg fun long => ?_
    obtain ⟨front, back, rfl⟩ := Text.exists_of_hasCarriageReturns long
    exact noReturn (by simp)
  have someLine : s.lines ≠ [] := by
    intro nothing
    rw [nothing] at joined
    exact filled joined
  rw [short] at joined
  have breaks := Text.longBreaks_joinLines fun l member => ((lines l member).closed []).oneLine
  have twins := Twins.joined lines someLine
  rwa [← breaks, ← joined] at twins

namespace Twins

variable {s s' : Text} (twins : Twins s s')

include twins in
/-- The second of two twins is the first one with long breaks. -/
theorem eq_longBreaks : s' = s.longBreaks := by
  cases twins with
  | joined plain someLine =>
    exact (Text.longBreaks_joinLines fun l member => ((plain l member).closed []).oneLine).symm

include twins in
/-- Twins can be read, and they say the same. -/
theorem parse : ∃ contents, Document.parse s = .ok ⟨s, contents⟩ ∧
    Document.parse s' = .ok ⟨s', contents⟩ := by
  cases twins with
  | @joined ls plain someLine =>
    have short := items_joinLines (.inl rfl) fun l member => (plain l member).closed _
    have long := items_joinLines (.inr rfl) fun l member => (plain l member).closed _
    exact ⟨.ofItems (itemsOf ls), Document.parse_of_items short, Document.parse_of_items long⟩

include twins in
/-- A plain edit makes twins of twins. -/
theorem setLine {e : Edit} (plainEdit : e.Plain) :
    Twins (setLine s e.name e.key e.value) (setLine s' e.name e.key e.value) := by
  cases twins with
  | @joined ls plain someLine =>
    have isLine : ∀ ending, ∀ line ∈ ls, Text.IsLine ending line := fun ending line member =>
      ((plain line member).closed ending).oneLine.isLine ending
    rw [setLine_joinLines (.inl rfl) (isLine _) someLine,
      setLine_joinLines (.inr rfl) (isLine _) someLine]
    exact .joined (plainLine_setInLines plain plainEdit.name plainEdit.key plainEdit.value)
      (setInLines_ne_nil e.name e.key e.value ls)

end Twins

namespace Document.Twins

variable {d d' : Document} (twins : d.Twins d')

include twins in
/-- Documents with twin texts answer the same. -/
theorem readsAs : d.ReadsAs d' where
  sections := congrArg Contents.names twins.contents
  get name key := congrArg (Contents.get? · name key) twins.contents

include twins in
/-- A plain edit makes twins of twins. -/
theorem set {e : Edit} (plainEdit : e.Plain) :
    (d.set e.name e.key e.value).Twins (d'.set e.name e.key e.value) where
  texts := twins.texts.setLine plainEdit
  contents := congrArg (Contents.set · e.name e.key e.value) twins.contents

include twins in
/-- So do any number of plain edits. -/
theorem editAll {edits : List Edit} (plainEdits : ∀ e ∈ edits, e.Plain) :
    (d.editAll edits).Twins (d'.editAll edits) := by
  induction edits generalizing d d' with
  | nil => exact twins
  | cons e edits ih =>
    rw [List.forall_mem_cons] at plainEdits
    exact ih (twins.set plainEdits.1) plainEdits.2

include twins in
/-- Read again, documents with twin texts answer the same. -/
theorem reread : ∃ again again', parse d.text = .ok again ∧ parse d'.text = .ok again' ∧
    again.ReadsAs again' := by
  obtain ⟨contents, read, read'⟩ := twins.texts.parse
  exact ⟨_, _, read, read', ⟨rfl, fun _ _ => rfl⟩⟩

end Document.Twins

/-- **Long line breaks make no difference to a plain text and stay in it.** The text and the one
with long breaks in the place of the short ones can both be read, and they say the same. After any
plain edits the second is still the first with long breaks, and both say the same when they are
read again. -/
theorem PlainText.longBreaks_editAll {s : Text} (plain : PlainText s) (filled : s ≠ [])
    (noReturn : '\r' ∉ s) :
    ∃ d d', Document.parse s = .ok d ∧ Document.parse s.longBreaks = .ok d' ∧ d.ReadsAs d' ∧
      ∀ edits : List Edit, (∀ e ∈ edits, e.Plain) →
        (d'.editAll edits).text = (d.editAll edits).text.longBreaks ∧
          (d.editAll edits).ReadsAs (d'.editAll edits) ∧
          ∃ again again', Document.parse (d.editAll edits).text = .ok again ∧
            Document.parse (d'.editAll edits).text = .ok again' ∧ again.ReadsAs again' := by
  have texts := plain.twins filled noReturn
  obtain ⟨contents, read, read'⟩ := texts.parse
  have twins : Document.Twins ⟨s, contents⟩ ⟨s.longBreaks, contents⟩ := ⟨texts, rfl⟩
  refine ⟨_, _, read, read', twins.readsAs, fun edits plainEdits => ?_⟩
  have edited := twins.editAll plainEdits
  exact ⟨edited.texts.eq_longBreaks, edited.readsAs, edited.reread⟩

/-- A nested setting, an empty line and a section that is new, under two edits. -/
theorem longBreaks_nested :
    ∃ d d', Document.parse "[a]\nx = 1\n\ty = 2\n\n" = .ok d ∧
      Document.parse (Text.longBreaks "[a]\nx = 1\n\ty = 2\n\n") = .ok d' ∧
      (d'.editAll [⟨"a", "y", "3"⟩, ⟨"b", "x", "4"⟩]).text =
        (d.editAll [⟨"a", "y", "3"⟩, ⟨"b", "x", "4"⟩]).text.longBreaks ∧
      (d.editAll [⟨"a", "y", "3"⟩, ⟨"b", "x", "4"⟩]).text =
        "[a]\nx = 1\n\ty = 2\ny = 3\n\n[b]\nx = 4\n" := by
  have plain : PlainText "[a]\nx = 1\n\ty = 2\n\n" := by
    refine ⟨shortEnding, [headerLine "a", entryLine "x" "1", settingLine "\t" "y" " " " 2", []],
      .inl rfl, ?_, rfl⟩
    simp only [List.forall_mem_cons, List.not_mem_nil, false_implies, implies_true, and_true]
    exact ⟨.header (by decide), plainLine_entryLine (by decide) (by decide),
      .setting (by decide) (by decide) (by decide) (by decide) (by decide), .blank (by decide)⟩
  have plainEdits : ∀ e ∈ ([⟨"a", "y", "3"⟩, ⟨"b", "x", "4"⟩] : List Edit), e.Plain := by decide
  obtain ⟨d, d', read, read', -, edited⟩ := plain.longBreaks_editAll (by decide) (by decide)
  refine ⟨d, d', read, read', (edited _ plainEdits).1, ?_⟩
  obtain ⟨found, -, rfl⟩ := Document.items_of_parse read
  change setLine (setLine "[a]\nx = 1\n\ty = 2\n\n" "a" "y" "3") "b" "x" "4" = _
  decide +kernel

end Ini

end ProfilePicker
