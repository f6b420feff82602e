import ProfilePicker.Proofs.ClosedTexts

/-!
# Plain documents under any number of edits

A document keeps its text and what the text says side by side, and an edit changes each of the
two on its own. On plain documents they never drift apart: reading the edited text again gives
the edited contents, after any number of edits. The contents in turn are those of the original
text with the edits applied to them one after the other, as to a map.
-/
namespace ProfilePicker.Ini

/-- A change of a document: a key of a section is given a value. -/
structure Edit where
  /-- The name of the section. -/
  name : Text
  /-- The key. -/
  key : Text
  /-- The value. -/
  value : Text
deriving Repr, DecidableEq

/-- An edit that can be written as it is. -/
structure Edit.Plain (e : Edit) : Prop where
  /-- The name fits into a header. -/
  name : PlainName e.name
  /-- The key fits into a setting. -/
  key : PlainKey e.key
  /-- So does the value. -/
  value : PlainValue e.value

instance (e : Edit) : Decidable e.Plain :=
  decidable_of_iff (PlainName e.name ∧ PlainKey e.key ∧ PlainValue e.value)
    ⟨fun ⟨name, key, value⟩ => ⟨name, key, value⟩,
    fun plain => ⟨plain.name, plain.key, plain.value⟩⟩

/-- The document after some edits. -/
def Document.editAll (d : Document) (edits : List Edit) : Document :=
  edits.foldl (fun d e => d.set e.name e.key e.value) d

/-- The value that the last edit of a pair gives it. -/
def lastValue (name key : Text) : List Edit → Option Text
  | [] => none
  | e :: rest =>
    (lastValue name key rest).or (if name = e.name ∧ key = e.key then some e.value else none)

/-! ## The contents after some edits -/

/-- The look-ups after some edits: the last value of each edited pair, and all others as they
were. -/
theorem Document.get?_editAll (d : Document) (edits : List Edit) (name key : Text) :
    (d.editAll edits).get? name key = (lastValue name key edits).or (d.get? name key) := by
  induction edits generalizing d with
  | nil => rfl
  | cons e edits ih =>
    rw [editAll, List.foldl_cons, ← editAll, ih, d.get?_set, lastValue, Option.or_assoc]
    by_cases same : name = e.name ∧ key = e.key
    · rw [if_pos same, if_pos same]
      rfl
    · rw [if_neg same, if_neg same]
      rfl

/-- The names after some edits: those before, and behind them the new ones, in the order of the
first edit of each. -/
theorem Document.sections_editAll (d : Document) (edits : List Edit) :
    (d.editAll edits).sections =
      d.sections ++ (distinct (edits.map Edit.name)).filter (· ∉ d.sections) := by
  induction edits generalizing d with
  | nil => simp [editAll, distinct]
  | cons e edits ih =>
    rw [editAll, List.foldl_cons, ← editAll, ih, d.sections_set, List.map_cons, distinct]
    by_cases present : e.name ∈ d.sections
    · have others : ((distinct (edits.map Edit.name)).filter (· ≠ e.name)).filter
          (· ∉ d.sections) = (distinct (edits.map Edit.name)).filter (· ∉ d.sections) := by
        rw [List.filter_filter]
        refine List.filter_congr fun name member => ?_
        by_cases same : name = e.name <;> simp [same, present]
      rw [if_pos present, List.filter_cons_of_neg (by simpa using present), others]
    · have others : (distinct (edits.map Edit.name)).filter (· ∉ d.sections ++ [e.name]) =
          ((distinct (edits.map Edit.name)).filter (· ≠ e.name)).filter (· ∉ d.sections) := by
        rw [List.filter_filter]
        refine List.filter_congr fun name member => ?_
        simp [not_or]
      rw [if_neg present, List.filter_cons_of_pos (by simpa using present), others,
        List.append_assoc, List.singleton_append]

/-! ## Indented lines of a block -/

/-- A line without a header adds nothing but itself to the start of some lines. -/
theorem mem_takeWhile_insert {line : Text} (inside : isHeader line = false)
    (before after : List Text) (l : Text) :
    (l ∈ (before ++ line :: after).takeWhile (!isHeader ·) →
      l = line ∨ l ∈ (before ++ after).takeWhile (!isHeader ·)) ∧
    (l ∈ (before ++ after).takeWhile (!isHeader ·) →
      l ∈ (before ++ line :: after).takeWhile (!isHeader ·)) := by
  induction before with
  | nil =>
    have kept : (line :: after).takeWhile (!isHeader ·) =
        line :: after.takeWhile (!isHeader ·) := by simp [inside]
    rw [List.nil_append, List.nil_append, kept, List.mem_cons]
    exact ⟨id, .inr⟩
  | cons b before ih =>
    cases heads : isHeader b with
    | true => simp [heads]
    | false =>
      simp only [List.cons_append, List.takeWhile_cons, heads, Bool.not_false, if_true,
        List.mem_cons]
      tauto

/-- A line without a header adds nothing but itself to a block. -/
theorem mem_firstBlock_insert {line : Text} (inside : isHeader line = false) (name : Text)
    (before after : List Text) (l : Text) :
    (l ∈ firstBlock name (before ++ line :: after) →
      l = line ∨ l ∈ firstBlock name (before ++ after)) ∧
    (l ∈ firstBlock name (before ++ after) →
      l ∈ firstBlock name (before ++ line :: after)) := by
  induction before with
  | nil =>
    have other : headerName? line ≠ some name := by
      intro heads
      simp [isHeader, heads] at inside
    simp only [List.nil_append, firstBlock, if_neg other]
    exact ⟨.inr, id⟩
  | cons b before ih =>
    by_cases heads : headerName? b = some name
    · simp only [List.cons_append, firstBlock, if_pos heads]
      exact mem_takeWhile_insert inside before after l
    · simp only [List.cons_append, firstBlock, if_neg heads]
      exact ih

/-- Lines behind some lines add nothing but themselves to a block. -/
theorem mem_firstBlock_append {name : Text} {ls more : List Text} {l : Text}
    (member : l ∈ firstBlock name (ls ++ more)) : l ∈ firstBlock name ls ∨ l ∈ more := by
  induction ls with
  | nil => exact .inr (mem_of_mem_firstBlock member)
  | cons line ls ih =>
    rw [List.cons_append, firstBlock] at member
    rw [firstBlock]
    split at member
    · rename_i heads
      rw [if_pos heads]
      rw [List.takeWhile_append] at member
      split at member
      · rename_i whole
        have all := (List.takeWhile_prefix (!isHeader ·)).eq_of_length whole
        rw [all]
        rcases List.mem_append.1 member with inside | inside
        · exact .inl inside
        · exact .inr (List.takeWhile_subset _ inside)
      · exact .inl member
    · rename_i other
      rw [if_neg other]
      exact ih member

/-- An edit brings no indented line into any block. -/
theorem noIndented_setInLines {name key : Text} (plainKey : PlainKey key) (value : Text)
    {otherName otherKey : Text} {ls : List Text}
    (noIndented : NoIndented otherKey (firstBlock otherName ls)) :
    NoIndented otherKey (firstBlock otherName (setInLines name key value ls)) := by
  intro l member indented
  have written := isHeader_entryLine plainKey value
  rw [setInLines_eq] at member
  rcases (mem_firstBlock_insert written otherName _ _ l).1 member with rfl | nearby
  · rw [isIndented_entryLine plainKey value] at indented
    cases indented
  · have parts := seam_spec name key ls
    generalize (seam name key ls).1 = before, (seam name key ls).2 = after at parts nearby
    cases parts with
    | @replaced front body back head old first heads others inside sets =>
      refine noIndented l ?_ indented
      have kept := (mem_firstBlock_insert inside otherName (front ++ head :: body) _ l).2 nearby
      simpa using kept
    | @inserted front body gap back head first heads others blank visible ends =>
      refine noIndented l ?_ indented
      simpa using nearby
    | appended absent =>
      rw [List.append_nil, List.append_assoc] at nearby
      rcases mem_firstBlock_append nearby with old | new
      · exact noIndented l old indented
      · rcases List.mem_append.1 new with gap | head
        · rw [eq_nil_of_mem_separator gap] at indented
          cases indented
        · rw [List.mem_singleton.1 head] at indented
          cases indented

/-- Nor does it bring one anywhere. -/
theorem noIndented_lines_setInLines {name key : Text} (plainKey : PlainKey key) (value : Text)
    {otherKey : Text} {ls : List Text} (noIndented : NoIndented otherKey ls) :
    NoIndented otherKey (setInLines name key value ls) := by
  intro l member indented
  rcases mem_setInLines member with rfl | old | rfl | rfl
  · rw [isIndented_entryLine plainKey value] at indented
    cases indented
  · exact noIndented l old indented
  · cases indented
  · cases indented

/-! ## The text and what it says -/

/-- A document with a plain text, whose contents are what the text says. -/
structure Document.InStep (d : Document) : Prop where
  /-- The text is plain. -/
  plain : PlainText d.text
  /-- The look-ups are those of the lines of the text. -/
  reads : ∀ name key, d.get? name key = valueIn name key (itemsOf d.text.lines)
  /-- So are the names. -/
  named : d.sections = distinct (headersIn (itemsOf d.text.lines))

/-- A plain text makes up a document that is in step with it. -/
theorem PlainText.inStep {s : Text} (plain : PlainText s) :
    Document.InStep ⟨s, .ofItems (itemsOf s.lines)⟩ where
  plain := plain
  reads name key := get?_ofItems name key (itemsOf s.lines)
  named := names_ofItems (itemsOf s.lines)

namespace Document.InStep

variable {d : Document} (inStep : d.InStep)

include inStep in
/-- Reading the text of a document that is in step with it gives its contents again. -/
theorem reread : ∃ again, parse d.text = .ok again ∧ again.sections = d.sections ∧
    ∀ name key, again.get? name key = d.get? name key := by
  refine ⟨_, inStep.plain.closed.parse_eq, ?_, fun name key => ?_⟩
  · rw [inStep.named]
    exact names_ofItems _
  · rw [inStep.reads]
    exact get?_ofItems name key _

include inStep in
/-- A plain edit leaves a document in step with its text. -/
theorem set {e : Edit} (plain : e.Plain)
    (noIndented : NoIndented e.key (firstBlock e.name d.text.lines)) :
    (d.set e.name e.key e.value).InStep := by
  have closedText := inStep.plain.closed
  have closed : d.text.lineEnding = Text.shortEnding → leavesOpen e.value = false :=
    fun _ => leavesOpen_eq_false plain.value.noBackslash
  have lines : (setLine d.text e.name e.key e.value).lines =
      setInLines e.name e.key e.value d.text.lines :=
    (closedText.setLine_lines plain.name plain.key plain.value.oneLine closed).1
  refine ⟨inStep.plain.setLine plain.name plain.key plain.value, fun name key => ?_, ?_⟩
  · have own : valueIn e.name e.key (itemsOf (setInLines e.name e.key e.value d.text.lines)) =
        some e.value := by
      rw [closedText.valueIn_self plain.name plain.key e.value noIndented, plain.value.trimmed]
    rw [get?_set]
    change _ = valueIn name key (itemsOf (setLine d.text e.name e.key e.value).lines)
    rw [lines]
    by_cases same : name = e.name ∧ key = e.key
    · obtain ⟨rfl, rfl⟩ := same
      rw [if_pos ⟨rfl, rfl⟩, own]
    · rw [if_neg same, closedText.valueIn_other plain.name plain.key e.value same, inStep.reads]
  · rw [sections_set]
    change _ = distinct (headersIn (itemsOf (setLine d.text e.name e.key e.value).lines))
    rw [lines, closedText.headersIn_setInLines plain.name plain.key, inStep.named]
    simp only [mem_distinct]
    by_cases present : e.name ∈ headersIn (itemsOf d.text.lines)
    · rw [if_pos present, if_pos present]
    · rw [if_neg present, if_neg present, distinct_concat, if_neg present]

include inStep in
/-- Plain edits leave a document in step with its text. -/
theorem editAll {edits : List Edit} (plain : ∀ e ∈ edits, e.Plain)
    (noIndented : ∀ e ∈ edits, NoIndented e.key (firstBlock e.name d.text.lines)) :
    (d.editAll edits).InStep := by
  induction edits generalizing d with
  | nil => exact inStep
  | cons e edits ih =>
    have first := plain e List.mem_cons_self
    have free := noIndented e List.mem_cons_self
    have closed : d.text.lineEnding = Text.shortEnding → leavesOpen e.value = false :=
      fun _ => leavesOpen_eq_false first.value.noBackslash
    have lines : (d.set e.name e.key e.value).text.lines =
        setInLines e.name e.key e.value d.text.lines :=
      (inStep.plain.closed.setLine_lines first.name first.key first.value.oneLine closed).1
    refine ih (inStep.set first free) (fun other member => plain other (.tail e member)) ?_
    intro other member
    rw [lines]
    exact noIndented_setInLines first.key e.value (noIndented other (.tail e member))

end Document.InStep

/-- **The text and the contents of a plain document agree after any number of plain edits.** The
edited text is plain again and can be read, and what is read from it has the names and the
look-ups of the edited document. These are the original ones with the edits applied to them:
the last value of every edited pair, every other look-up as it was, and the new names behind the
old ones in the order of the first edit of each. -/
theorem reread_editAll {s : Text} (plain : PlainText s) {edits : List Edit}
    (plainEdits : ∀ e ∈ edits, e.Plain)
    (noIndented : ∀ e ∈ edits, NoIndented e.key (firstBlock e.name s.lines)) :
    ∃ d again, Document.parse s = .ok d ∧ PlainText (d.editAll edits).text ∧
      Document.parse (d.editAll edits).text = .ok again ∧
      again.sections = (d.editAll edits).sections ∧
      (∀ name key, again.get? name key = (d.editAll edits).get? name key) ∧
      (∀ name key, (d.editAll edits).get? name key =
        (lastValue name key edits).or (d.get? name key)) ∧
      (d.editAll edits).sections =
        d.sections ++ (distinct (edits.map Edit.name)).filter (· ∉ d.sections) := by
  have edited := plain.inStep.editAll plainEdits noIndented
  obtain ⟨again, read, names, reads⟩ := edited.reread
  exact ⟨_, again, plain.closed.parse_eq, edited.plain, read, names, reads,
    Document.get?_editAll _ edits, Document.sections_editAll _ edits⟩

/-- Two values in turn for one key, and one for a section that is new: a comment, a nested
setting and an empty line do not get in the way. -/
theorem reread_two_sections :
    ∃ d again : Document,
      Document.parse "# mine\n[a]\nk = 1\nnested =\n  deep = 1\n\n[b]\nk = 1\n" = .ok d ∧
      Document.parse (d.editAll [⟨"a", "k", "2"⟩, ⟨"c", "x", "y"⟩, ⟨"a", "k", "3"⟩]).text =
        .ok again ∧
      again.get? "a" "k" = some "3" ∧ again.get? "c" "x" = some "y" := by
  have plain : PlainText "# mine\n[a]\nk = 1\nnested =\n  deep = 1\n\n[b]\nk = 1\n" := by
    refine ⟨Text.shortEnding, ["# mine", headerLine "a", entryLine "k" "1",
      settingLine [] "nested" " " [], settingLine "  " "deep" " " " 1", [], headerLine "b",
      entryLine "k" "1"], .inl rfl, ?_, rfl⟩
    have one : PlainLine (entryLine "k" "1") := plainLine_entryLine (by decide) (by decide)
    simp only [List.forall_mem_cons, List.not_mem_nil, false_implies, implies_true, and_true]
    exact ⟨.comment (by decide) (by decide), .header (by decide), one,
      .setting (by decide) (by decide) (by decide) (by decide) (by decide),
      .setting (by decide) (by decide) (by decide) (by decide) (by decide),
      .blank (by decide), .header (by decide), one⟩
  have edits : ∀ e ∈ ([⟨"a", "k", "2"⟩, ⟨"c", "x", "y"⟩, ⟨"a", "k", "3"⟩] : List Edit),
      e.Plain := by decide
  obtain ⟨d, again, read, -, reread, -, same, reads, -⟩ :=
    reread_editAll plain edits (by decide)
  refine ⟨d, again, read, reread, ?_, ?_⟩
  · rw [same, reads]
    rfl
  · rw [same, reads]
    rfl

end ProfilePicker.Ini
