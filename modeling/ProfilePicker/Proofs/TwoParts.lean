import ProfilePicker.Proofs.WrittenValues

/-!
# Texts that are cut in front of a written line

The line that an edit writes is behind whole lines, and what follows it is read behind the end of
a line. So the edited text falls into two parts that can be read one after the other, unless a
header goes on from the first into the second: the headers of the whole are those of the first part
and then those of the second. The second part begins on a line of its own, so its characters stand
in the columns where they stand in the whole, though on other lines; and where a text can be read,
the reader does not look at lines.
-/
namespace ProfilePicker.Ini

open Text (OneLine placedAfter)

/-! ## What the reader sees of a place -/

/-- A character in its column, without its line. -/
def lineless (p : Placed) : Placed := { p with line := 0 }

@[simp]
theorem char_lineless (p : Placed) : (lineless p).char = p.char := rfl

/-- A turn, without the lines of the characters left to read. -/
def Turn.lineless (t : Turn) : Turn := ⟨t.item, t.key, t.rest.map Ini.lineless⟩

/-- A piece is taken without looking at lines. -/
theorem takeUntil_lineless (ends : Char → Bool) (s : List Placed) :
    takeUntil ends (s.map lineless) =
      ((takeUntil ends s).1, (takeUntil ends s).2.map lineless) := by
  fun_induction takeUntil ends s with
  | case1 => rfl
  | case2 p stops => simp [takeUntil, stops]
  | case3 p goesOn => simp [takeUntil, goesOn]
  | case4 p q rest stops => simp [takeUntil, stops]
  | case5 p q rest goesOn protects piece after taken feed ih =>
    rw [taken] at ih
    rw [protects] at goesOn
    simp [takeUntil, goesOn, protects, feed, ih]
  | case6 p q rest goesOn protects piece after taken noFeed ih =>
    rw [taken] at ih
    rw [protects] at goesOn
    simp [takeUntil, goesOn, protects, noFeed, ih]
  | case7 p q rest goesOn free piece after taken ih =>
    rw [taken, List.map_cons] at ih
    simp [takeUntil, goesOn, free, ih]

/-- So is a gap passed over. -/
theorem skipGap_lineless (s : List Placed) :
    skipGap (s.map lineless) = (skipGap s).map lineless := by
  fun_induction skipGap s with
  | case1 => rfl
  | case2 p blank => simp [skipGap, blank]
  | case3 p visible => simp [skipGap, visible]
  | case4 p q rest visible => simp [skipGap, visible]
  | case5 p q rest blank stops => simp_all [skipGap]
  | case6 p q rest blank goesOn ih =>
    rw [List.map_cons] at ih
    simp only [List.map_cons, skipGap, char_lineless, blank, goesOn]
    exact ih

/-- So are characters that are dropped. -/
theorem dropWhile_lineless (drops : Char → Bool) (s : List Placed) :
    (s.map lineless).dropWhile (drops ·.char) = (s.dropWhile (drops ·.char)).map lineless := by
  rw [List.dropWhile_map]
  rfl

/-- So is the rest of a line. -/
theorem afterLine_lineless (s : List Placed) :
    afterLine (s.map lineless) = (afterLine s).map lineless := by
  rw [afterLine, dropWhile_lineless (· != '\n'), ← List.map_drop]
  rfl

/-- A header is read without looking at lines. -/
theorem header_lineless (last last' : Option Placed) (key : Text) (s : List Placed) :
    (header last' key (s.map lineless)).toOption =
      (header last key s).toOption.map Turn.lineless := by
  rw [header, header, takeUntil_lineless]
  rcases takeUntil (· = ']') s with ⟨name, rest⟩
  cases rest with
  | nil => rfl
  | cons q rest =>
    simp only [List.map_cons, skipGap_lineless]
    rfl

/-- So is a value. -/
theorem value_lineless (key : Text) (s : List Placed) :
    value key (s.map lineless) = (value key s).lineless := by
  simp only [value, dropWhile_lineless (fun c => isBlank c && !isLineEnd c), takeUntil_lineless,
    skipGap_lineless]
  rfl

/-- So is an indented line. -/
theorem indented_lineless (last last' : Option Placed) (key : Text) (s : List Placed) :
    (indented last' key (s.map lineless)).toOption =
      (indented last key s).toOption.map Turn.lineless := by
  cases s with
  | nil => rfl
  | cons p rest =>
    by_cases opens : p.char = '['
    · simp only [List.map_cons, indented, char_lineless, opens, if_true]
      exact header_lineless last last' key rest
    by_cases closes : isLineEnd p.char = true
    · simp only [List.map_cons, indented, char_lineless, opens, closes, if_false, if_true]
      rfl
    · have taken := takeUntil_lineless isDelimiter (p :: rest)
      rw [List.map_cons] at taken
      simp only [List.map_cons, indented, char_lineless, opens, closes, if_false, taken,
        skipGap_lineless]
      rfl

/-- A turn goes the same way whatever the lines are. Only a problem that it meets is reported
elsewhere. -/
theorem turn_lineless (last last' : Option Placed) (key : Text) (p : Placed)
    (rest : List Placed) : (turn last' key (lineless p) (rest.map lineless)).toOption =
      (turn last key p rest).toOption.map Turn.lineless := by
  by_cases marks : startsComment p.char = true
  · -- Only here does a column matter.
    have same : (lineless p).column = p.column := rfl
    simp only [turn, char_lineless, marks, same, if_true]
    split
    · rfl
    · rw [afterLine_lineless, skipGap_lineless]
      rfl
  by_cases opens : p.char = '['
  · rw [turn_header opens, turn_header (p := lineless p) opens]
    exact header_lineless last last' key rest
  by_cases delimits : isDelimiter p.char = true
  · by_cases waiting : key = []
    · rw [waiting, turn_missingKey delimits, turn_missingKey (p := lineless p) delimits]
      rfl
    · rw [turn_value delimits waiting, turn_value (p := lineless p) delimits waiting,
        value_lineless]
      rfl
  by_cases indents : isIndent p.char = true
  · rw [turn_indented indents, turn_indented (p := lineless p) indents, dropWhile_lineless]
    exact indented_lineless last last' key _
  by_cases closes : isLineEnd p.char = true
  · rw [turn_lineEnd closes, turn_lineEnd (p := lineless p) closes, skipGap_lineless]
    rfl
  have begins : beginsKey p.char = true := by
    simp [beginsKey, marks, opens, delimits, indents, closes]
  rw [turn_key begins, turn_key (p := lineless p) begins, ← List.map_cons, takeUntil_lineless]
  rcases takeUntil isDelimiter (p :: rest) with ⟨name, after⟩
  cases after with
  | nil => rfl
  | cons q after =>
    simp only [List.map_cons]
    rw [← List.map_cons, skipGap_lineless]
    rfl

/-- The same items are read whatever the lines are. -/
theorem itemsFrom_lineless (last last' : Option Placed) (key : Text) (s : List Placed) :
    (itemsFrom last' key (s.map lineless)).toOption = (itemsFrom last key s).toOption := by
  obtain ⟨n, size⟩ : ∃ n, s.length = n := ⟨_, rfl⟩
  induction n using Nat.strong_induction_on generalizing s key with
  | _ n ih =>
    cases s with
    | nil => rw [List.map_nil, itemsFrom_nil, itemsFrom_nil]
    | cons p rest =>
      have turned := turn_lineless last last' key p rest
      rw [List.map_cons]
      cases done : turn last key p rest with
      | error problem =>
        rw [done] at turned
        cases done' : turn last' key (lineless p) (rest.map lineless) with
        | error problem' => rw [itemsFrom_of_problem done, itemsFrom_of_problem done']; rfl
        | ok t' => rw [done'] at turned; cases turned
      | ok t =>
        rw [done] at turned
        cases done' : turn last' key (lineless p) (rest.map lineless) with
        | error problem' => rw [done'] at turned; cases turned
        | ok t' =>
          rw [done'] at turned
          cases turned
          have shorter := turn_length_le done
          have later := ih t.rest.length (by simp at size; omega) t.key t.rest rfl
          rw [itemsFrom_of_turn done, itemsFrom_of_turn done']
          simp only [Turn.lineless]
          cases more : itemsFrom last t.key t.rest <;>
            cases more' : itemsFrom last' t.key (t.rest.map lineless) <;>
            simp_all [Except.toOption, Except.map]

/-- What is left to read yields the same items on all lines. -/
theorem Reads.of_lineless {key : Text} {q q' : List Placed} {found : List Item}
    (reads : Reads key q found) (same : q.map lineless = q'.map lineless) : Reads key q' found := by
  intro last
  have read := (itemsFrom_lineless last last key q').symm.trans
    (same ▸ itemsFrom_lineless last last key q)
  rw [reads last] at read
  cases done : itemsFrom last key q' with
  | error problem => rw [done] at read; cases read
  | ok more => rw [done] at read; cases read; rfl

/-- What is left to read fails on all lines or on none. -/
theorem Fails.of_lineless {key : Text} {q q' : List Placed} (fails : Fails key q)
    (same : q.map lineless = q'.map lineless) : Fails key q' :=
  (reads_or_fails key q').resolve_left fun ⟨found, reads⟩ =>
    fails.not_reads found (reads.of_lineless same.symm)

/-- A text that continues in some column does so on all lines. -/
theorem map_lineless_placedAfter (line line' column : Nat) (s : Text) :
    (placedAfter line column s).map lineless = (placedAfter line' column s).map lineless := by
  induction s generalizing line line' column with
  | nil => rfl
  | cons c s ih =>
    by_cases feed : c = '\n'
    · simp only [placedAfter, feed, if_true, List.map_cons, ih (line + 1) (line' + 1)]
      rfl
    · simp only [placedAfter, feed, if_false, List.map_cons, ih line line']
      rfl

/-! ## The line that is written -/

/-- Blanks before a value do not change where it ends. -/
theorem takeUntil_dropWhile_snd (s : List Placed) :
    (takeUntil isLineEnd (s.dropWhile fun p => isBlank p.char && !isLineEnd p.char)).2 =
      (takeUntil isLineEnd s).2 := by
  induction s with
  | nil => rfl
  | cons p s ih =>
    by_cases dropped : (isBlank p.char && !isLineEnd p.char) = true
    · have free : p.char ≠ '\\' := fun same => by
        rw [same] at dropped
        exact absurd dropped (by decide)
      have goesOn : isLineEnd p.char = false := by
        simp only [Bool.and_eq_true, Bool.not_eq_true'] at dropped
        exact dropped.2
      rw [takeUntil_goOn goesOn free, ← ih, List.dropWhile_cons, if_pos dropped]
    · rw [List.dropWhile_cons, if_neg dropped]

/-- Where the reader is behind a delimiter and the value after it. -/
theorem exists_comes_value {key : Text} {p : Placed} (delimits : isDelimiter p.char = true)
    (waiting : key ≠ []) (s : List Placed) : ∃ written,
    Comes key (p :: s) [.entry key written] [] (skipGap (takeUntil isLineEnd s).2) := by
  have valued : ∃ written,
      value key s = ⟨some (.entry key written), [], skipGap (takeUntil isLineEnd s).2⟩ := by
    rw [← takeUntil_dropWhile_snd]
    exact ⟨_, rfl⟩
  obtain ⟨written, valued⟩ := valued
  exact ⟨written, .of_item fun last => (turn_value delimits waiting).trans (congrArg _ valued)⟩

section Line

variable {key : Text} (plain : PlainKey key)

/-- What is left to read behind a written line, from its delimiter on. -/
def behindLine (line column : Nat) (value s : Text) : List Placed :=
  skipGap (takeUntil isLineEnd (placedAfter line column (' ' :: value ++ s))).2

/-- It is the same on all lines. -/
theorem map_lineless_behindLine (line line' column : Nat) (value s : Text) :
    (behindLine line column value s).map lineless =
      (behindLine line' column value s).map lineless := by
  have taken := congrArg (fun t => (takeUntil isLineEnd t).2)
    (map_lineless_placedAfter line line' column (' ' :: value ++ s))
  simp only [takeUntil_lineless] at taken
  rw [behindLine, behindLine, ← skipGap_lineless, ← skipGap_lineless, taken]

include plain in
/-- Where a key goes on with a written line, the reader finds an entry and what follows it. -/
theorem InKey.comes_line {u : List Placed} {found : List Item} {begun : Text}
    (inKey : InKey u found begun) (n : Nat) (value s : Text) : ∃ k v,
    Comes [] (u ++ placedAfter n 0 (entryLine key value ++ s)) (found ++ [.entry k v]) []
      (behindLine n (key.length + 2) value s) := by
  have waiting : Text.trim (begun ++ (key ++ [' '])) ≠ [] := by
    obtain ⟨c, rest, rfl, visible, -⟩ := plain.exists_begins
    exact Text.trim_ne_nil (by simp) visible
  have keyed := inKey _ _ _ _ (beginsKey_entryLine plain value n s)
    (takeUntil_entryLine plain value n s)
  obtain ⟨written, valued⟩ := exists_comes_value (p := ⟨'=', n, key.length + 2⟩) rfl waiting
    (placedAfter n (key.length + 2) (' ' :: value ++ s))
  exact ⟨_, written, keyed.trans valued⟩

include plain in
/-- A value that goes on with a written line ends where the value of the line does. -/
theorem takeUntil_entryLine_snd (n : Nat) (value s : Text) :
    skipGap (takeUntil isLineEnd (placedAfter n 0 (entryLine key value ++ s))).2 =
      behindLine n (key.length + 2) value s := by
  have chars : entryLine key value ++ s = key ++ [' ', '='] ++ (' ' :: value ++ s) := by
    simp [entryLine]
  have inLine : OneLine (key ++ [' ', '=']) :=
    Text.oneLine_append.2 ⟨plain.oneLine, by decide⟩
  have noBackslash : '\\' ∉ key ++ [' ', '='] := by
    simp [plain.noBackslash]
  have goesOn : ∀ c ∈ key ++ [' ', '='], isLineEnd c = false := fun c member => by
    simpa [isLineEnd] using inLine c member
  rw [chars, takeUntil_placedAfter isLineEnd (fun member => (inLine _ member).1 rfl) goesOn
    noBackslash, behindLine]
  simp

end Line

/-! ## The two parts -/

section Edit

variable {s name key : Text} (plain : PlainKey key)

/-- The text from the line on that an edit writes. -/
def textFrom (s name key value : Text) : Text :=
  entryLine key value ++ s.lineEnding ++ textBehind s name key

include plain in
/-- If what stands before the line that an edit writes can be read, with a line to try it out, it
is read so in the edited text: there are an entry and what follows the line in its stead. -/
theorem comes_setLine {front : List Item}
    (before : items (textBefore s name key ++ trial) = .ok front) (value : Text) :
    ∃ found n k v, headersIn found = headersIn front ∧
      Comes [] (Text.placed (setLine s name key value)) (found ++ [.entry k v]) []
        (behindLine n (key.length + 2) value (s.lineEnding ++ textBehind s name key)) := by
  obtain ⟨ended, n, cut, tried⟩ := exists_cut s name key
  have before := reads_iff_items.2 before
  rw [tried] at before
  rw [cut]
  have begins : Begins (placedAfter n 0 trial) :=
    ⟨⟨'x', n, 1⟩, _, rfl, show isBlank 'x' = false by decide⟩
  cases stands ended [] with
  | atLine found key' comes =>
    have inKey := inKey_of_atLine comes
    obtain ⟨k, v, line⟩ := inKey.comes_line plain n value (s.lineEnding ++ textBehind s name key)
    obtain rfl := before.unique (inKey.reads_trial n)
    exact ⟨found, n, k, v, by simp, line⟩
  | inKey found begun comes =>
    have inKey := inKey_of_comes comes
    obtain ⟨k, v, line⟩ := inKey.comes_line plain n value (s.lineEnding ++ textBehind s name key)
    obtain rfl := before.unique (inKey.reads_trial n)
    exact ⟨found, n, k, v, by simp, line⟩
  | inHeader found key' begun comes fails =>
    exact absurd before ((fails _ trial begins rfl).not_reads _)
  | inValue found key' begun comes =>
    have done := (comes _ begins).reads fun last => itemsFrom_nil last []
    obtain rfl := before.unique done
    have line := comes _ (begins_entryLine plain value n (s.lineEnding ++ textBehind s name key))
    rw [takeUntil_entryLine_snd plain] at line
    exact ⟨found, n, _, _, by simp, line⟩
  | lost fails => exact absurd before ((fails _ begins).not_reads _)

/-- The sections of a text that is read in two parts: up to the line that an edit writes, with one
to try it out, and from that line on. -/
def sectionsInParts (s name key value : Text) : Except Problem (List Text) := do
  let front ← items (textBefore s name key ++ trial)
  let back ← items (textFrom s name key value)
  return distinct (headersIn front ++ headersIn back)

include plain in
/-- If what stands before the line that an edit writes can be read, the edited text has the sections
of its two parts. -/
theorem sections_setLine_iff {front : List Item}
    (before : items (textBefore s name key ++ trial) = .ok front) (value : Text)
    (names : List Text) :
    (Document.parse (setLine s name key value)).map Document.sections = .ok names ↔
      sectionsInParts s name key value = .ok names := by
  obtain ⟨found, n, k, v, heads, whole⟩ := comes_setLine plain before value
  obtain ⟨k', v', part⟩ := (inKey_of_atLine (u := []) fun w _ => Comes.refl [] w).comes_line plain 0
    value (s.lineEnding ++ textBehind s name key)
  rw [List.nil_append, ← List.append_assoc] at part
  have same := map_lineless_behindLine n 0 (key.length + 2) value
    (s.lineEnding ++ textBehind s name key)
  have inParts : sectionsInParts s name key value = (items (textFrom s name key value)).map
      fun back => distinct (headersIn front ++ headersIn back) := by
    rw [sectionsInParts, before]
    rfl
  rw [inParts]
  rcases reads_or_fails [] (behindLine n (key.length + 2) value
    (s.lineEnding ++ textBehind s name key)) with ⟨more, reads⟩ | fails
  · have read := reads_iff_items.1 (whole.reads reads)
    have readPart : items (textFrom s name key value) = .ok ([.entry k' v'] ++ more) :=
      reads_iff_items.1 (part.reads (reads.of_lineless same))
    rw [Document.parse_of_items read, readPart]
    simp [Except.map, Document.sections, names_ofItems, heads]
  · -- Neither the edited text nor its second part can be read.
    obtain ⟨problem, failed⟩ := (whole.fails fails).items
    obtain ⟨problem', failed'⟩ : ∃ problem, items (textFrom s name key value) = .error problem :=
      (part.fails (fails.of_lineless same)).items
    rw [Document.parse, failed, failed']
    exact iff_of_false (fun kept => by cases kept) fun kept => by cases kept

end Edit

end ProfilePicker.Ini
