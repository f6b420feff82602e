import Mathlib.Data.List.Induction
import ProfilePicker.Proofs.Blocks
import ProfilePicker.Proofs.MixedBreaks

/-!
# The last value of an entry

An edit finds the line that an earlier edit of the same entry has written, whether it was put in
the place of another line, between two lines, or below a header that came with it. So of several
values that are written one after the other only the last one leaves a trace: the text is the one
that a single edit would have given, and it has one line more for the key at most, and one header
more at most.
-/
namespace ProfilePicker.Ini

open Text (OneLine joinLines)

variable {name key : Text} {ls body : List Text}

instance (name line : Text) : Decidable (Heads name line) :=
  decidable_of_iff _ headerName?_eq_some_iff

instance (key line : Text) : Decidable (Sets key line) :=
  decidable_of_iff _ keyName?_eq_some_iff

/-! ## Two values for one entry -/

/-- In a block, the second value of a key takes the place of the first. -/
theorem setInBody_setInBody (entry : EntryKey key) (value value' : Text) (body : List Text) :
    setInBody key value' (setInBody key value body) = setInBody key value' body := by
  have sets := entry.keyName?_entryLine value
  by_cases set : ∃ l ∈ body, keyName? l = some key
  · obtain ⟨before, old, after, rfl, others, setsOld⟩ := exists_first set
    rw [setInBody_of_set others setsOld, setInBody_of_set others sets,
      setInBody_of_set others setsOld]
  · have unset : ∀ l ∈ body, keyName? l ≠ some key := by simpa using set
    have others : ∀ l ∈ upToText body, keyName? l ≠ some key := by
      intro l member
      refine unset l ?_
      rw [← upToText_append_blankEnd body]
      exact List.mem_append_left _ member
    rw [setInBody_of_unset unset, setInBody_of_set others sets, setInBody_of_unset unset]

/-- Among lines, the second value of an entry takes the place of the first. -/
theorem setInLines_setInLines (header : HeaderName name) (entry : EntryKey key)
    (value value' : Text) (ls : List Text) :
    setInLines name key value' (setInLines name key value ls) = setInLines name key value' ls := by
  by_cases headed : ∃ l ∈ ls, headerName? l = some name
  · obtain ⟨front, head, rest, rfl, first, heads⟩ := exists_first headed
    obtain ⟨body, tail, rfl, inside, ends⟩ := exists_block rest
    have still : ∀ l ∈ setInBody key value body, isHeader l = false := by
      intro l member
      rcases mem_setInBody member with rfl | old
      · exact entry.isHeader_entryLine value
      · exact inside l old
    rw [setInLines_of_headed first heads, setInLines_of_headed first heads,
      setInLines_of_headed first heads, setInBlock_append inside ends,
      setInBlock_append still ends, setInBlock_append inside ends, setInBody_setInBody entry]
  · -- The first edit adds the section, and the second one finds its header behind all other lines.
    have absent : ∀ l ∈ ls, headerName? l ≠ some name := by simpa using headed
    have heads : headerName? (headerLine name) = some name := headerName?_eq_some_iff.2 header.heads
    have alone : ∀ l ∈ [entryLine key value], isHeader l = false := by
      simpa using entry.isHeader_entryLine value
    have replaced : setInBody key value' [entryLine key value] = [entryLine key value'] :=
      setInBody_of_set (List.forall_mem_nil _) (entry.keyName?_entryLine value) value' []
    rw [setInLines_of_absent absent, setInLines_of_absent absent,
      setInLines_of_last (headerName?_ne_append_separator absent) heads alone, replaced]

/-- In a text, the second value of an entry takes the place of the first. -/
theorem setLine_again {t value : Text} (noReturn : t.getLast? ≠ some '\r')
    (header : HeaderName name) (entry : EntryKey key) (oneLine : OneLine value) (value' : Text) :
    setLine (setLine t name key value) name key value' = setLine t name key value' := by
  rw [setLine_of_setLine noReturn header entry oneLine, setInLines_setInLines header entry]
  rfl

/-! ## What an edit adds -/

/-- An edit leaves a section with the headers that it has, and with one if it has none. -/
theorem countP_heads_setInLines (header : HeaderName name) (entry : EntryKey key) (value : Text)
    (ls : List Text) :
    (setInLines name key value ls).countP (Heads name ·) = max 1 (ls.countP (Heads name ·)) := by
  have written : ¬Heads name (entryLine key value) := entry.not_heads value name
  have parts := seam_spec name key ls
  rw [setInLines_eq]
  generalize (seam name key ls).1 = before, (seam name key ls).2 = after at parts ⊢
  cases parts with
  | @replaced front body back head old first heads others inside sets =>
    have heads : Heads name head := headerName?_eq_some_iff.1 heads
    have old : ¬Heads name old := isHeader_eq_false_iff.1 inside name
    simp [written, old, heads]
    omega
  | @inserted front body gap back head first heads others blank visible ends =>
    have heads : Heads name head := headerName?_eq_some_iff.1 heads
    simp [written, heads]
    omega
  | appended absent =>
    have none : (ls ++ separator ls).countP (Heads name ·) = 0 := by
      refine List.countP_eq_zero.2 fun l member => ?_
      simpa [headerName?_eq_some_iff] using headerName?_ne_append_separator absent l member
    have noneBefore : ls.countP (Heads name ·) = 0 := by
      rw [List.countP_append] at none
      omega
    rw [List.countP_append, List.countP_append, none, noneBefore]
    simp [header.heads, written]

/-- A header that an edit adds sets no key. -/
theorem not_sets_headerLine (entry : EntryKey key) (name : Text) : ¬Sets key (headerLine name) := by
  rintro ⟨-, before, value, whole, -, named⟩
  rw [headerLine_eq] at whole
  cases before with
  | nil => cases (List.cons.inj whole).1
  | cons c before =>
    obtain rfl := (List.cons.inj whole).1
    rw [Text.trim_cons_visible (by decide)] at named
    exact (entry.start '[' (by rw [← named]; rfl)).1 rfl

/-- An edit adds one line that sets the key, or replaces one. -/
theorem countP_sets_setInLines (entry : EntryKey key) (name value : Text) (ls : List Text) :
    (setInLines name key value ls).countP (Sets key ·) ≤ ls.countP (Sets key ·) + 1 := by
  have written : Sets key (entryLine key value) := entry.sets value
  have parts := seam_spec name key ls
  rw [setInLines_eq]
  generalize (seam name key ls).1 = before, (seam name key ls).2 = after at parts ⊢
  cases parts with
  | @replaced front body back head old first heads others inside sets =>
    have old : Sets key old := keyName?_eq_some_iff.1 sets
    simp only [List.countP_append, List.countP_cons, written, old]
    omega
  | @inserted front body gap back head first heads others blank visible ends =>
    simp only [List.countP_append, List.countP_cons, written, decide_true, if_true]
    omega
  | appended absent =>
    have gap : (separator ls).countP (Sets key ·) = 0 := by
      refine List.countP_eq_zero.2 fun l member => ?_
      rw [eq_nil_of_mem_separator member]
      simp [← keyName?_eq_some_iff, keyName?]
    simp [gap, written, not_sets_headerLine entry name]

/-! ## Any number of values for one entry -/

/-- The text after giving a key of a section some values, one after the other. -/
def writeAll (t name key : Text) (values : List Text) : Text :=
  values.foldl (fun s value => setLine s name key value) t

/-- The last of some values leaves what it would have left alone. -/
theorem writeAll_concat {t : Text} (noReturn : t.getLast? ≠ some '\r') (header : HeaderName name)
    (entry : EntryKey key) {values : List Text} (oneLine : ∀ value ∈ values, OneLine value)
    (last : Text) : writeAll t name key (values ++ [last]) = setLine t name key last := by
  induction values using List.reverseRecOn generalizing last with
  | nil => rfl
  | append_singleton values value ih =>
    have before := ih (fun v member => oneLine v (List.mem_append_left _ member)) value
    rw [writeAll, List.foldl_concat, ← writeAll, before]
    exact setLine_again noReturn header entry (oneLine value (by simp)) last

/-- The lines of an edited text are the edited lines. -/
theorem lines_setLine {t value : Text} (noReturn : t.getLast? ≠ some '\r')
    (header : HeaderName name) (entry : EntryKey key) (oneLine : OneLine value) :
    (setLine t name key value).lines = setInLines name key value t.lines :=
  Text.lines_joinLines (Text.isEnding_lineEnding t)
    (isLine_setInLines (Text.isLine_lines noReturn) header entry oneLine)

/-- **The last value of an entry wins and leaves no trace of those before it**, character for
character, whatever the text says and whatever its line breaks are, unless it ends with a carriage
return alone. However many values are written, the section has the headers that it had, or one if it
had none, and at most one line more sets the key. -/
theorem writeAll_last {t : Text} (noReturn : t.getLast? ≠ some '\r') (header : HeaderName name)
    (entry : EntryKey key) {values : List Text} (oneLine : ∀ value ∈ values, OneLine value)
    {last : Text} (ends : values.getLast? = some last) :
    writeAll t name key values = setLine t name key last ∧
      (writeAll t name key values).lines.countP (Heads name ·) =
        max 1 (t.lines.countP (Heads name ·)) ∧
      (writeAll t name key values).lines.countP (Sets key ·) ≤
        t.lines.countP (Sets key ·) + 1 := by
  obtain ⟨earlier, rfl⟩ := List.getLast?_eq_some_iff.1 ends
  have oneLineLast : OneLine last := oneLine last (by simp)
  have written : writeAll t name key (earlier ++ [last]) = setLine t name key last :=
    writeAll_concat noReturn header entry (fun v member => oneLine v (by simp [member])) last
  rw [written, lines_setLine noReturn header entry oneLineLast]
  exact ⟨rfl, countP_heads_setInLines header entry last t.lines,
    countP_sets_setInLines entry name last t.lines⟩

/-- Three values for a key of a section that is new to a text that cannot be read and has both kinds
of line breaks. -/
theorem writeAll_last_mixed :
    writeAll "[b\nx = 1\r\n \n[c]" "a" "x" ["1", "= \\", "2"] =
        "[b\r\nx = 1\r\n \r\n[c]\r\n\r\n[a]\r\nx = 2\r\n" ∧
      (writeAll "[b\nx = 1\r\n \n[c]" "a" "x" ["1", "= \\", "2"]).lines.countP (Sets "x" ·) ≤
        2 := by
  have noReturn : ("[b\nx = 1\r\n \n[c]" : Text).getLast? ≠ some '\r' := by decide
  have header : HeaderName "a" := by decide
  have entry : EntryKey "x" := by decide
  have oneLine : ∀ value ∈ (["1", "= \\", "2"] : List Text), OneLine value := by decide
  obtain ⟨text, -, lines⟩ := writeAll_last noReturn header entry oneLine rfl
  exact ⟨text.trans (by decide +kernel), lines.trans (by decide +kernel)⟩

end ProfilePicker.Ini
