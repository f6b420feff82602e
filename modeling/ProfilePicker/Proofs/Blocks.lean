import ProfilePicker.Proofs.ClosedEdits
import ProfilePicker.Proofs.LocalEdits

/-!
# Edits of a block

Behind the first header of a section stands a block, which goes as far as the next header. An edit
replaces the first line of the block that sets the key. If there is none, the new line comes behind
the last line that is not blank. Neither depends on what stands before the block or behind it, and
blank lines at its end stay there.
-/
namespace ProfilePicker.Ini

variable {name name' key value line head : Text} {ls front body rest gap before after : List Text}

/-! ## Lines that are not blank -/

/-- A line that sets a key is not blank. -/
theorem isBlank_of_sets (sets : keyName? line = some key) : Text.isBlank line = false := by
  cases line with
  | nil => cases sets
  | cons c rest =>
    have visible : isBlank c = false := by
      by_contra blank
      simp [keyName?, blank] at sets
    simp [Text.isBlank, visible]

/-- A header is not blank. -/
theorem isBlank_of_isHeader (heads : isHeader line = true) : Text.isBlank line = false := by
  obtain ⟨name, indent, inside, rest, rfl, -⟩ := isHeader_eq_true_iff.1 heads
  have bracket : isBlank '[' = false := by decide
  simp [Text.isBlank, bracket]

/-- A line that heads one section heads no other. -/
theorem headerName?_ne (heads : headerName? head = some name) (differ : name ≠ name') :
    headerName? head ≠ some name' := by
  rw [heads]
  simpa using differ

/-- The line that an edit writes sets the key. -/
theorem EntryKey.keyName?_entryLine (entry : EntryKey key) (value : Text) :
    keyName? (entryLine key value) = some key :=
  keyName?_eq_some_iff.2 (entry.sets value)

/-- It heads no section. -/
theorem EntryKey.headerName?_entryLine (entry : EntryKey key) (value name : Text) :
    headerName? (entryLine key value) ≠ some name :=
  fun heads => entry.not_heads value name (headerName?_eq_some_iff.1 heads)

/-- It is no header. -/
theorem EntryKey.isHeader_entryLine (entry : EntryKey key) (value : Text) :
    isHeader (entryLine key value) = false :=
  isHeader_eq_false_iff.2 (entry.not_heads value)

/-- The first line of a kind, with the lines before it and behind it. -/
theorem exists_first {p : Text → Prop} [DecidablePred p] (found : ∃ l ∈ ls, p l) :
    ∃ front first rest, ls = front ++ first :: rest ∧ (∀ l ∈ front, ¬p l) ∧ p first := by
  have present : (ls.find? (p ·)).isSome = true := by simpa [List.find?_isSome] using found
  obtain ⟨first, here⟩ := Option.isSome_iff_exists.1 present
  obtain ⟨holds, front, rest, whole, before⟩ := List.find?_eq_some_iff_append.1 here
  exact ⟨front, first, rest, whole, by simpa using before, by simpa using holds⟩

/-! ## Up to the last line that is not blank -/

/-- A block is cut in one way only into lines whose last one is not blank and blank lines. -/
theorem upToText_of_cut (visible : ∀ l, body.getLast? = some l → Text.isBlank l = false)
    (blank : ∀ l ∈ gap, Text.isBlank l = true) :
    upToText (body ++ gap) = body ∧ blankEnd (body ++ gap) = gap := by
  have blankReverse : ∀ l ∈ gap.reverse, Text.isBlank l = true := by simpa using blank
  have stops : body.reverse.takeWhile Text.isBlank = [] ∧
      body.reverse.dropWhile Text.isBlank = body.reverse := by
    cases last : body.reverse with
    | nil => exact ⟨rfl, rfl⟩
    | cons l front =>
      have seen : Text.isBlank l = false := visible l (by rw [← List.head?_reverse, last]; rfl)
      simp [seen]
  rw [upToText, blankEnd, List.reverse_append, List.dropWhile_append_of_pos blankReverse,
    List.takeWhile_append_of_pos blankReverse, stops.1, stops.2]
  simp

/-- A line stands among those up to the last one that is not blank, if it or a later one is not. -/
theorem upToText_cons (visible : Text.isBlank line = false ∨ ∃ l ∈ rest, Text.isBlank l = false) :
    upToText (line :: rest) = line :: upToText rest ∧ blankEnd (line :: rest) = blankEnd rest := by
  have whole := upToText_append_blankEnd rest
  have cut : ∀ l, (line :: upToText rest).getLast? = some l → Text.isBlank l = false := by
    intro l last
    cases shape : (upToText rest).getLast? with
    | some other =>
      obtain rfl : other = l := by simpa [List.getLast?_cons, shape] using last
      exact isBlank_getLast?_upToText shape
    | none =>
      obtain rfl : line = l := by simpa [List.getLast?_cons, shape] using last
      refine visible.resolve_right ?_
      rintro ⟨later, member, seen⟩
      rw [List.getLast?_eq_none_iff.1 shape, List.nil_append] at whole
      rw [← whole] at member
      exact Bool.false_ne_true (seen.symm.trans (isBlank_of_mem_blankEnd member))
  have blank : ∀ l ∈ blankEnd rest, Text.isBlank l = true := fun l member =>
    isBlank_of_mem_blankEnd member
  have parts := upToText_of_cut cut blank
  rwa [List.cons_append, whole] at parts

/-- Blank lines behind a block belong to its end. -/
theorem upToText_append (blank : ∀ l ∈ gap, Text.isBlank l = true) (body : List Text) :
    upToText (body ++ gap) = upToText body ∧ blankEnd (body ++ gap) = blankEnd body ++ gap := by
  have all : ∀ l ∈ blankEnd body ++ gap, Text.isBlank l = true := fun l member =>
    (List.mem_append.1 member).elim isBlank_of_mem_blankEnd (blank l)
  have visible : ∀ l, (upToText body).getLast? = some l → Text.isBlank l = false := fun l last =>
    isBlank_getLast?_upToText last
  have parts := upToText_of_cut visible all
  rwa [← List.append_assoc, upToText_append_blankEnd] at parts

/-! ## Edits of a block -/

/-- The first line that sets the key is replaced. -/
theorem setInBody_of_set (others : ∀ l ∈ before, keyName? l ≠ some key)
    (sets : keyName? line = some key) (value : Text) (after : List Text) :
    setInBody key value (before ++ line :: after) = before ++ entryLine key value :: after := by
  have all : ∀ l ∈ before, decide (keyName? l ≠ some key) = true := by simpa using others
  rw [setInBody, List.span_eq_takeWhile_dropWhile, List.takeWhile_append_of_pos all,
    List.dropWhile_append_of_pos all]
  simp [sets]

/-- In a block that does not set the key, the new line comes behind the last one that is not
blank. -/
theorem setInBody_of_unset (unset : ∀ l ∈ body, keyName? l ≠ some key) (value : Text) :
    setInBody key value body = upToText body ++ entryLine key value :: blankEnd body := by
  have others : ∀ l ∈ body, decide (keyName? l ≠ some key) = true := by simpa using unset
  rw [setInBody, List.span_eq_takeWhile_dropWhile, List.dropWhile_eq_nil_iff.2 others]
  exact insertAfterText_eq (entryLine key value) body

/-- A line that sets another key or none stays before the edit, unless it is blank like all after
it. -/
theorem setInBody_cons_of_other (other : keyName? line ≠ some key)
    (visible : Text.isBlank line = false ∨ ∃ l ∈ rest, Text.isBlank l = false) (value : Text) :
    setInBody key value (line :: rest) = line :: setInBody key value rest := by
  by_cases set : ∃ l ∈ rest, keyName? l = some key
  · obtain ⟨before, old, after, rfl, others, sets⟩ := exists_first set
    have othersToo : ∀ l ∈ line :: before, keyName? l ≠ some key :=
      List.forall_mem_cons.2 ⟨other, others⟩
    rw [setInBody_of_set others sets]
    exact setInBody_of_set othersToo sets value after
  · have unset : ∀ l ∈ rest, keyName? l ≠ some key := by simpa using set
    have unsetToo : ∀ l ∈ line :: rest, keyName? l ≠ some key :=
      List.forall_mem_cons.2 ⟨other, unset⟩
    obtain ⟨upTo, ends⟩ := upToText_cons visible
    rw [setInBody_of_unset unset, setInBody_of_unset unsetToo, upTo, ends, List.cons_append]

/-- Blank lines behind a block stay behind it. -/
theorem setInBody_append_blank (blank : ∀ l ∈ gap, Text.isBlank l = true) (key value : Text)
    (body : List Text) : setInBody key value (body ++ gap) = setInBody key value body ++ gap := by
  by_cases set : ∃ l ∈ body, keyName? l = some key
  · obtain ⟨before, old, after, rfl, others, sets⟩ := exists_first set
    rw [List.append_assoc, List.cons_append, setInBody_of_set others sets,
      setInBody_of_set others sets, List.append_assoc, List.cons_append]
  · have unset : ∀ l ∈ body, keyName? l ≠ some key := by simpa using set
    have unsetBoth : ∀ l ∈ body ++ gap, keyName? l ≠ some key := by
      intro l member sets
      rcases List.mem_append.1 member with inBody | inGap
      · exact unset l inBody sets
      · exact Bool.false_ne_true ((isBlank_of_sets sets).symm.trans (blank l inGap))
    obtain ⟨upTo, ends⟩ := upToText_append blank body
    rw [setInBody_of_unset unset, setInBody_of_unset unsetBoth, upTo, ends]
    simp

/-- The lines of an edited block are the one that is written and lines of the block. -/
theorem mem_setInBody (member : line ∈ setInBody key value body) :
    line = entryLine key value ∨ line ∈ body := by
  by_cases set : ∃ l ∈ body, keyName? l = some key
  · obtain ⟨before, old, after, rfl, others, sets⟩ := exists_first set
    rw [setInBody_of_set others sets] at member
    simp only [List.mem_append, List.mem_cons] at member ⊢
    tauto
  · rw [setInBody_of_unset (by simpa using set), List.mem_append, List.mem_cons] at member
    rw [← upToText_append_blankEnd body, List.mem_append]
    tauto

/-- One of them is the line that is written. -/
theorem entryLine_mem_setInBody (key value : Text) (body : List Text) :
    entryLine key value ∈ setInBody key value body := by
  rw [setInBody_eq]
  exact List.mem_append_right _ List.mem_cons_self

/-! ## The block behind a header -/

/-- The lines behind a header are those of its section and those from the next header on. -/
theorem exists_block (rest : List Text) : ∃ body tail, rest = body ++ tail ∧
    (∀ l ∈ body, isHeader l = false) ∧ ∀ l, tail.head? = some l → isHeader l = true := by
  obtain ⟨body, tail, -, whole, inside, ends⟩ := exists_span (!isHeader ·) rest
  exact ⟨body, tail, whole, by simpa using inside, by simpa using ends⟩

section Block

variable (inside : ∀ l ∈ body, isHeader l = false)
  (ends : ∀ l, rest.head? = some l → isHeader l = true)

include inside ends in
/-- Those of the section are the lines before the first one that is a header. -/
theorem takeWhile_block : (body ++ rest).takeWhile (!isHeader ·) = body ∧
    (body ++ rest).dropWhile (!isHeader ·) = rest := by
  have all : ∀ l ∈ body, (!isHeader l) = true := by simpa using inside
  rw [List.takeWhile_append_of_pos all, List.dropWhile_append_of_pos all]
  cases rest with
  | nil => simp
  | cons head rest => simp [ends head rfl]

include inside ends in
/-- An edit changes nothing from the next header on. -/
theorem setInBlock_append (key value : Text) :
    setInBlock key value (body ++ rest) = setInBody key value body ++ rest := by
  obtain ⟨taken, dropped⟩ := takeWhile_block inside ends
  rw [setInBlock, taken, dropped]

variable (first : ∀ l ∈ front, headerName? l ≠ some name) (heads : headerName? head = some name)

include first heads inside ends in
/-- The first block of a section stands behind its first header. -/
theorem firstBlock_of_headed : firstBlock name (front ++ head :: (body ++ rest)) = body := by
  rw [firstBlock_append first heads, (takeWhile_block inside ends).1]

end Block

/-- A section that no line heads has no first block. -/
theorem firstBlock_of_absent (absent : ∀ l ∈ ls, headerName? l ≠ some name) :
    firstBlock name ls = [] := by
  induction ls with
  | nil => rfl
  | cons line ls ih =>
    rw [List.forall_mem_cons] at absent
    rw [firstBlock, if_neg absent.1]
    exact ih absent.2

/-- The line that an edit replaces: the first one of the first block that sets the key. -/
def replacedLine? (name key : Text) (ls : List Text) : Option Text :=
  (firstBlock name ls).find? (keyName? · = some key)

/-- When a line of the first block sets the key, an edit replaces the first one that does. -/
theorem setInLines_of_set (set : ∃ l ∈ firstBlock name ls, keyName? l = some key) :
    ∃ before old after, ls = before ++ old :: after ∧ replacedLine? name key ls = some old ∧
      ∀ value, setInLines name key value ls = before ++ entryLine key value :: after := by
  have headed : ∃ l ∈ ls, headerName? l = some name := by
    by_contra absent
    rw [firstBlock_of_absent (by simpa using absent)] at set
    simp at set
  obtain ⟨front, head, rest, rfl, first, heads⟩ := exists_first headed
  obtain ⟨body, tail, rfl, inside, ends⟩ := exists_block rest
  have block := firstBlock_of_headed inside ends first heads
  rw [block] at set
  rw [replacedLine?, block]
  obtain ⟨before, old, after, rfl, others, sets⟩ := exists_first set
  refine ⟨front ++ head :: before, old, after ++ tail, by simp, ?_, fun value => ?_⟩
  · exact List.find?_eq_some_iff_append.2
      ⟨by simpa using sets, before, after, rfl, by simpa using others⟩
  · rw [setInLines_of_headed first heads, setInBlock_append inside ends,
      setInBody_of_set others sets]
    simp

/-- A header and what follows it stay behind an edited block. -/
theorem setInBlock_append_header (heads : isHeader head = true) (key value : Text)
    (before after : List Text) :
    setInBlock key value (before ++ head :: after) =
      setInBlock key value before ++ head :: after := by
  obtain ⟨body, tail, rfl, inside, ends⟩ := exists_block before
  have endsMore : ∀ l, (tail ++ head :: after).head? = some l → isHeader l = true := by
    intro l found
    cases tail with
    | nil =>
      obtain rfl : head = l := by simpa using found
      exact heads
    | cons next tail => exact ends l (by simpa using found)
  rw [List.append_assoc, setInBlock_append inside endsMore, setInBlock_append inside ends,
    List.append_assoc]

/-- Blank lines stay behind an edited block. -/
theorem setInBlock_append_blank (blank : ∀ l ∈ gap, Text.isBlank l = true) (key value : Text)
    (rest : List Text) : setInBlock key value (rest ++ gap) = setInBlock key value rest ++ gap := by
  obtain ⟨body, tail, rfl, inside, ends⟩ := exists_block rest
  have insideGap : ∀ l ∈ gap, isHeader l = false := by
    intro l member
    by_contra heads
    have seen := isBlank_of_isHeader (by simpa using heads : isHeader l = true)
    exact Bool.false_ne_true (seen.symm.trans (blank l member))
  rw [setInBlock_append inside ends]
  cases tail with
  | nil =>
    have insideBoth : ∀ l ∈ body ++ gap, isHeader l = false := fun l member =>
      (List.mem_append.1 member).elim (inside l) (insideGap l)
    have nothing : ∀ l, ([] : List Text).head? = some l → isHeader l = true := by simp
    have whole := setInBlock_append insideBoth nothing key value
    rw [List.append_nil, List.append_nil] at whole
    rw [List.append_nil, List.append_nil, whole, setInBody_append_blank blank]
  | cons next tail =>
    have endsMore : ∀ l, (next :: tail ++ gap).head? = some l → isHeader l = true := by
      simpa using ends
    rw [List.append_assoc, setInBlock_append inside endsMore, List.append_assoc]

/-- An edited block has no header of a section that had none there. -/
theorem headerName?_ne_setInBlock (entry : EntryKey key) (value : Text)
    (absent : ∀ l ∈ rest, headerName? l ≠ some name) :
    ∀ l ∈ setInBlock key value rest, headerName? l ≠ some name := by
  intro l member
  rcases List.mem_append.1 member with inBody | behind
  · rcases mem_setInBody inBody with rfl | old
    · exact entry.headerName?_entryLine value name
    · exact absent l (List.takeWhile_subset _ old)
  · exact absent l (List.dropWhile_subset _ behind)

/-! ## What separates a new section -/

/-- What separates a new section depends on the last line. -/
theorem separator_congr {ls' : List Text} (same : ls.getLast? = ls'.getLast?) :
    separator ls = separator ls' := by
  rw [separator, separator, same]

/-- An empty line separates a new section from a line that is not blank. -/
theorem separator_of_visible (visible : Text.isBlank line = false)
    (last : ls.getLast? = some line) : separator ls = [[]] := by
  simp [separator, last, visible]

/-- An edit of the last block does not change what separates a new section. -/
theorem separator_setInBody (entry : EntryKey key) (heads : isHeader head = true) (value : Text)
    (front body : List Text) :
    separator (front ++ head :: setInBody key value body) = separator (front ++ head :: body) := by
  have written := isBlank_of_sets (entry.keyName?_entryLine value)
  by_cases set : ∃ l ∈ body, keyName? l = some key
  · -- The line that is replaced is not blank, and neither is the new one.
    obtain ⟨before, old, after, rfl, others, sets⟩ := exists_first set
    rw [setInBody_of_set others sets]
    cases after with
    | nil =>
      rw [separator_of_visible written (by simp [List.getLast?_cons]),
        separator_of_visible (isBlank_of_sets sets) (by simp [List.getLast?_cons])]
    | cons next after => exact separator_congr (by simp [List.getLast?_cons])
  · have whole := upToText_append_blankEnd body
    rw [setInBody_of_unset (by simpa using set)]
    cases gap : blankEnd body with
    | nil =>
      rw [gap, List.append_nil] at whole
      obtain ⟨last, found, seen⟩ : ∃ last, (front ++ head :: body).getLast? = some last ∧
          Text.isBlank last = false := by
        cases shape : body.getLast? with
        | none => exact ⟨head, by simp [List.getLast?_cons, shape], isBlank_of_isHeader heads⟩
        | some last =>
          have end_ : (upToText body).getLast? = some last := by rw [whole, shape]
          exact ⟨last, by simp [List.getLast?_cons, shape], isBlank_getLast?_upToText end_⟩
      rw [separator_of_visible written (by simp [List.getLast?_cons]),
        separator_of_visible seen found]
    | cons next gap' =>
      rw [gap] at whole
      refine separator_congr ?_
      rw [← whole]
      simp [List.getLast?_cons]

/-- An edit in a section does not change what separates a new section. -/
theorem separator_setInBlock (entry : EntryKey key) (heads : isHeader head = true) (value : Text)
    (front rest : List Text) :
    separator (front ++ head :: setInBlock key value rest) = separator (front ++ head :: rest) := by
  obtain ⟨body, tail, rfl, inside, ends⟩ := exists_block rest
  rw [setInBlock_append inside ends]
  cases last : tail.getLast? with
  | none =>
    obtain rfl := List.getLast?_eq_none_iff.1 last
    rw [List.append_nil, List.append_nil]
    exact separator_setInBody entry heads value front body
  | some l => exact separator_congr (by simp [List.getLast?_cons, last])

end ProfilePicker.Ini
