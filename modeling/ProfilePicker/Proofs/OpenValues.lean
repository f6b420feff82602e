import ProfilePicker.Proofs.Keeping

/-!
# Values that leave their line open

A backslash that no other one protects takes the line feed after it out of a text, so a value
that ends with one runs on into the next line. Whatever that line said before is lost: a header
is no header any more. A comment can be lost without harm.
-/
namespace ProfilePicker

namespace Ini

open Text (OneLine shortEnding longEnding placedAfter)

section Open

variable {written next : Text} (oneLine : OneLine written) (opened : leavesOpen written = true)
  (nextLine : OneLine next) (nextClosed : leavesOpen next = false)

include oneLine opened nextLine nextClosed in
/-- A value that leaves its line open takes the next line in. -/
theorem atStart_value_open (key : Text) (line column : Nat) (s : Text) :
    ∃ q, AtStart s q ∧
      value key (placedAfter line column
        (written ++ shortEnding ++ (next ++ shortEnding ++ s))) =
      ⟨some (.entry key (Text.trim (written.dropLast ++ next))), [], q⟩ := by
  obtain ⟨start, dropped⟩ := dropBlanks_placedAfter oneLine (show isLineEnd '\n' = true from rfl)
    line column (next ++ shortEnding ++ s)
  have opens := leavesOpen_dropWhile written
  have parts : written.takeWhile isBlank ++ written.dropWhile isBlank = written :=
    List.takeWhile_append_dropWhile
  have blank : Text.isBlank (written.takeWhile isBlank) = true :=
    Text.isBlank_iff.2 fun c member => List.mem_takeWhile_imp member
  have bodyLine : OneLine (written.dropWhile isBlank) := by
    rw [← parts] at oneLine
    exact (Text.oneLine_append.1 oneLine).2
  rw [opened] at opens
  have nonempty : written.dropWhile isBlank ≠ [] := fun nothing => by
    rw [nothing] at opens
    cases opens
  have trimmed : Text.trim ((written.dropWhile isBlank).dropLast ++ next) =
      Text.trim (written.dropLast ++ next) := by
    conv => rhs; rw [← parts, List.dropLast_append_of_ne_nil nonempty, List.append_assoc]
    exact (Text.trim_append_of_isBlank_left blank _).symm
  generalize written.dropWhile isBlank = body at *
  obtain ⟨slash, protects, after, taken⟩ := takeUntil_open bodyLine opens line start
    ('\n' :: (next ++ shortEnding ++ s))
  have feed : placedAfter line after ('\n' :: (next ++ shortEnding ++ s)) =
      ⟨'\n', line + 1, 0⟩ :: placedAfter (line + 1) 0 (next ++ shortEnding ++ s) := rfl
  have stops := takeUntil_placedAfter_end isLineEnd (show isLineEnd '\n' = true from rfl)
    (line + 1) (0 + next.length) s
  have nextTaken := takeUntil_closed nextLine nextClosed (line + 1) 0 ('\n' :: s)
  have whole : next ++ shortEnding ++ s = next ++ '\n' :: s := by simp [shortEnding]
  rw [stops, List.append_nil, ← whole] at nextTaken
  rw [feed, takeUntil_joined (by decide) protects rfl] at taken
  have chars : written ++ shortEnding ++ (next ++ shortEnding ++ s) =
      written ++ '\n' :: (next ++ shortEnding ++ s) := by simp [shortEnding]
  refine ⟨_, atStart_skipGap_feed (line + 1) (0 + next.length) s, ?_⟩
  simp only [value, chars, dropped, taken, nextTaken, trimmed]

variable {key : Text} (plainKey : PlainKey key)

include plainKey oneLine opened nextLine nextClosed in
/-- Nothing is left of the line behind a value that leaves its line open but the end of the
value. -/
theorem comes_openLine {s : Text} {q : List Placed}
    (start : AtStart (entryLine key written ++ shortEnding ++ (next ++ shortEnding ++ s)) q) :
    ∃ q', AtStart s q' ∧
      Comes [] q [.entry key (Text.trim (written.dropLast ++ next))] [] q' := by
  have chars : entryLine key written ++ shortEnding ++ (next ++ shortEnding ++ s) =
      key ++ [' '] ++ '=' :: (' ' :: written ++ shortEnding ++ (next ++ shortEnding ++ s)) := by
    simp [entryLine]
  rw [chars] at start
  obtain ⟨c, rest, shape, visible, -⟩ := plainKey.exists_cons
  obtain ⟨n, rfl⟩ : ∃ n, q = placedAfter n 0
      (key ++ [' '] ++ '=' :: (' ' :: written ++ shortEnding ++ (next ++ shortEnding ++ s))) := by
    rw [shape] at start ⊢
    exact start.exists_here visible
  have pads : ∀ c ∈ [' '], isIndent c = true := by decide
  have nonempty : written ≠ [] := by
    rintro rfl
    cases opened
  have padded : OneLine (' ' :: written) := by
    intro c member
    rcases List.mem_cons.1 member with rfl | member
    · decide
    · exact oneLine c member
  have stillOpen : leavesOpen (' ' :: written) = true :=
    (leavesOpen_append (by decide : '\\' ∉ [' ']) nonempty).trans opened
  have trimmed : Text.trim ((' ' :: written).dropLast ++ next) =
      Text.trim (written.dropLast ++ next) := by
    rw [List.dropLast_cons_of_ne_nil nonempty]
    exact Text.trim_append_of_isBlank_left (by decide : Text.isBlank [' '] = true) _
  obtain ⟨q', finish, read⟩ := atStart_value_open padded stillOpen nextLine nextClosed key n
    (0 + (key ++ [' ']).length + 1) s
  refine ⟨q', finish, (comes_key plainKey pads rfl n 0 _).trans ?_⟩
  rw [(placedAfter_delimiter rfl).2, skipGap_visible (show isBlank '=' = false by decide)]
  refine .of_item fun last => ?_
  rw [turn_value rfl plainKey.nonempty, read, trimmed]

end Open

/-! ## Parts of a text, one after the other -/

/-- A part of a text, from the start of a line to the start of another one, yields the given items
in whatever way the text goes on. -/
def Passes (front : Text) (found : List Item) : Prop :=
  ∀ s q, AtStart (front ++ s) q → ∃ q', AtStart s q' ∧ Comes [] q found [] q'

/-- Parts that stand one after the other yield their items one after the other. -/
theorem Passes.append {front back : Text} {found more : List Item} (first : Passes front found)
    (second : Passes back more) : Passes (front ++ back) (found ++ more) := by
  intro s q start
  rw [List.append_assoc] at start
  obtain ⟨middle, next, begun⟩ := first _ q start
  obtain ⟨q', finish, rest⟩ := second s middle next
  exact ⟨q', finish, begun.trans rest⟩

/-- A part that is the whole text says what the text says. -/
theorem Passes.items_eq {s : Text} {found : List Item} (passes : Passes s found) :
    items s = .ok found := by
  have start : AtStart (s ++ []) s.placed := by
    rw [List.append_nil]
    exact .here 0
  obtain ⟨q', finish, read⟩ := passes [] _ start
  have nothing : q' = [] := by cases finish <;> rfl
  rw [items, read, nothing, itemsFrom_nil]
  simp [Except.map]

/-- Closed lines are such a part. -/
theorem passes_closedLines {ls : List Text}
    (closed : ∀ line ∈ ls, ClosedLine shortEnding line) :
    Passes (Text.joinLines shortEnding ls) (itemsOf ls) :=
  fun _ _ start => comes_closedLines (.inl rfl) closed start

section Values

variable {key written : Text} (plainKey : PlainKey key) (oneLine : OneLine written)

include plainKey oneLine in
/-- So is a value that leaves its line open, together with the line that it takes in. -/
theorem passes_openLine (opened : leavesOpen written = true) {next : Text}
    (nextLine : OneLine next) (nextClosed : leavesOpen next = false) :
    Passes (Text.joinLines shortEnding [entryLine key written, next])
      [.entry key (Text.trim (written.dropLast ++ next))] := by
  intro s q start
  have chars : Text.joinLines shortEnding [entryLine key written, next] ++ s =
      entryLine key written ++ shortEnding ++ (next ++ shortEnding ++ s) := by simp
  rw [chars] at start
  exact comes_openLine oneLine opened nextLine nextClosed plainKey start

/-- A comment without any text. -/
def bareComment : Text := ['#']

include plainKey oneLine in
/-- In front of a comment it does not matter whether a value leaves its line open. -/
theorem passes_beforeComment :
    ∃ value, Passes (Text.joinLines shortEnding [entryLine key written, bareComment])
      [.entry key value] := by
  cases opened : leavesOpen written with
  | true =>
    exact ⟨_, passes_openLine plainKey oneLine opened (by decide) (by decide)⟩
  | false =>
    have closed : ∀ line ∈ [entryLine key written, bareComment],
        ClosedLine shortEnding line := by
      simp only [List.forall_mem_cons, List.not_mem_nil, false_implies, implies_true, and_true]
      exact ⟨closedLine_entryLine plainKey oneLine fun _ => opened, .comment rfl (by decide)⟩
    have said : itemsOf [entryLine key written, bareComment] = [.entry key written.trim] := by
      rw [itemsOf_cons, itemOf?_entryLine plainKey]
      rfl
    exact ⟨written.trim, said ▸ passes_closedLines closed⟩

end Values

/-! ## Edits next to a comment -/

section Edits

variable {name key head old : Text} (heads : headerName? head = some name)
  (inside : isHeader old = false)

include heads inside in
/-- The setting behind a header is replaced, whatever stands behind it. -/
theorem setInLines_first (sets : keyName? old = some key) (value : Text) (more : List Text) :
    setInLines name key value (head :: old :: more) = head :: entryLine key value :: more := by
  have first : (head :: old :: more).span (headerName? · ≠ some name) =
      ([], head :: old :: more) := by simp [List.span_eq_takeWhile_dropWhile, heads]
  have body : (old :: more).span (!isHeader ·) =
      (old :: more.takeWhile (!isHeader ·), more.dropWhile (!isHeader ·)) := by
    simp [List.span_eq_takeWhile_dropWhile, inside]
  have here : (old :: more.takeWhile (!isHeader ·)).span (keyName? · ≠ some key) =
      ([], old :: more.takeWhile (!isHeader ·)) := by
    simp [List.span_eq_takeWhile_dropWhile, sets]
  rw [setInLines, first]
  simp only [body, setInBody, here, List.nil_append, List.cons_append,
    List.takeWhile_append_dropWhile]

include heads inside in
/-- A new setting comes behind the comment at the end of a block. -/
theorem setInLines_comment (others : keyName? old ≠ some key) {next : Text}
    (ends : isHeader next = true) (value : Text) (more : List Text) :
    setInLines name key value (head :: old :: bareComment :: next :: more) =
      head :: old :: bareComment :: entryLine key value :: next :: more := by
  have comment : isHeader bareComment = false ∧ keyName? bareComment = none ∧
      bareComment.isBlank = false := by decide
  obtain ⟨noHeader, noKey, visible⟩ := comment
  have first : (head :: old :: bareComment :: next :: more).span
      (headerName? · ≠ some name) = ([], head :: old :: bareComment :: next :: more) := by
    simp [List.span_eq_takeWhile_dropWhile, heads]
  have body : (old :: bareComment :: next :: more).span (!isHeader ·) =
      ([old, bareComment], next :: more) := by
    simp [List.span_eq_takeWhile_dropWhile, inside, noHeader, ends]
  have absent : [old, bareComment].span (keyName? · ≠ some key) =
      ([old, bareComment], []) := by
    simp [List.span_eq_takeWhile_dropWhile, others, noKey]
  have added : insertAfterText (entryLine key value) [old, bareComment] =
      [old, bareComment, entryLine key value] := by
    simp [insertAfterText, visible]
  rw [setInLines, first]
  simp only [body, setInBody, absent, added, List.nil_append, List.cons_append]

end Edits

end Ini

open Ini (PlainName Passes headerLine entryLine leavesOpen)
open Text (OneLine shortEnding)

/-- The sections of a file whose whole text yields the given items. -/
theorem Store.sections_of_passes (store : Store) {disk : Disk} {t : Text}
    {found : List Ini.Item} (holds : disk.Holds store.path (some t)) (passes : Passes t found) :
    (store.contents disk).sections = distinct (Ini.headersIn found) := by
  rw [contents_eq store holds (Ini.Document.parse_of_items passes.items_eq)]
  exact Ini.names_ofItems found

end ProfilePicker
