import Mathlib.Data.List.Forall2
import ProfilePicker.Proofs.Keeping
import ProfilePicker.Proofs.Standing

/-!
# Sections that are added

A section that no line heads is added at the end of a text, with its name in a header as it is.
What the editor and the reader make of this header depends on the name: a bracket closes it early
for the editor, and for the reader unless a backslash protects the bracket; a backslash at the end
protects the bracket that should close it. A second setting for the section shows the difference,
since the editor has to find the header again and the reader has to agree with it.
-/
namespace ProfilePicker.Ini

open Text (OneLine Trimmed IsEnding shortEnding)

variable {ending name k k' v v' : Text} (known : IsEnding ending) (trimmed : Trimmed name)
  (nameLine : OneLine name) (plainKey : PlainKey k) (plainKey' : PlainKey k')
  (plainValue : PlainValue v) (plainValue' : PlainValue v')

/-! ## The lines of two settings -/

include plainKey in
/-- The line of a setting is not blank. -/
theorem isBlank_entryLine (v : Text) : Text.isBlank (entryLine k v) = false := by
  obtain ⟨c, rest, rfl, visible, -⟩ := plainKey.exists_cons
  simp [entryLine, Text.isBlank, visible]

include plainKey in
/-- The line of a setting sets its key. -/
theorem keyName?_entryLine (v : Text) : keyName? (entryLine k v) = some k := by
  rw [entryLine_eq]
  exact keyName?_settingLine plainKey (by decide) _

include plainKey in
/-- A setting for another key comes after the one that is there. -/
theorem setInBody_entryLine (differ : k ≠ k') (v v' : Text) :
    setInBody k' v' [entryLine k v] = [entryLine k v, entryLine k' v'] := by
  have other : keyName? (entryLine k v) ≠ some k' := by
    rw [keyName?_entryLine plainKey]
    simpa using differ
  have split : List.span (keyName? · ≠ some k') [entryLine k v] = ([entryLine k v], []) := by
    simp [List.span, List.span.loop, other]
  have stays : upToText [entryLine k v] = [entryLine k v] := by
    simp [upToText, isBlank_entryLine plainKey]
  have noGap : blankEnd [entryLine k v] = [] := by
    simp [blankEnd, isBlank_entryLine plainKey]
  rw [setInBody, split]
  dsimp only
  rw [insertAfterText_eq, stays, noGap]
  rfl

include plainKey in
/-- An empty line comes between a setting and the header of a section that is added. -/
theorem separator_entryLine (ls : List Text) (v : Text) :
    separator (ls ++ [entryLine k v]) = [[]] := by
  simp [separator, isBlank_entryLine plainKey]

section Twice

variable {s : Text} (lines : ∀ line ∈ s.lines, OneLine line)
  (absent : ∀ line ∈ s.lines, headerName? line ≠ some name)

include lines absent nameLine plainKey plainValue in
/-- Two settings for a section that is added: the second one is an edit of the lines that the first
one leaves. -/
theorem setLine_setLine : setLine (setLine s name k v) name k' v' =
    Text.joinLines s.lineEnding (setInLines name k' v'
      (s.lines ++ separator s.lines ++ [headerLine name, entryLine k v])) := by
  rw [setLine.eq_1 s, setInLines_of_absent absent]
  refine setLine_joinLines (Text.isEnding_lineEnding s) (fun line member => OneLine.isLine ?_ _)
    (by simp) name k' v'
  rcases List.mem_append.1 member with before | added
  · rcases mem_append_separator before with old | rfl
    · exact lines line old
    · exact fun _ member => absurd member List.not_mem_nil
  · rcases List.mem_pair.1 added with rfl | rfl
    · exact oneLine_headerLine nameLine
    · exact oneLine_entryLine plainKey plainValue.oneLine

include lines absent trimmed nameLine plainKey plainValue in
/-- A name without brackets is found again. -/
theorem setLine_setLine_of_noBracket (noBracket : ']' ∉ name) (differ : k ≠ k') :
    setLine (setLine s name k v) name k' v' = Text.joinLines s.lineEnding
      (s.lines ++ separator s.lines ++ [headerLine name, entryLine k v, entryLine k' v']) := by
  rw [setLine_setLine nameLine plainKey plainValue lines absent, setInLines_of_last
    (headerName?_ne_append_separator absent) ((headerName?_headerLine_iff trimmed).2 noBracket) (by
      simpa using isHeader_entryLine plainKey v),
    setInBody_entryLine plainKey differ]

include lines absent trimmed nameLine plainKey plainValue in
/-- A name with a bracket is not found again, and its section is added a second time. -/
theorem setLine_setLine_of_bracket (bracket : ']' ∈ name) :
    setLine (setLine s name k v) name k' v' = Text.joinLines s.lineEnding
      (s.lines ++ separator s.lines ++ [headerLine name, entryLine k v] ++ [[]] ++
        [headerLine name, entryLine k' v']) := by
  have others : ∀ line ∈ s.lines ++ separator s.lines ++ [headerLine name, entryLine k v],
      headerName? line ≠ some name := by
    intro line member
    rcases List.mem_append.1 member with before | added
    · exact headerName?_ne_append_separator absent line before
    · rcases List.mem_pair.1 added with rfl | rfl
      · exact fun heads => (headerName?_headerLine_iff trimmed).1 heads bracket
      · simp [headerName?_entryLine plainKey]
  have gap :
      separator (s.lines ++ separator s.lines ++ [headerLine name, entryLine k v]) = [[]] := by
    have := separator_entryLine plainKey (s.lines ++ separator s.lines ++ [headerLine name]) v
    simpa using this
  rw [setLine_setLine nameLine plainKey plainValue lines absent, setInLines_of_absent others, gap]

end Twice

/-! ## What the reader makes of it -/

/-- A header that nothing closes makes a text unreadable. -/
theorem items_of_openHeader {s : Text} (unclosed : endsWithin (· = ']') s = false) :
    ∃ problem, items ('[' :: s) = .error problem := by
  have chars : Text.placed ('[' :: s) = ⟨'[', 0, 1⟩ :: Text.placedAfter 0 1 s := rfl
  have takes : (takeUntil (· = ']') (Text.placedAfter 0 1 s)).2 = [] := by
    rw [takeUntil_eq_nil_iff, Text.map_char_placedAfter]
    exact unclosed
  obtain ⟨piece, taken⟩ : ∃ piece, takeUntil (· = ']') (Text.placedAfter 0 1 s) = (piece, []) :=
    ⟨_, Prod.ext rfl takes⟩
  refine ⟨.at (Text.placed ('[' :: s)).getLast? .openHeader, ?_⟩
  rw [items, chars]
  apply itemsFrom_of_problem
  rw [turn_header rfl, header, taken]

/-- From the start of a line the reader finds some items and comes to the start of the next line,
whatever that is. -/
def Yields (ending line : Text) (found : List Item) : Prop :=
  ∀ (s : Text) (q : List Placed), AtStart (line ++ ending ++ s) q →
    ∃ q', AtStart s q' ∧ Comes [] q found [] q'

/-- Lines that are taken one by one say what each of them says. -/
theorem items_of_yields {ls : List Text} {found : List (List Item)}
    (yields : List.Forall₂ (Yields ending) ls found) :
    items (Text.joinLines ending ls) = .ok found.flatten := by
  have reads : ∀ {ls : List Text} {found : List (List Item)},
      List.Forall₂ (Yields ending) ls found →
      ∀ q, AtStart (Text.joinLines ending ls) q → Reads [] q found.flatten := by
    intro ls found yields
    induction yields with
    | nil =>
      intro q start last
      have nothing : q = [] := by cases start <;> rfl
      rw [nothing, itemsFrom_nil]
      rfl
    | cons first _ ih =>
      intro q start
      obtain ⟨q', next, comes⟩ := first _ q (by rwa [← Text.joinLines_cons])
      exact comes.reads (ih q' next)
  exact reads_iff_items.1 (reads yields _ (.here 0))

section Reading

include plainKey plainValue in
/-- The line of a setting says that its key has its value. -/
theorem itemOf?_entryLine_plain : itemOf? (entryLine k v) = some (.entry k v) := by
  have same : v.trim = v := plainValue.trimmed
  rw [itemOf?_entryLine plainKey, same]

include known in
/-- A closed line yields its item. -/
theorem ClosedLine.yields {line : Text} (closed : ClosedLine ending line) :
    Yields ending line (itemOf? line).toList :=
  fun _ _ start => closed.comes known start

include known plainKey plainValue in
/-- The line of a setting yields its entry. -/
theorem yields_entryLine : Yields ending (entryLine k v) [.entry k v] := by
  have yields := (closedLine_entryLine plainKey plainValue.oneLine
    fun _ => leavesOpen_eq_false plainValue.noBackslash).yields known
  rw [itemOf?_entryLine_plain plainKey plainValue] at yields
  exact yields

variable (closed : leavesOpen name = false)

include known trimmed nameLine closed in
/-- The reader takes a header line on its own when nothing closes it early or protects its end. -/
theorem yields_headerLine (within : endsWithin (· = ']') name = false) :
    Yields ending (headerLine name) [.header name] :=
  fun _ _ start => comes_headerLine known trimmed nameLine within closed start

include trimmed nameLine closed plainKey plainKey' plainValue plainValue' in
/-- A name that is found again is read as it is: both settings stand in its section, at the end. -/
theorem items_of_noBracket {s : Text} (plain : PlainText s)
    (absent : ∀ line ∈ s.lines, headerName? line ≠ some name) (noBracket : ']' ∉ name)
    (differ : k ≠ k') : items (setLine (setLine s name k v) name k' v') =
      .ok (itemsOf s.lines ++ [.header name, .entry k v, .entry k' v']) := by
  have known := Text.isEnding_lineEnding s
  have lines : ∀ line ∈ s.lines, OneLine line := fun line member =>
    (plain.closed.closed line member).oneLine
  have before : List.Forall₂ (Yields s.lineEnding) (s.lines ++ separator s.lines)
      ((s.lines ++ separator s.lines).map fun line => (itemOf? line).toList) := by
    refine List.forall₂_map_right_iff.2 (List.forall₂_same.2 fun line member => ?_)
    rcases mem_append_separator member with old | rfl
    · exact (plain.closed.closed line old).yields known
    · exact ClosedLine.yields known (.blank (by simp))
  have added : List.Forall₂ (Yields s.lineEnding)
      [headerLine name, entryLine k v, entryLine k' v']
      [[.header name], [.entry k v], [.entry k' v']] :=
    .cons (yields_headerLine known trimmed nameLine closed (endsWithin_of_noBracket noBracket))
      (.cons (yields_entryLine known plainKey plainValue)
        (.cons (yields_entryLine known plainKey' plainValue') .nil))
  have found : ((s.lines ++ separator s.lines).map fun line => (itemOf? line).toList).flatten =
      itemsOf s.lines := by
    rw [← List.flatMap_def, ← List.filterMap_eq_flatMap_toList]
    exact (itemsOf_append _ _).trans (by rw [itemsOf_separator, List.append_nil])
  rw [setLine_setLine_of_noBracket trimmed nameLine plainKey plainValue lines absent noBracket
    differ, items_of_yields (List.rel_append before added), List.flatten_append, found]
  rfl

include trimmed nameLine closed plainKey plainKey' plainValue plainValue' in
/-- A name with protected brackets is read as it is, and each of its two sections has one
setting. -/
theorem items_of_bracket (bracket : ']' ∈ name) (within : endsWithin (· = ']') name = false) :
    items (setLine (setLine [] name k v) name k' v') =
      .ok [.header name, .entry k v, .header name, .entry k' v'] := by
  have known : IsEnding shortEnding := .inl rfl
  have heads := yields_headerLine known trimmed nameLine closed within
  rw [setLine_setLine_of_bracket trimmed nameLine plainKey plainValue (by simp [Text.lines])
    (by simp [Text.lines]) bracket]
  exact items_of_yields (.cons heads (.cons (yields_entryLine known plainKey plainValue)
    (.cons (ClosedLine.yields known (.blank (by simp))) (.cons heads
      (.cons (yields_entryLine known plainKey' plainValue') .nil)))))

end Reading

include trimmed nameLine plainKey plainValue in
/-- A name that protects the bracket behind it makes a text without other brackets unreadable. -/
theorem items_of_open (opened : leavesOpen name = true)
    (within : endsWithin (· = ']') name = false) (free : ']' ∉ entryLine k v)
    (free' : ']' ∉ entryLine k' v') (differ : k ≠ k') :
    ∃ problem, items (setLine (setLine [] name k v) name k' v') = .error problem := by
  -- Behind each of its headers, the text goes on without an end of the header.
  have goesOn : ∀ t, endsWithin (· = ']') (name ++ ']' :: t) = endsWithin (· = ']') t := fun t => by
    rw [endsWithin_append_open (by decide) opened, within, Bool.false_or]
  by_cases bracket : ']' ∈ name
  · have front : endsWithin (· = ']') ('\n' :: entryLine k v ++ ['\n', '\n', '[']) = false :=
      endsWithin_of_noBracket (by simp [free])
    have closed : leavesOpen ('\n' :: entryLine k v ++ ['\n', '\n', '[']) = false :=
      leavesOpen_eq_false (by
        rw [List.getLast?_append]
        simp)
    have back : endsWithin (· = ']') ('\n' :: entryLine k' v' ++ ['\n']) = false :=
      endsWithin_of_noBracket (by simp [free'])
    have chars : setLine (setLine [] name k v) name k' v' =
        '[' :: (name ++ ']' :: (('\n' :: entryLine k v ++ ['\n', '\n', '[']) ++
          (name ++ ']' :: ('\n' :: entryLine k' v' ++ ['\n'])))) := by
      rw [setLine_setLine_of_bracket trimmed nameLine plainKey plainValue (by simp [Text.lines])
        (by simp [Text.lines]) bracket]
      simp [Text.lines, separator, headerLine_eq, Text.lineEnding_eq, Text.hasCarriageReturns,
        Text.shortEnding]
    rw [chars]
    apply items_of_openHeader
    rw [goesOn, endsWithin_append_closed closed, front, goesOn, back]
    rfl
  · have back : endsWithin (· = ']')
        ('\n' :: entryLine k v ++ '\n' :: entryLine k' v' ++ ['\n']) = false :=
      endsWithin_of_noBracket (by simp [free, free'])
    have chars : setLine (setLine [] name k v) name k' v' = '[' :: (name ++ ']' ::
        ('\n' :: entryLine k v ++ '\n' :: entryLine k' v' ++ ['\n'])) := by
      rw [setLine_setLine_of_noBracket trimmed nameLine plainKey plainValue
        (by simp [Text.lines]) (by simp [Text.lines]) bracket differ]
      simp [Text.lines, separator, headerLine_eq, Text.lineEnding_eq, Text.hasCarriageReturns,
        Text.shortEnding]
    rw [chars]
    apply items_of_openHeader
    rw [goesOn, back]

end ProfilePicker.Ini
