import ProfilePicker.Proofs.ClosedEdits
import ProfilePicker.Proofs.ClosedReading
import ProfilePicker.Proofs.Standing

/-!
# Reading a written value back

An edit writes its line behind whole lines, and the reader meets it wherever these lines have
left the reader: perhaps inside a key, a header or a value, or behind another line that gives
the key a value in a way the edit does not know. Whether a value comes back does not depend on
the value, so one line that is tried out at the place of the edit decides it for all of them.
-/
namespace ProfilePicker.Ini

open Text (OneLine IsEnding placedAfter)

/-- The text before the line that an edit writes. -/
def textBefore (s name key : Text) : Text :=
  Text.joinLines s.lineEnding (seam name key s.lines).1

/-- The text behind the line that an edit writes. -/
def textBehind (s name key : Text) : Text :=
  Text.joinLines s.lineEnding (seam name key s.lines).2

/-- A line for trying out a place in a text: a key of one letter, without a value. -/
def trial : Text := ['x', '=']

/-- A text into which a value for a key of a section is written where it is read. -/
structure ReadsBack (s name key : Text) : Prop where
  /-- The line comes to stand in the section, which has no value for the key so far. -/
  place : ∃ found, items (textBefore s name key ++ trial) = .ok (found ++ [.entry ['x'] []]) ∧
    endsIn name found = true ∧ valueIn name key found = none
  /-- What follows the line can be read. -/
  behind : ∃ all, items (setLine s name key []) = .ok all

/-- A value that is read from a text after it has been written there. -/
def ReadsAs (s name key value : Text) : Prop :=
  ∃ all, items (setLine s name key value) = .ok all ∧ valueIn name key all = some value

/-! ## What an item in the middle decides -/

/-- Two values for one look-up depend on the entry that stands for them only when the section
goes on there without a value for the key. -/
theorem decides_of_valueIn {name key k x x' v v' : Text} {before after : List Item}
    (differ : v ≠ v') (one : valueIn name key (before ++ .entry k x :: after) = some v)
    (other : valueIn name key (before ++ .entry k x' :: after) = some v') :
    endsIn name before = true ∧ k = key ∧ valueIn name key before = none ∧ x = v := by
  rw [valueIn_insert] at one other
  by_cases here : endsIn name before = true ∧ k = key
  · rw [if_pos here] at one other
    cases found : valueIn name key before with
    | none =>
      rw [found] at one
      exact ⟨here.1, here.2, rfl, Option.some.inj one⟩
    | some old =>
      rw [found] at one other
      cases one
      exact absurd (Option.some.inj other) differ
  · rw [if_neg here] at one other
    rw [one] at other
    exact absurd (Option.some.inj other) differ

/-- Headers of other sections are alike to a look-up. -/
theorem valueIn_otherHeader {name key h h' : Text} {before after : List Item} (differs : h ≠ name)
    (differs' : h' ≠ name) : valueIn name key (before ++ .header h :: after) =
      valueIn name key (before ++ .header h' :: after) := by
  rw [valueIn_append, valueIn_append]
  simp [entryIn, valueIn, differs, differs']

/-! ## A line behind whole lines -/

/-- What goes on with a key. -/
def BeginsKey (w : List Placed) : Prop :=
  ∃ p rest, w = p :: rest ∧ isBlank p.char = false ∧ beginsKey p.char = true

/-- Behind some characters, the reader is inside a key or about to begin one. -/
def InKey (u : List Placed) (found : List Item) (begun : Text) : Prop :=
  ∀ w name q rest, BeginsKey w → takeUntil isDelimiter w = (name, q :: rest) →
    Comes [] (u ++ w) found (Text.trim (begun ++ name)) (q :: rest)

/-- A reader at the start of a line is about to begin a key. -/
theorem inKey_of_atLine {u : List Placed} {found : List Item} {key : Text}
    (comes : ∀ w, Begins w → Comes [] (u ++ w) found key w) : InKey u found [] := by
  rintro w name q rest ⟨p, more, rfl, visible, begins⟩ taken
  have delimits := ends_of_takeUntil taken
  have stops : skipGap (q :: rest) = q :: rest := by
    have known : q.char = '=' ∨ q.char = ':' := by simpa [isDelimiter] using delimits
    refine skipGap_visible ?_ rest
    rcases known with same | same <;> rw [same] <;> decide
  have turned : Comes key (p :: more) [] name.trim (q :: rest) := .of_silent fun last => by
    rw [turn_key begins, taken]
    simp only [stops]
  simpa using (comes _ ⟨p, more, rfl, visible⟩).trans turned

/-- A reader that is inside a key goes on with one. -/
theorem inKey_of_comes {u : List Placed} {found : List Item} {begun : Text}
    (comes : ∀ w name q rest, Begins w → takeUntil isDelimiter w = (name, q :: rest) →
      Comes [] (u ++ w) found (Text.trim (begun ++ name)) (q :: rest)) : InKey u found begun := by
  rintro w name q rest ⟨p, more, same, visible, -⟩
  exact comes w name q rest ⟨p, more, same, visible⟩

section Line

variable {key ending : Text} (plain : PlainKey key) (known : IsEnding ending)

include plain in
/-- The line of an edit begins with a key. -/
theorem beginsKey_entryLine (value : Text) (n : Nat) (s : Text) :
    BeginsKey (placedAfter n 0 (entryLine key value ++ s)) := by
  obtain ⟨c, rest, rfl, visible, begins⟩ := plain.exists_begins
  have feed : c ≠ '\n' := (plain.oneLine c List.mem_cons_self).1
  refine ⟨⟨c, n, 1⟩, placedAfter n 1 (rest ++ " = " ++ value ++ s), ?_, visible, begins⟩
  simp [entryLine, placedAfter, feed]

include plain in
/-- So it begins with a visible character. -/
theorem begins_entryLine (value : Text) (n : Nat) (s : Text) :
    Begins (placedAfter n 0 (entryLine key value ++ s)) := by
  obtain ⟨p, rest, same, visible, -⟩ := beginsKey_entryLine plain value n s
  exact ⟨p, rest, same, visible⟩

include plain in
/-- Its key is taken up to the delimiter. -/
theorem takeUntil_entryLine (value : Text) (n : Nat) (s : Text) :
    takeUntil isDelimiter (placedAfter n 0 (entryLine key value ++ s)) =
      (key ++ [' '], ⟨'=', n, key.length + 2⟩ ::
        placedAfter n (key.length + 2) (' ' :: value ++ s)) := by
  have chars : entryLine key value ++ s = key ++ [' '] ++ '=' :: (' ' :: value ++ s) := by
    simp [entryLine]
  rw [chars, takeUntil_key plain (by decide) rfl, (placedAfter_delimiter rfl).2]
  simp

include plain known in
/-- A reader that is inside a key reads the line of an edit as an entry of what has begun. -/
theorem InKey.comes_entryLine {u : List Placed} {found : List Item} {begun : Text}
    (inKey : InKey u found begun) {value : Text} (fits : PlainValue value) (n : Nat) (s : Text) :
    Comes [] (u ++ placedAfter n 0 (entryLine key value ++ (ending ++ s)))
      (found ++ [.entry (Text.trim (begun ++ key)) value]) []
      (skipGap (placedAfter n 0 ('\n' :: s))) := by
  have trimmed : Text.trim (begun ++ (key ++ [' '])) = Text.trim (begun ++ key) := by
    rw [← List.append_assoc]
    exact Text.trim_append_of_isBlank_right (by decide) _
  have waiting : Text.trim (begun ++ key) ≠ [] := by
    obtain ⟨c, rest, rfl, visible, -⟩ := plain.exists_begins
    exact Text.trim_ne_nil (by simp) visible
  have oneLine : OneLine (' ' :: value) := Text.oneLine_append.2
    ⟨(by decide : OneLine [' ']), fits.oneLine⟩
  have closed : leavesOpen (' ' :: value) = false := by
    refine leavesOpen_eq_false fun last => ?_
    cases value with
    | nil => simp at last
    | cons c value =>
      rw [List.getLast?_cons_cons] at last
      exact fits.noBackslash last
  have padded : Text.trim (' ' :: value) = value :=
    (Text.trim_append_of_isBlank_left (by decide : Text.isBlank [' '] = true) value).trans
      fits.trimmed
  have keyed := inKey _ _ _ _ (beginsKey_entryLine plain value n (ending ++ s))
    (takeUntil_entryLine plain value n (ending ++ s))
  rw [trimmed] at keyed
  refine keyed.trans (.of_item fun last => ?_)
  rw [turn_value rfl waiting, ← List.append_assoc,
    value_placedAfter known oneLine (fun _ => closed), padded]

include plain known in
/-- A value takes the line of an edit as a whole. -/
theorem takeUntil_entryLine_lineEnd {value : Text} (fits : PlainValue value)
    (nonempty : value ≠ []) (n : Nat) (s : Text) :
    ∃ column, takeUntil isLineEnd (placedAfter n 0 (entryLine key value ++ (ending ++ s))) =
      (entryLine key value, placedAfter n column (ending ++ s)) := by
  obtain ⟨e, rest, rfl, closes⟩ := exists_cons_of_isEnding known
  have oneLine : OneLine (entryLine key value) := oneLine_entryLine plain fits.oneLine
  have noBackslash : '\\' ∉ key ++ " = " := by
    simp only [List.mem_append, not_or]
    exact ⟨plain.noBackslash, by decide⟩
  have closed : leavesOpen (entryLine key value) = false :=
    (leavesOpen_append noBackslash nonempty).trans (leavesOpen_eq_false fits.noBackslash)
  refine ⟨0 + (entryLine key value).length, ?_⟩
  rw [takeUntil_closed oneLine closed, List.cons_append, takeUntil_placedAfter_end isLineEnd closes]
  simp

include plain in
/-- A header goes on behind the line of an edit. -/
theorem takeUntil_entryLine_bracket (noBracket : ']' ∉ key) {value : Text}
    (oneLine : OneLine value) (free : ']' ∉ value ∧ '\\' ∉ value) (n : Nat) (s : Text) :
    takeUntil (· = ']') (placedAfter n 0 (entryLine key value ++ s)) =
      (entryLine key value ++
        (takeUntil (· = ']') (placedAfter n (entryLine key value).length s)).1,
        (takeUntil (· = ']') (placedAfter n (entryLine key value).length s)).2) := by
  have noFeed : '\n' ∉ entryLine key value := by
    simp only [entryLine, List.mem_append, not_or]
    exact ⟨⟨fun member => (plain.oneLine _ member).1 rfl, by decide⟩,
      fun member => (oneLine _ member).1 rfl⟩
  have goesOn : ∀ c ∈ entryLine key value, decide (c = ']') = false := by
    intro c member
    simp only [entryLine, List.mem_append] at member
    have differs : c ≠ ']' := by
      rintro rfl
      rcases member with (inKey | between) | inValue
      · exact noBracket inKey
      · exact absurd between (by decide)
      · exact free.1 inValue
    simp [differs]
  have noBackslash : '\\' ∉ entryLine key value := by
    simp only [entryLine, List.mem_append, not_or]
    exact ⟨⟨plain.noBackslash, by decide⟩, free.2⟩
  rw [takeUntil_placedAfter (· = ']') noFeed goesOn noBackslash, Nat.zero_add]

end Line

/-! ## One value for all -/

/-- A text made up of one letter. -/
def letters (n : Nat) (c : Char) : Text := List.replicate (n + 1) c

/-- Letters are as many as they are made. -/
@[simp]
theorem length_letters (n : Nat) (c : Char) : (letters n c).length = n + 1 :=
  List.length_replicate

/-- Letters can be written as a value. -/
theorem plainValue_letters (n : Nat) {c : Char} (visible : isBlank c = false)
    (free : c ≠ '\\') : PlainValue (letters n c) := by
  have inLine : c ≠ '\n' ∧ c ≠ '\r' := by
    constructor <;> (rintro rfl; cases visible)
  have all : ∀ d ∈ letters n c, d = c := fun d member => List.eq_of_mem_replicate member
  refine ⟨Text.trimmed_iff.2 ⟨fun d first => ?_, fun d last => ?_⟩, fun d member => ?_,
    fun last => ?_⟩
  · rw [all d (List.mem_of_mem_head? first)]
    exact visible
  · rw [all d (List.mem_of_getLast? last)]
    exact visible
  · rw [all d member]
    exact inLine
  · exact free (all _ (List.mem_of_getLast? last)).symm

/-- All letters are visible. -/
theorem visible_letters (n : Nat) {c : Char} (visible : isBlank c = false) :
    (letters n c).visible = letters n c := by
  simp [letters, Text.visible, visible]

section Edit

variable {s name key : Text} (plain : PlainKey key) (noBracket : ']' ∉ key)

/-- The text of an edit goes on with its line behind whole lines. -/
theorem exists_cut (s name key : Text) :
    Ended (textBefore s name key).placed ∧ ∃ line,
      (∀ value, Text.placed (setLine s name key value) = (textBefore s name key).placed ++
        placedAfter line 0 (entryLine key value ++ (s.lineEnding ++ textBehind s name key))) ∧
      Text.placed (textBefore s name key ++ trial) =
        (textBefore s name key).placed ++ placedAfter line 0 trial := by
  obtain ⟨ended, line, cut⟩ := placed_append_wholeLines
    (wholeLines_joinLines (Text.isEnding_lineEnding s) (seam name key s.lines).1)
  refine ⟨ended, line, fun value => ?_, cut trial⟩
  rw [setLine_eq, List.append_assoc]
  exact cut _

/-- The line that is tried out goes to the key that has begun before it. -/
theorem InKey.reads_trial {u : List Placed} {found : List Item} {begun : Text}
    (inKey : InKey u found begun) (n : Nat) :
    Reads [] (u ++ placedAfter n 0 trial) (found ++ [.entry (Text.trim (begun ++ ['x'])) []]) := by
  have visible : isBlank 'x' = false := by decide
  have waiting : Text.trim (begun ++ ['x']) ≠ [] := Text.trim_ne_nil (by simp) visible
  have chars : placedAfter n 0 trial = [⟨'x', n, 1⟩, ⟨'=', n, 2⟩] := rfl
  have keyed := inKey [⟨'x', n, 1⟩, ⟨'=', n, 2⟩] ['x'] ⟨'=', n, 2⟩ []
    ⟨_, _, rfl, visible, show beginsKey 'x' = true by decide⟩ rfl
  have valued : Comes (Text.trim (begun ++ ['x'])) [⟨'=', n, 2⟩]
      [.entry (Text.trim (begun ++ ['x'])) []] [] [] :=
    .of_item fun last => turn_value rfl waiting
  have done := (keyed.trans valued).reads fun last => itemsFrom_nil last []
  rw [chars]
  simpa using done

include plain in
/-- Inside a key, the place of an edit is the right one as soon as two values come back. -/
theorem ReadsBack.of_inKey {found : List Item} {begun value value' : Text}
    (inKey : InKey (textBefore s name key).placed found begun) (differ : value ≠ value')
    (fits : PlainValue value) (fits' : PlainValue value') (reads : ReadsAs s name key value)
    (reads' : ReadsAs s name key value') : ReadsBack s name key := by
  obtain ⟨-, n, cut, tried⟩ := exists_cut s name key
  have known := Text.isEnding_lineEnding s
  have comes : ∀ v, PlainValue v → Comes [] (Text.placed (setLine s name key v))
      (found ++ [.entry (Text.trim (begun ++ key)) v]) []
      (skipGap (placedAfter n 0 ('\n' :: textBehind s name key))) := fun v fits => by
    rw [cut]
    exact inKey.comes_entryLine plain known fits n _
  obtain ⟨all, read, valued⟩ := reads
  obtain ⟨all', read', valued'⟩ := reads'
  obtain ⟨more, rest, rfl⟩ := (comes value fits).of_reads (reads_iff_items.2 read)
  obtain ⟨more', rest', rfl⟩ := (comes value' fits').of_reads (reads_iff_items.2 read')
  obtain rfl := rest.unique rest'
  rw [List.append_assoc] at valued valued'
  obtain ⟨ends, same, unset, -⟩ := decides_of_valueIn differ valued valued'
  have blank : begun.isBlank = true := by
    have visible := congrArg Text.visible same
    rw [Text.visible_trim, Text.visible_append] at visible
    exact Text.visible_eq_nil_iff.1 (by simpa using visible)
  have fresh : Text.trim (begun ++ ['x']) = ['x'] :=
    (Text.trim_append_of_isBlank_left blank _).trans (by decide)
  refine ⟨⟨found, ?_, ends, unset⟩, ?_⟩
  · rw [← reads_iff_items, tried, ← fresh]
    exact inKey.reads_trial n
  · exact ⟨_, reads_iff_items.1 ((comes [] ⟨by decide, by decide, by simp⟩).reads rest)⟩

include plain noBracket in
/-- Inside a header, no two values of letters that are longer than the name both come back. -/
theorem not_readsAs_of_inHeader {found : List Item} {key' begun : Text}
    (comes : ∀ w more q rest, Begins w → takeUntil (· = ']') w = (more, q :: rest) →
      Comes [] ((textBefore s name key).placed ++ w)
        (found ++ [.header (Text.trim (begun ++ more))]) key' (skipGap rest))
    (fails : ∀ w more, Begins w → takeUntil (· = ']') w = (more, []) →
      Fails [] ((textBefore s name key).placed ++ w))
    (reads : ReadsAs s name key (letters name.length 'a'))
    (reads' : ReadsAs s name key (letters name.length 'b')) : False := by
  obtain ⟨-, n, cut, -⟩ := exists_cut s name key
  have visibleA : isBlank 'a' = false := by decide
  have visibleB : isBlank 'b' = false := by decide
  obtain ⟨all, read, valued⟩ := reads
  obtain ⟨all', read', valued'⟩ := reads'
  have read := reads_iff_items.2 read
  have read' := reads_iff_items.2 read'
  rw [cut] at read read'
  have begins := fun value => begins_entryLine plain value n (s.lineEnding ++ textBehind s name key)
  have taken : ∀ c, isBlank c = false → c ≠ '\\' → c ≠ ']' → takeUntil (· = ']')
      (placedAfter n 0 (entryLine key (letters name.length c) ++
        (s.lineEnding ++ textBehind s name key))) = _ := fun c visible slash bracket =>
    takeUntil_entryLine_bracket plain noBracket
      (plainValue_letters name.length visible slash).oneLine
      ⟨fun member => bracket (List.eq_of_mem_replicate member).symm,
        fun member => slash (List.eq_of_mem_replicate member).symm⟩ n
      (s.lineEnding ++ textBehind s name key)
  have size : ∀ c, (entryLine key (letters name.length c)).length =
      (entryLine key (letters name.length 'a')).length := fun c => by
    simp [entryLine]
  have other : ∀ c more, isBlank c = false →
      Text.trim (begun ++ (entryLine key (letters name.length c) ++ more)) ≠ name := by
    intro c more visible same
    have longer := congrArg (fun t => (Text.visible t).length) same
    have shorter := Text.visible_length_le name
    simp only [entryLine, Text.visible_trim, Text.visible_append, visible_letters _ visible,
      List.length_append, length_letters] at longer
    omega
  have takenA := taken 'a' visibleA (by decide) (by decide)
  have takenB := taken 'b' visibleB (by decide) (by decide)
  rw [size] at takenB
  rcases rest : takeUntil (· = ']') (placedAfter n (entryLine key (letters name.length 'a')).length
    (s.lineEnding ++ textBehind s name key)) with ⟨more, after⟩
  rw [rest] at takenA takenB
  cases after with
  | nil => exact (fails _ _ (begins _) takenA).not_reads all read
  | cons q after =>
    obtain ⟨items, readMore, rfl⟩ := (comes _ _ q after (begins _) takenA).of_reads read
    obtain ⟨items', readMore', rfl⟩ := (comes _ _ q after (begins _) takenB).of_reads read'
    obtain rfl := readMore.unique readMore'
    rw [List.append_assoc, List.singleton_append] at valued valued'
    rw [valueIn_otherHeader (other 'a' more visibleA) (other 'b' more visibleB), valued'] at valued
    simp [letters, List.replicate_succ] at valued

include plain in
/-- Inside a value, no two different values both come back. -/
theorem not_readsAs_of_inValue {found : List Item} {key' begun value value' : Text}
    (comes : ∀ w, Begins w → Comes [] ((textBefore s name key).placed ++ w)
      (found ++ [.entry key' (Text.trim (begun ++ (takeUntil isLineEnd w).1))]) []
      (skipGap (takeUntil isLineEnd w).2)) (differ : value ≠ value')
    (fits : PlainValue value) (fits' : PlainValue value') (nonempty : value ≠ [])
    (nonempty' : value' ≠ []) (reads : ReadsAs s name key value)
    (reads' : ReadsAs s name key value') : False := by
  obtain ⟨-, n, cut, -⟩ := exists_cut s name key
  have known := Text.isEnding_lineEnding s
  have ended : ∀ v, PlainValue v → v ≠ [] → Comes [] (Text.placed (setLine s name key v))
      (found ++ [.entry key' (Text.trim (begun ++ entryLine key v))]) []
      (skipGap (placedAfter n 0 ('\n' :: textBehind s name key))) := fun v fits nonempty => by
    have taken := comes _ (begins_entryLine plain v n (s.lineEnding ++ textBehind s name key))
    obtain ⟨column, whole⟩ := takeUntil_entryLine_lineEnd plain known fits nonempty n
      (textBehind s name key)
    rw [whole, skipGap_ending known] at taken
    rw [cut]
    exact taken
  obtain ⟨all, read, valued⟩ := reads
  obtain ⟨all', read', valued'⟩ := reads'
  obtain ⟨more, rest, rfl⟩ := (ended value fits nonempty).of_reads (reads_iff_items.2 read)
  obtain ⟨more', rest', rfl⟩ := (ended value' fits' nonempty').of_reads (reads_iff_items.2 read')
  obtain rfl := rest.unique rest'
  rw [List.append_assoc] at valued valued'
  obtain ⟨-, -, -, same⟩ := decides_of_valueIn differ valued valued'
  -- The equals sign of the line is visible, so the value that is read is the longer one.
  have longer := congrArg (fun t => (Text.visible t).length) same
  have sign : Text.visible " = " = ['='] := by decide
  simp only [entryLine, Text.visible_trim, Text.visible_append, sign, List.length_append,
    List.length_singleton] at longer
  omega

include plain noBracket in
/-- A value is written where it is read if every value comes back. -/
theorem readsBack_of_readsAs
    (law : ∀ value, PlainValue value → value ≠ [] → ReadsAs s name key value) :
    ReadsBack s name key := by
  have fits := plainValue_letters name.length (show isBlank 'a' = false by decide) (by decide)
  have fits' := plainValue_letters name.length (show isBlank 'b' = false by decide) (by decide)
  have nonempty : letters name.length 'a' ≠ [] := List.cons_ne_nil _ _
  have nonempty' : letters name.length 'b' ≠ [] := List.cons_ne_nil _ _
  have differ : letters name.length 'a' ≠ letters name.length 'b' := by
    simp [letters, List.replicate_succ]
  have reads := law _ fits nonempty
  have reads' := law _ fits' nonempty'
  obtain ⟨ended, n, cut, -⟩ := exists_cut s name key
  cases stands ended [] with
  | atLine found key' comes =>
    exact .of_inKey plain (inKey_of_atLine comes) differ fits fits' reads reads'
  | inKey found begun comes =>
    exact .of_inKey plain (inKey_of_comes comes) differ fits fits' reads reads'
  | inHeader found key' begun comes fails =>
    exact (not_readsAs_of_inHeader plain noBracket comes fails reads reads').elim
  | inValue found key' begun comes =>
    exact (not_readsAs_of_inValue plain comes differ fits fits' nonempty nonempty' reads
      reads').elim
  | lost fails =>
    obtain ⟨all, read, -⟩ := reads
    have read := reads_iff_items.2 read
    rw [cut] at read
    exact absurd read ((fails _ (begins_entryLine plain _ n _)).not_reads all)

/-! ## All values or one line -/

/-- A key that takes the line that is tried out for its own has not begun before it. -/
theorem isBlank_of_trial {begun : Text} (fresh : Text.trim (begun ++ ['x']) = ['x']) :
    begun.isBlank = true := by
  have visible := congrArg Text.visible fresh
  rw [Text.visible_trim, Text.visible_append] at visible
  exact Text.visible_eq_nil_iff.1 (by simpa [Text.visible] using visible)

include plain in
/-- A value comes back from where the reader goes on with a key, if the section stands there and
has no value for the key so far. -/
theorem InKey.readsAs {found found' : List Item} {begun : Text} {n : Nat}
    (inKey : InKey (textBefore s name key).placed found' begun)
    (cut : ∀ value, Text.placed (setLine s name key value) = (textBefore s name key).placed ++
      placedAfter n 0 (entryLine key value ++ (s.lineEnding ++ textBehind s name key)))
    (place : Reads [] ((textBefore s name key).placed ++ placedAfter n 0 trial)
      (found ++ [.entry ['x'] []]))
    (ends : endsIn name found = true) (unset : valueIn name key found = none)
    (behind : ∃ all, items (setLine s name key []) = .ok all) {value : Text}
    (fits : PlainValue value) : ReadsAs s name key value := by
  obtain ⟨rfl, same⟩ := List.append_inj' ((inKey.reads_trial n).unique place) rfl
  have blank := isBlank_of_trial (by simpa using same)
  have keyed : Text.trim (begun ++ key) = key :=
    (Text.trim_append_of_isBlank_left blank key).trans plain.trimmed
  have comes : ∀ v, PlainValue v → Comes [] (Text.placed (setLine s name key v))
      (found' ++ [.entry key v]) []
      (skipGap (placedAfter n 0 ('\n' :: textBehind s name key))) := fun v fits => by
    have line := inKey.comes_entryLine plain (Text.isEnding_lineEnding s) fits n
      (textBehind s name key)
    rw [keyed] at line
    rw [cut]
    exact line
  obtain ⟨all, behind⟩ := behind
  -- What follows the line is read in the same way, whichever value the line has.
  obtain ⟨more, rest, -⟩ :=
    (comes [] ⟨by decide, by decide, by simp⟩).of_reads (reads_iff_items.2 behind)
  refine ⟨_, reads_iff_items.1 ((comes value fits).reads rest), ?_⟩
  rw [List.append_assoc, List.singleton_append, valueIn_insert, if_pos ⟨ends, rfl⟩, unset]
  rfl

include plain in
/-- A value comes back from where it is read. -/
theorem ReadsBack.readsAs (readsBack : ReadsBack s name key) {value : Text}
    (fits : PlainValue value) : ReadsAs s name key value := by
  obtain ⟨⟨found, place, ends, unset⟩, behind⟩ := readsBack
  obtain ⟨ended, n, cut, tried⟩ := exists_cut s name key
  have place := reads_iff_items.2 place
  rw [tried] at place
  have begins : Begins (placedAfter n 0 trial) :=
    ⟨⟨'x', n, 1⟩, _, rfl, show isBlank 'x' = false by decide⟩
  cases stands ended [] with
  | atLine found' key' comes =>
    exact (inKey_of_atLine comes).readsAs plain cut place ends unset behind fits
  | inKey found' begun comes =>
    exact (inKey_of_comes comes).readsAs plain cut place ends unset behind fits
  | inHeader found' key' begun comes fails =>
    exact absurd place ((fails _ trial begins rfl).not_reads _)
  | inValue found' key' begun comes =>
    -- The value takes in the line that is tried out, so it is not the empty one.
    have taken := (comes _ begins).reads fun last => itemsFrom_nil last []
    obtain ⟨-, same⟩ := List.append_inj' ((List.append_nil _).symm.trans (taken.unique place)) rfl
    have filled := congrArg Text.visible (Item.entry.inj (List.cons.inj same).1).2
    have piece : (takeUntil isLineEnd (placedAfter n 0 trial)).1 = trial := rfl
    rw [Text.visible_trim, Text.visible_append, piece] at filled
    exact absurd (List.append_eq_nil_iff.1 filled).2 (by decide)
  | lost fails => exact absurd place ((fails _ begins).not_reads _)

end Edit

/-- A text takes a value for a key of a section where it is read exactly when every value that
is written there comes back. -/
theorem readsBack_iff {s name key : Text} (plain : PlainKey key) (noBracket : ']' ∉ key) :
    ReadsBack s name key ↔
      ∀ value, PlainValue value → value ≠ [] → ReadsAs s name key value :=
  ⟨fun readsBack _ fits _ => readsBack.readsAs plain fits,
    readsBack_of_readsAs plain noBracket⟩

end ProfilePicker.Ini
