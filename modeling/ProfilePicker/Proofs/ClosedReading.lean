import ProfilePicker.Proofs.LineItems
import ProfilePicker.Proofs.Pieces

/-!
# Reading closed lines

The reader goes through characters, and what it passes over depends on what it has passed over
before. At the start of a line it stands in one of two ways: at the first character, or already
behind the blanks that the line begins with. From either, a closed line yields its item and
leaves the reader at the start of the next line, again in one of the two ways. So a text of
closed lines says what its lines say one by one, and so does the beginning of a text that goes
on in any other way.
-/
namespace ProfilePicker.Ini

open Text (OneLine IsEnding placedAfter shortEnding longEnding)

/-- Where the reader can stand when a text is left to read from the start of a line on. -/
inductive AtStart (s : Text) : List Placed → Prop
  /-- At the first character of the line. -/
  | here (line : Nat) : AtStart s (placedAfter line 0 s)
  /-- Behind the gap that the text begins with. -/
  | past (line : Nat) : AtStart s (skipGap (placedAfter line 0 s))

/-! ## Values up to the end of their line -/

section Values

variable {value : Text} (oneLine : OneLine value)

include oneLine in
/-- Nothing ends a value within its line. -/
theorem endsWithin_of_oneLine : endsWithin isLineEnd value = false :=
  endsWithin_eq_false (oneLine_iff.1 oneLine)

include oneLine in
/-- A value that leaves nothing open is taken as a whole. -/
theorem takeUntil_closed (closed : leavesOpen value = false) (line column : Nat) (s : Text) :
    takeUntil isLineEnd (placedAfter line column (value ++ s)) =
      (value ++ (takeUntil isLineEnd (placedAfter line (column + value.length) s)).1,
        (takeUntil isLineEnd (placedAfter line (column + value.length) s)).2) :=
  takeUntil_whole (by decide) (fun member => (oneLine _ member).1 rfl)
    (endsWithin_of_oneLine oneLine) closed line column s

include oneLine in
/-- A value that leaves its line open is taken up to the backslash, which acts on what follows. -/
theorem takeUntil_open (opened : leavesOpen value = true) (line column : Nat) (s : Text) :
    ∃ slash : Placed, slash.char = '\\' ∧ ∃ after : Nat,
      takeUntil isLineEnd (placedAfter line column (value ++ s)) =
        (value.dropLast ++ (takeUntil isLineEnd (slash :: placedAfter line after s)).1,
          (takeUntil isLineEnd (slash :: placedAfter line after s)).2) :=
  takeUntil_slash (by decide) (fun member => (oneLine _ member).1 rfl)
    (endsWithin_of_oneLine oneLine) opened line column s

end Values

/-! ## The end of a line -/

/-- Passing over the end of a line leads to the start of the next one. -/
theorem atStart_skipGap_feed (line column : Nat) (s : Text) :
    AtStart s (skipGap (placedAfter line column ('\n' :: s))) := by
  have closes : isLineEnd (⟨'\n', line + 1, 0⟩ : Placed).char = true := rfl
  have chars : placedAfter line column ('\n' :: s) =
      ⟨'\n', line + 1, 0⟩ :: placedAfter (line + 1) 0 s := rfl
  rw [chars]
  rcases skipGap_lineEnd closes (placedAfter (line + 1) 0 s) with stops | goesOn
  · rw [stops]
    exact .here (line + 1)
  · rw [goesOn]
    exact .past (line + 1)

/-- Passing over the end of a line leads to the same place, whichever ending it has. -/
theorem skipGap_ending {ending : Text} (known : IsEnding ending) (line column : Nat) (s : Text) :
    skipGap (placedAfter line column (ending ++ s)) =
      skipGap (placedAfter line 0 ('\n' :: s)) := by
  rcases known with rfl | rfl
  · rfl
  · have chars : placedAfter line column (longEnding ++ s) =
        ⟨'\r', line, column + 1⟩ :: ⟨'\n', line + 1, 0⟩ :: placedAfter (line + 1) 0 s := rfl
    rw [chars, skipGap_return rfl rfl]
    rfl

/-- Passing over the end of a line leads to the start of the next one. -/
theorem atStart_skipGap_ending {ending : Text} (known : IsEnding ending) (line column : Nat)
    (s : Text) : AtStart s (skipGap (placedAfter line column (ending ++ s))) := by
  rw [skipGap_ending known]
  exact atStart_skipGap_feed line 0 s

/-- The first character of an ending ends a line. -/
theorem exists_cons_of_isEnding {ending : Text} (known : IsEnding ending) :
    ∃ c rest, ending = c :: rest ∧ isLineEnd c = true := by
  rcases known with rfl | rfl
  · exact ⟨'\n', [], rfl, rfl⟩
  · exact ⟨'\r', ['\n'], rfl, rfl⟩

/-- A visible character is where the reader stands either way. -/
theorem AtStart.exists_here {c : Char} {s : Text} (visible : isBlank c = false) {q : List Placed}
    (start : AtStart (c :: s) q) : ∃ line, q = placedAfter line 0 (c :: s) := by
  have feed : c ≠ '\n' := by
    rintro rfl
    simp [show isBlank '\n' = true from by decide] at visible
  have chars : ∀ line, placedAfter line 0 (c :: s) = ⟨c, line, 1⟩ :: placedAfter line 1 s := by
    intro line
    simp [placedAfter, feed]
  cases start with
  | here line => exact ⟨line, rfl⟩
  | past line => exact ⟨line, by rw [chars, skipGap_visible visible]⟩

/-- A visible character is the first one of its line. -/
theorem AtStart.eq_here {c : Char} {s : Text} (visible : isBlank c = false) {q : List Placed}
    (start : AtStart (c :: s) q) : ∃ line, q = ⟨c, line, 1⟩ :: placedAfter line 1 s := by
  have feed : c ≠ '\n' := by
    rintro rfl
    simp [show isBlank '\n' = true from by decide] at visible
  obtain ⟨line, here⟩ := start.exists_here visible
  exact ⟨line, by rw [here]; simp [placedAfter, feed]⟩

/-! ## The value of a setting -/

/-- Blanks in front of a value leave it as open as it is. -/
theorem leavesOpen_dropWhile (value : Text) :
    leavesOpen (value.dropWhile isBlank) = leavesOpen value := by
  by_cases nothing : value.dropWhile isBlank = []
  · have blank := List.dropWhile_eq_nil_iff.1 nothing
    have closed : leavesOpen value = false := leavesOpen_eq_false fun last => by
      have := blank _ (List.mem_of_getLast? last)
      simp [show isBlank '\\' = false from by decide] at this
    rw [nothing, closed]
    rfl
  · have free : '\\' ∉ value.takeWhile isBlank := fun member => by
      have := List.mem_takeWhile_imp member
      simp [show isBlank '\\' = false from by decide] at this
    have := leavesOpen_append free nothing
    rw [List.takeWhile_append_dropWhile] at this
    exact this.symm

/-- Before a value is taken, the blanks in front of it are dropped, and nothing else is. -/
theorem dropBlanks_placedAfter {written : Text} (oneLine : OneLine written) {e : Char}
    (closes : isLineEnd e = true) (line column : Nat) (s : Text) :
    ∃ column', (placedAfter line column (written ++ e :: s)).dropWhile
      (fun p => isBlank p.char && !isLineEnd p.char) =
        placedAfter line column' (written.dropWhile isBlank ++ e :: s) := by
  have parts : written = written.takeWhile isBlank ++ written.dropWhile isBlank :=
    List.takeWhile_append_dropWhile.symm
  have leadLine : OneLine (written.takeWhile isBlank) := by
    rw [parts] at oneLine
    exact (Text.oneLine_append.1 oneLine).1
  have inLine : ∀ c ∈ written.takeWhile isBlank, (isBlank c && !isLineEnd c) = true :=
    fun c member => by
      have blank : isBlank c = true := List.mem_takeWhile_imp member
      simp [blank, oneLine_iff.1 leadLine c member]
  have noFeed : '\n' ∉ written.takeWhile isBlank := fun member => (leadLine _ member).1 rfl
  obtain ⟨c, rest, chars, stops⟩ : ∃ c rest, written.dropWhile isBlank ++ e :: s = c :: rest ∧
      (isBlank c && !isLineEnd c) = false := by
    cases shape : written.dropWhile isBlank with
    | nil => exact ⟨e, s, rfl, by simp [closes]⟩
    | cons c rest =>
      have head := List.head?_dropWhile_not (p := isBlank) (l := written)
      rw [shape] at head
      have visible : isBlank c = false := by simpa using head
      exact ⟨c, rest ++ e :: s, rfl, by simp [visible]⟩
  refine ⟨column + (written.takeWhile isBlank).length, ?_⟩
  have whole : written ++ e :: s =
      written.takeWhile isBlank ++ (written.dropWhile isBlank ++ e :: s) := by
    rw [← List.append_assoc, ← parts]
  rw [whole, dropWhile_placedAfter (fun c => isBlank c && !isLineEnd c) noFeed inLine,
    chars]
  simp only [placedAfter]
  split <;> simp only [List.dropWhile_cons, stops, Bool.false_eq_true, if_false]

/-- The value of a setting is the trimmed text up to the end of the line. -/
theorem value_placedAfter {ending : Text} (known : IsEnding ending) {written : Text}
    (oneLine : OneLine written) (closed : ending = shortEnding → leavesOpen written = false)
    (key : Text) (line column : Nat) (s : Text) :
    value key (placedAfter line column (written ++ ending ++ s)) =
      ⟨some (.entry key written.trim), [], skipGap (placedAfter line 0 ('\n' :: s))⟩ := by
  obtain ⟨e, rest, split, closes⟩ := exists_cons_of_isEnding known
  obtain ⟨start, dropped⟩ := dropBlanks_placedAfter oneLine closes line column (rest ++ s)
  rw [← List.cons_append, ← split, ← List.append_assoc] at dropped
  have opens := leavesOpen_dropWhile written
  have parts : written.takeWhile isBlank ++ written.dropWhile isBlank = written :=
    List.takeWhile_append_dropWhile
  have trimmed : Text.trim (written.dropWhile isBlank) = written.trim := by
    have blank : Text.isBlank (written.takeWhile isBlank) = true :=
      Text.isBlank_iff.2 fun c member => List.mem_takeWhile_imp member
    rw [← Text.trim_append_of_isBlank_left blank, parts]
  have bodyLine : OneLine (written.dropWhile isBlank) := by
    rw [← parts] at oneLine
    exact (Text.oneLine_append.1 oneLine).2
  generalize written.dropWhile isBlank = body at *
  simp only [value, dropped]
  cases bodyOpens : leavesOpen body with
  | false =>
    have stops := takeUntil_placedAfter_end isLineEnd closes line
      (start + body.length) (rest ++ s)
    rw [← List.cons_append, ← split] at stops
    rw [takeUntil_closed bodyLine bodyOpens, stops, skipGap_ending known, List.append_nil, trimmed]
  | true =>
    -- The backslash protects the carriage return, and the line feed ends the value.
    have long : ending = longEnding := known.resolve_left fun short => by
      have := closed short
      rw [← opens, bodyOpens] at this
      cases this
    obtain ⟨slash, protects, after, taken⟩ :=
      takeUntil_open bodyLine bodyOpens line start (ending ++ s)
    obtain ⟨front, shape⟩ := List.getLast?_eq_some_iff.1 (getLast?_of_leavesOpen bodyOpens)
    have returnChar : ('\r' : Char) ≠ '\n' := by decide
    have chars : placedAfter line after (ending ++ s) = ⟨'\r', line, after + 1⟩ ::
        placedAfter line (after + 1) ('\n' :: s) := by rw [long]; rfl
    have feed := takeUntil_placedAfter_end isLineEnd (show isLineEnd '\n' = true from rfl) line
      (after + 1) s
    rw [chars, takeUntil_protected (by decide) protects returnChar, feed, protects] at taken
    have returned : Text.trim (front ++ ['\\', '\r']) = written.trim := by
      rw [← trimmed, shape]
      have blank : Text.isBlank ['\r'] = true := by decide
      simpa using Text.trim_append_of_isBlank_right blank (front ++ ['\\'])
    have same : placedAfter line (after + 1) ('\n' :: s) = placedAfter line 0 ('\n' :: s) := rfl
    rw [taken, same]
    simp [shape, returned]

/-! ## One line after the other -/

section Lines

variable {ending : Text} (known : IsEnding ending)

include known in
/-- A line of spaces and tabs is passed over. -/
theorem comes_blank {line : Text} (indents : ∀ c ∈ line, isIndent c = true) {s : Text}
    {q : List Placed} (start : AtStart (line ++ ending ++ s) q) :
    ∃ q', AtStart s q' ∧ Comes [] q [] [] q' := by
  cases start with
  | past n =>
    have blanks : ∀ c ∈ line, isBlank c = true := fun c m => isBlank_of_isIndent (indents c m)
    have inLine : ∀ c ∈ line, isLineEnd c = false := fun c m => isLineEnd_of_isIndent (indents c m)
    rw [List.append_assoc, skipGap_placedAfter blanks inLine]
    exact ⟨_, atStart_skipGap_ending known n _ s, .refl _ _⟩
  | here n =>
    cases line with
    | nil =>
      rcases known with rfl | rfl
      · exact ⟨_, .past (n + 1), .of_silent fun last => turn_lineEnd rfl⟩
      · exact ⟨_, atStart_skipGap_feed n 1 s, .of_silent fun last => turn_lineEnd rfl⟩
    | cons c line =>
      have noFeed : '\n' ∉ line := fun member => by
        simpa [isIndent] using indents _ (List.mem_cons_of_mem c member)
      have feed : c ≠ '\n' := by
        rintro rfl
        simpa [isIndent] using indents _ List.mem_cons_self
      have here : isIndent c = true := indents c List.mem_cons_self
      have dropped : ∀ column, (placedAfter n column (line ++ ending ++ s)).dropWhile
          (isIndent ·.char) = placedAfter n (column + line.length) (ending ++ s) := by
        intro column
        rw [List.append_assoc, dropWhile_placedAfter _ noFeed
          fun d member => indents d (List.mem_cons_of_mem c member)]
        rcases known with rfl | rfl <;> rfl
      have chars : placedAfter n 0 (c :: line ++ ending ++ s) =
          ⟨c, n, 1⟩ :: placedAfter n 1 (line ++ ending ++ s) := by
        simp [placedAfter, feed]
      have opened : ∀ last, turn last [] ⟨c, n, 1⟩ (placedAfter n 1 (line ++ ending ++ s)) =
          indented last [] (placedAfter n (1 + line.length) (ending ++ s)) := fun last => by
        rw [turn_indented here, dropped]
      rw [chars]
      rcases known with rfl | rfl
      · exact ⟨_, .here (n + 1), .of_silent opened⟩
      · -- The carriage return ends the turn, and the line feed takes one of its own.
        exact ⟨_, .past (n + 1),
          (Comes.of_silent opened).trans (.of_silent fun last => turn_lineEnd rfl)⟩

/-- What follows the line of a comment. -/
theorem afterLine_placedAfter {front : Text} (noFeed : '\n' ∉ front) (line column : Nat)
    (s : Text) : afterLine (placedAfter line column (front ++ '\n' :: s)) =
      placedAfter (line + 1) 0 s := by
  have others : ∀ c ∈ front, (c != '\n') = true := fun c member => by
    simpa using fun same : c = '\n' => noFeed (same ▸ member)
  rw [afterLine, dropWhile_placedAfter (· != '\n') noFeed others]
  rfl

include known in
/-- A comment is passed over. -/
theorem comes_comment {mark : Char} (marks : startsComment mark = true) {rest : Text}
    (oneLine : OneLine rest) {s : Text} {q : List Placed}
    (start : AtStart (mark :: rest ++ ending ++ s) q) :
    ∃ q', AtStart s q' ∧ Comes [] q [] [] q' := by
  have noFeed : '\n' ∉ rest := fun member => (oneLine _ member).1 rfl
  rw [List.cons_append, List.cons_append] at start
  obtain ⟨n, rfl⟩ := start.eq_here (visible_of_startsComment marks).1
  have after : afterLine (placedAfter n 1 (rest ++ ending ++ s)) = placedAfter (n + 1) 0 s := by
    rcases known with rfl | rfl
    · rw [List.append_assoc]
      exact afterLine_placedAfter noFeed n 1 s
    · have noFeed' : '\n' ∉ rest ++ ['\r'] := by simp [noFeed]
      simpa [longEnding] using afterLine_placedAfter noFeed' n 1 s
  refine ⟨_, .past (n + 1), .of_silent fun last => ?_⟩
  rw [turn_comment marks (Nat.le_refl 1), after]

include known in
/-- A header line yields its header when nothing in the name closes it or protects its end. -/
theorem comes_headerLine {name : Text} (trimmed : Text.Trimmed name) (oneLine : OneLine name)
    (within : endsWithin (· = ']') name = false) (closed : leavesOpen name = false) {s : Text}
    {q : List Placed} (start : AtStart (headerLine name ++ ending ++ s) q) :
    ∃ q', AtStart s q' ∧ Comes [] q [.header name] [] q' := by
  have noFeed : '\n' ∉ name := fun member => (oneLine _ member).1 rfl
  have trimmed : name.trim = name := trimmed
  rw [headerLine_eq, List.cons_append, List.cons_append] at start
  obtain ⟨n, rfl⟩ := start.eq_here (by decide)
  have slash : decide ('\\' = ']') = false := by decide
  have piece := takeUntil_whole slash noFeed within closed n 1 (']' :: (ending ++ s))
  rw [takeUntil_placedAfter_end _ (by decide)] at piece
  have chars : name ++ [']'] ++ ending ++ s = name ++ ']' :: (ending ++ s) := by simp
  refine ⟨_, atStart_skipGap_ending known n (1 + name.length + 1) s, .of_item fun last => ?_⟩
  rw [turn_header rfl, header, chars, piece]
  simp [placedAfter, trimmed]

/-- Nothing closes a header within a name without brackets. -/
theorem endsWithin_of_noBracket {name : Text} (noBracket : ']' ∉ name) :
    endsWithin (· = ']') name = false :=
  endsWithin_eq_false fun c member => by
    simpa using fun same : c = ']' => noBracket (same ▸ member)

include known in
/-- The header line of a plain name yields its header. -/
theorem comes_header {name : Text} (plain : PlainName name) {s : Text} {q : List Placed}
    (start : AtStart (headerLine name ++ ending ++ s) q) :
    ∃ q', AtStart s q' ∧ Comes [] q [.header name] [] q' :=
  comes_headerLine known plain.trimmed plain.oneLine (endsWithin_of_noBracket plain.noBracket)
    (leavesOpen_eq_false fun last => plain.noBackslash (List.mem_of_getLast? last)) start

/-- A plain key begins with a visible character that begins a key. -/
theorem PlainKey.exists_begins {key : Text} (plain : PlainKey key) :
    ∃ c rest, key = c :: rest ∧ isBlank c = false ∧ beginsKey c = true := by
  obtain ⟨c, rest, rfl, visible, noBracket, noComment⟩ := plain.exists_cons
  have delimits := plain.noDelimiter c List.mem_cons_self
  have closes := oneLine_iff.1 plain.oneLine c List.mem_cons_self
  have indents : isIndent c = false := by
    by_contra other
    rw [isBlank_of_isIndent (by simpa using other)] at visible
    cases visible
  exact ⟨c, rest, rfl, visible, by
    simp [beginsKey, noComment, noBracket, delimits, indents, closes]⟩

/-- A delimiter is an equals sign or a colon. -/
theorem isDelimiter_iff {c : Char} : isDelimiter c = true ↔ c = '=' ∨ c = ':' := by
  simp [isDelimiter]

section Setting

variable {key pad written : Text} {sign : Char} (plain : PlainKey key)
  (pads : ∀ c ∈ pad, isIndent c = true) (delimits : isDelimiter sign = true)
  (oneLine : OneLine written) (closed : ending = shortEnding → leavesOpen written = false)

include delimits in
/-- A delimiter is visible and stands in its line. -/
theorem placedAfter_delimiter : isBlank sign = false ∧ ∀ n column s,
    placedAfter n column (sign :: s) = ⟨sign, n, column + 1⟩ :: placedAfter n (column + 1) s := by
  rcases isDelimiter_iff.1 delimits with rfl | rfl <;> exact ⟨by decide, fun _ _ _ => rfl⟩

include plain pads delimits in
/-- The key of a setting is taken up to its delimiter. -/
theorem takeUntil_key (n column : Nat) (s : Text) :
    takeUntil isDelimiter (placedAfter n column (key ++ pad ++ sign :: s)) =
      (key ++ pad, placedAfter n (column + (key ++ pad).length) (sign :: s)) := by
  have noFeed : '\n' ∉ key ++ pad := by
    simp only [List.mem_append, not_or]
    exact ⟨fun member => (plain.oneLine _ member).1 rfl,
      fun member => (oneLine_of_indents pads _ member).1 rfl⟩
  have goesOn : ∀ c ∈ key ++ pad, isDelimiter c = false := by
    intro c member
    rcases List.mem_append.1 member with inKey | inPad
    · exact plain.noDelimiter c inKey
    · have known : c = ' ' ∨ c = '\t' := by simpa [isIndent] using pads c inPad
      rcases known with rfl | rfl <;> rfl
  have noBackslash : '\\' ∉ key ++ pad := by
    simp only [List.mem_append, not_or]
    exact ⟨plain.noBackslash, fun member => by simpa [isIndent] using pads _ member⟩
  rw [takeUntil_placedAfter isDelimiter noFeed goesOn noBackslash,
    takeUntil_placedAfter_end isDelimiter delimits]
  simp

include known plain delimits oneLine closed in
/-- Behind the delimiter of a setting its value follows. -/
theorem comes_value (n column : Nat) (s : Text) :
    ∃ q', AtStart s q' ∧
      Comes key (skipGap (placedAfter n column (sign :: (written ++ ending ++ s))))
        [.entry key written.trim] [] q' := by
  have read := value_placedAfter known oneLine closed key n (column + 1) s
  obtain ⟨visible, chars⟩ := placedAfter_delimiter delimits
  have here : isDelimiter (⟨sign, n, column + 1⟩ : Placed).char = true := delimits
  refine ⟨_, atStart_skipGap_feed n 0 s, ?_⟩
  rw [chars, skipGap_visible visible]
  exact .of_item fun last => by rw [turn_value here plain.nonempty, read]

include plain pads delimits in
/-- The key of a setting is read from its first visible character on. -/
theorem comes_key (n column : Nat) (s : Text) :
    Comes [] (placedAfter n column (key ++ pad ++ sign :: s)) [] key
      (skipGap (placedAfter n (column + (key ++ pad).length) (sign :: s))) := by
  have piece := takeUntil_key plain pads delimits n column s
  have trimmed := trim_key indents_nil plain pads
  obtain ⟨c, rest, rfl, -, begins⟩ := plain.exists_begins
  have feed : c ≠ '\n' := (plain.oneLine c List.mem_cons_self).1
  simp only [List.cons_append, List.nil_append] at piece trimmed ⊢
  rw [placedAfter, if_neg feed] at piece ⊢
  have here : beginsKey (⟨c, n, column + 1⟩ : Placed).char = true := begins
  refine .of_silent fun last => ?_
  rw [turn_key here, piece, (placedAfter_delimiter delimits).2]
  simp only [trimmed]

include known plain pads delimits oneLine closed in
/-- A setting that is not indented yields its entry. -/
theorem comes_outdented (n column : Nat) (s : Text) :
    ∃ q', AtStart s q' ∧
      Comes [] (placedAfter n column (key ++ pad ++ sign :: (written ++ ending ++ s)))
        [.entry key written.trim] [] q' := by
  obtain ⟨q', start, valued⟩ := comes_value known plain delimits oneLine closed n
    (column + (key ++ pad).length) s
  exact ⟨q', start, (comes_key plain pads delimits n column _).trans valued⟩

include plain in
/-- The first character of a key is visible and opens no header. -/
theorem placedAfter_key : ∃ k rest, isBlank k = false ∧ k ≠ '[' ∧ isLineEnd k = false ∧
    ∀ t n column, placedAfter n column (key ++ t) =
      ⟨k, n, column + 1⟩ :: placedAfter n (column + 1) (rest ++ t) := by
  obtain ⟨k, rest, rfl, visible, noBracket, -⟩ := plain.exists_cons
  have noEnd : isLineEnd k = false := oneLine_iff.1 plain.oneLine k List.mem_cons_self
  have feed : k ≠ '\n' := (plain.oneLine k List.mem_cons_self).1
  exact ⟨k, rest, visible, noBracket, noEnd, fun t n column => by simp [placedAfter, feed]⟩

include known plain pads delimits oneLine closed in
/-- An indented setting yields its entry, from its indentation on. -/
theorem comes_indented {c : Char} {indent : Text}
    (indents : ∀ d ∈ c :: indent, isIndent d = true) (n : Nat) (s : Text) :
    ∃ q', AtStart s q' ∧
      Comes [] (placedAfter n 0
          (c :: (indent ++ (key ++ (pad ++ sign :: (written ++ ending ++ s))))))
        [.entry key written.trim] [] q' := by
  obtain ⟨k, rest, visible, noBracket, noEnd, keyChars⟩ := placedAfter_key plain
  have here : isIndent c = true := indents c List.mem_cons_self
  have others : ∀ d ∈ indent, isIndent d = true := fun d m => indents d (by simp [m])
  have noIndent : isIndent k = false := by
    by_contra other
    rw [isBlank_of_isIndent (by simpa using other)] at visible
    cases visible
  have opens : ∀ t, placedAfter n 0 (c :: t) = ⟨c, n, 1⟩ :: placedAfter n 1 t := by
    have known : c = ' ' ∨ c = '\t' := by simpa [isIndent] using here
    rcases known with rfl | rfl <;> exact fun t => rfl
  have dropped := dropWhile_placedAfter isIndent
    (fun member => (oneLine_of_indents others _ member).1 rfl) others n 1
    (key ++ (pad ++ sign :: (written ++ ending ++ s)))
  have piece := takeUntil_key plain pads delimits n (1 + indent.length) (written ++ ending ++ s)
  have trimmed : (key ++ pad).trim = key := trim_key indents_nil plain pads
  obtain ⟨q', later, valued⟩ := comes_value known plain delimits oneLine closed n
    (1 + indent.length + (key ++ pad).length) s
  refine ⟨q', later, ?_⟩
  rw [opens]
  refine Comes.trans (.of_silent fun last => ?_) valued
  rw [keyChars] at dropped
  rw [List.append_assoc key, keyChars] at piece
  rw [turn_indented here, dropped, List.dropWhile_cons_of_neg (by simp [noIndent]), indented,
    if_neg noBracket, if_neg (by simp [noEnd]), piece]
  simp only [trimmed]

include known plain pads delimits oneLine closed in
/-- A setting yields its entry, whether it is indented or not. -/
theorem comes_setting {indent : Text} (indents : ∀ c ∈ indent, isIndent c = true) {s : Text}
    {q : List Placed} (start : AtStart (indent ++ key ++ pad ++ sign :: written ++ ending ++ s) q) :
    ∃ q', AtStart s q' ∧ Comes [] q [.entry key written.trim] [] q' := by
  have chars : indent ++ key ++ pad ++ sign :: written ++ ending ++ s =
      indent ++ (key ++ (pad ++ sign :: (written ++ ending ++ s))) := by simp
  have outdented := fun n column =>
    comes_outdented known plain pads delimits oneLine closed n column s
  simp only [List.append_assoc key] at outdented
  rw [chars] at start
  cases start with
  | past n =>
    obtain ⟨k, rest, visible, -, -, keyChars⟩ := placedAfter_key plain
    have blanks : ∀ c ∈ indent, isBlank c = true := fun c m => isBlank_of_isIndent (indents c m)
    have inLine : ∀ c ∈ indent, isLineEnd c = false :=
      fun c m => isLineEnd_of_isIndent (indents c m)
    have stops := skipGap_placedAfter blanks inLine n 0
      (key ++ (pad ++ sign :: (written ++ ending ++ s)))
    rw [keyChars, skipGap_visible visible, ← keyChars] at stops
    rw [stops]
    exact outdented n _
  | here n =>
    cases indent with
    | nil => exact outdented n 0
    | cons c indent => exact comes_indented known plain pads delimits oneLine closed indents n s

end Setting

include known in
/-- A closed line yields its item and leaves the reader at the start of the next line. -/
theorem ClosedLine.comes {line : Text} (closed : ClosedLine ending line) {s : Text}
    {q : List Placed} (start : AtStart (line ++ ending ++ s) q) :
    ∃ q', AtStart s q' ∧ Comes [] q (itemOf? line).toList [] q' := by
  cases closed with
  | blank indents =>
    rw [itemOf?_of_indents indents]
    exact comes_blank known indents start
  | @comment mark rest marks oneLine =>
    rw [itemOf?_comment marks]
    exact comes_comment known marks oneLine start
  | header plain =>
    rw [itemOf?_headerLine plain]
    exact comes_header known plain start
  | @setting indent key pad written indents plain pads oneLine closed =>
    rw [itemOf?_settingLine indents plain pads]
    exact comes_setting known plain pads rfl oneLine closed indents start

include known in
/-- Closed lines yield their items and leave the reader at the start of what follows. -/
theorem comes_closedLines {ls : List Text} (closed : ∀ line ∈ ls, ClosedLine ending line)
    {s : Text} {q : List Placed} (start : AtStart (Text.joinLines ending ls ++ s) q) :
    ∃ q', AtStart s q' ∧ Comes [] q (itemsOf ls) [] q' := by
  induction ls generalizing q with
  | nil => exact ⟨q, start, .refl _ _⟩
  | cons line ls ih =>
    rw [Text.joinLines_cons, List.append_assoc] at start
    obtain ⟨middle, next, first⟩ := (closed line List.mem_cons_self).comes known start
    obtain ⟨q', finish, later⟩ := ih (fun l member => closed l (by simp [member])) next
    rw [itemsOf_cons]
    exact ⟨q', finish, first.trans later⟩

include known in
/-- A text of closed lines says what its lines say. -/
theorem items_joinLines {ls : List Text} (closed : ∀ line ∈ ls, ClosedLine ending line) :
    items (Text.joinLines ending ls) = .ok (itemsOf ls) := by
  have start : AtStart (Text.joinLines ending ls ++ []) (Text.joinLines ending ls).placed := by
    rw [List.append_nil]
    exact .here 0
  obtain ⟨q', finish, read⟩ := comes_closedLines known closed start
  have nothing : q' = [] := by cases finish <;> rfl
  rw [items, read, nothing, itemsFrom_nil]
  simp [Except.map]

end Lines

end ProfilePicker.Ini
