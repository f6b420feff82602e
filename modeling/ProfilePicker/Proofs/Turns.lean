import ProfilePicker.Proofs.Plain

/-!
# The turns of the reader

One equation for every way in which a turn goes, for the pieces that it takes and for the gaps
that it passes over, so that later proofs follow the reader without opening its definition.
Places matter to a turn only where it meets the mark of a comment.
-/
namespace ProfilePicker.Ini

open Text (OneLine IsEnding placedAfter shortEnding longEnding)

/-! ## From turns to items -/

/-- The items after a turn that succeeds. -/
theorem itemsFrom_of_turn {last : Option Placed} {key : Text} {p : Placed} {rest : List Placed}
    {t : Turn} (done : turn last key p rest = .ok t) :
    itemsFrom last key (p :: rest) =
      (itemsFrom last t.key t.rest).map (t.item.toList ++ ·) := by
  rw [itemsFrom]
  split
  · rename_i problem failed
    rw [done] at failed
    cases failed
  · rename_i found succeeded
    rw [done] at succeeded
    cases succeeded
    cases itemsFrom last t.key t.rest <;> rfl

/-- A turn that fails ends the reading. -/
theorem itemsFrom_of_problem {last : Option Placed} {key : Text} {p : Placed}
    {rest : List Placed} {problem : Problem} (failed : turn last key p rest = .error problem) :
    itemsFrom last key (p :: rest) = .error problem := by
  rw [itemsFrom]
  split
  · rename_i found failed'
    rw [failed] at failed'
    cases failed'
    rfl
  · rename_i found succeeded
    rw [failed] at succeeded
    cases succeeded

/-- Nothing is left to read at the end. -/
@[simp]
theorem itemsFrom_nil (last : Option Placed) (key : Text) : itemsFrom last key [] = .ok [] := by
  rw [itemsFrom]

/-- From one place the reader comes to another, with the items found on the way. -/
def Comes (key : Text) (q : List Placed) (found : List Item) (key' : Text) (q' : List Placed) :
    Prop :=
  ∀ last, itemsFrom last key q = (itemsFrom last key' q').map (found ++ ·)

/-- The reader is where it is. -/
theorem Comes.refl (key : Text) (q : List Placed) : Comes key q [] key q := by
  intro last
  cases itemsFrom last key q <;> rfl

/-- The reader goes on from where it has come. -/
theorem Comes.trans {key key' key'' : Text} {q q' q'' : List Placed} {found more : List Item}
    (first : Comes key q found key' q') (second : Comes key' q' more key'' q'') :
    Comes key q (found ++ more) key'' q'' := by
  intro last
  rw [first last, second last]
  cases itemsFrom last key'' q'' <;> simp [Except.map]

section OneTurn

variable {key key' : Text} {p : Placed} {rest q : List Placed}

/-- A turn without an item, the same wherever problems at the end are reported. -/
theorem Comes.of_silent (done : ∀ last, turn last key p rest = .ok ⟨none, key', q⟩) :
    Comes key (p :: rest) [] key' q :=
  fun last => itemsFrom_of_turn (done last)

/-- A turn with an item, the same wherever problems at the end are reported. -/
theorem Comes.of_item {item : Item}
    (done : ∀ last, turn last key p rest = .ok ⟨some item, key', q⟩) :
    Comes key (p :: rest) [item] key' q :=
  fun last => itemsFrom_of_turn (done last)

end OneTurn

/-! ## Pieces -/

section Pieces

variable {ends : Char → Bool} {p : Placed}

/-- A character that ends the piece is not taken. -/
theorem takeUntil_end (stops : ends p.char = true) (s : List Placed) :
    takeUntil ends (p :: s) = ([], p :: s) := by
  cases s with
  | nil => simp [takeUntil, stops]
  | cons q rest => simp [takeUntil, stops]

/-- A character that neither ends the piece nor protects the next one is taken. -/
theorem takeUntil_goOn (goesOn : ends p.char = false) (free : p.char ≠ '\\') (s : List Placed) :
    takeUntil ends (p :: s) = (p.char :: (takeUntil ends s).1, (takeUntil ends s).2) := by
  cases s with
  | nil => simp [takeUntil, goesOn]
  | cons q rest => simp [takeUntil, goesOn, free]

/-- A protected line feed disappears with its backslash. -/
theorem takeUntil_joined (goesOn : ends '\\' = false) (protects : p.char = '\\') {q : Placed}
    (feed : q.char = '\n') (s : List Placed) :
    takeUntil ends (p :: q :: s) = takeUntil ends s := by
  simp [takeUntil, protects, goesOn, feed]

/-- Any other protected character is taken with its backslash. -/
theorem takeUntil_protected (goesOn : ends '\\' = false) (protects : p.char = '\\') {q : Placed}
    (noFeed : q.char ≠ '\n') (s : List Placed) :
    takeUntil ends (p :: q :: s) =
      (p.char :: q.char :: (takeUntil ends s).1, (takeUntil ends s).2) := by
  simp [takeUntil, protects, goesOn, noFeed]

end Pieces

/-- The places of the characters of a text with one on one line in front. -/
theorem placedAfter_append {front : Text} (noFeed : '\n' ∉ front) (line column : Nat)
    (s : Text) : placedAfter line column (front ++ s) =
      placedAfter line column front ++ placedAfter line (column + front.length) s := by
  induction front generalizing column with
  | nil => rfl
  | cons c front ih =>
    have feed : c ≠ '\n' := fun same => noFeed (by simp [same])
    have later := ih (fun member => noFeed (List.mem_cons_of_mem c member)) (column + 1)
    simp only [List.cons_append, placedAfter, feed, if_false, later, List.length_cons]
    rw [show column + 1 + front.length = column + (front.length + 1) by omega]

/-- A piece takes a text in which nothing ends it and nothing is protected. -/
theorem takeUntil_placedAfter (ends : Char → Bool) {front : Text} (noFeed : '\n' ∉ front)
    (goesOn : ∀ c ∈ front, ends c = false) (noBackslash : '\\' ∉ front) (line column : Nat)
    (s : Text) :
    takeUntil ends (placedAfter line column (front ++ s)) =
      (front ++ (takeUntil ends (placedAfter line (column + front.length) s)).1,
        (takeUntil ends (placedAfter line (column + front.length) s)).2) := by
  induction front generalizing column with
  | nil => rfl
  | cons c front ih =>
    have feed : c ≠ '\n' := fun same => noFeed (by simp [same])
    have free : c ≠ '\\' := fun same => noBackslash (by simp [same])
    have here : ends c = false := goesOn c List.mem_cons_self
    have later := ih (fun member => noFeed (List.mem_cons_of_mem c member))
      (fun d member => goesOn d (List.mem_cons_of_mem c member))
      (fun member => noBackslash (List.mem_cons_of_mem c member)) (column + 1)
    rw [show column + 1 + front.length = column + (c :: front).length by simp; omega] at later
    simp only [List.cons_append, placedAfter, feed, if_false]
    rw [takeUntil_goOn here free, later]

/-- Whatever ends a piece, the first character of some placed text does. -/
theorem takeUntil_placedAfter_end (ends : Char → Bool) {c : Char} (stops : ends c = true)
    (line column : Nat) (s : Text) :
    takeUntil ends (placedAfter line column (c :: s)) =
      ([], placedAfter line column (c :: s)) := by
  simp only [placedAfter]
  split <;> exact takeUntil_end stops _

/-! ## Gaps -/

/-- A gap ends where a visible character stands. -/
theorem skipGap_visible {p : Placed} (visible : isBlank p.char = false) (s : List Placed) :
    skipGap (p :: s) = p :: s := by
  cases s <;> simp [skipGap, visible]

/-- A gap goes on behind a blank that does not end a line. -/
theorem skipGap_blank {p : Placed} (blank : isBlank p.char = true)
    (inLine : isLineEnd p.char = false) (s : List Placed) : skipGap (p :: s) = skipGap s := by
  cases s <;> simp [skipGap, blank, inLine]

/-- A character that ends a line is blank. -/
theorem isBlank_of_isLineEnd {c : Char} (closes : isLineEnd c = true) : isBlank c = true := by
  have known : c = '\n' ∨ c = '\r' := by simpa [isLineEnd] using closes
  rcases known with rfl | rfl <;> decide

/-- Behind the end of a line, a gap ends where the next line is indented. -/
theorem skipGap_lineEnd {p : Placed} (closes : isLineEnd p.char = true) (s : List Placed) :
    skipGap (p :: s) = s ∨ skipGap (p :: s) = skipGap s := by
  have blank := isBlank_of_isLineEnd closes
  cases s with
  | nil => simp [skipGap, blank]
  | cons q rest =>
    by_cases indents : isIndent q.char = true
    · left
      simp [skipGap, blank, closes, indents]
    · right
      simp [skipGap, blank, closes, indents]

/-- Behind a carriage return, a gap goes on with the line feed. -/
theorem skipGap_return {p q : Placed} (closes : isLineEnd p.char = true)
    (feed : q.char = '\n') (s : List Placed) : skipGap (p :: q :: s) = skipGap (q :: s) := by
  have blank := isBlank_of_isLineEnd closes
  have noIndent : isIndent q.char = false := by rw [feed]; rfl
  simp [skipGap, blank, closes, noIndent]

/-- A gap leaves an indented text at its first visible character. -/
theorem skipGap_placedAfter {front : Text} (blanks : ∀ c ∈ front, isBlank c = true)
    (inLine : ∀ c ∈ front, isLineEnd c = false) (line column : Nat) (s : Text) :
    skipGap (placedAfter line column (front ++ s)) =
      skipGap (placedAfter line (column + front.length) s) := by
  induction front generalizing column with
  | nil => rfl
  | cons c front ih =>
    have feed : c ≠ '\n' := by
      have := inLine c List.mem_cons_self
      rintro rfl
      simp [isLineEnd] at this
    have later := ih (fun d member => blanks d (List.mem_cons_of_mem c member))
      (fun d member => inLine d (List.mem_cons_of_mem c member)) (column + 1)
    rw [show column + 1 + front.length = column + (c :: front).length by simp; omega] at later
    simp only [List.cons_append, placedAfter, feed, if_false]
    rw [skipGap_blank (blanks c List.mem_cons_self) (inLine c List.mem_cons_self), later]

/-- Dropping characters of a placed text. -/
theorem dropWhile_placedAfter (drops : Char → Bool) {front : Text} (noFeed : '\n' ∉ front)
    (all : ∀ c ∈ front, drops c = true) (line column : Nat) (s : Text) :
    (placedAfter line column (front ++ s)).dropWhile (drops ·.char) =
      (placedAfter line (column + front.length) s).dropWhile (drops ·.char) := by
  rw [placedAfter_append noFeed]
  refine List.dropWhile_append_of_pos fun p member => all p.char ?_
  rw [← Text.map_char_placedAfter line column front]
  exact List.mem_map_of_mem member

/-! ## The ways a turn goes -/

section Turns

variable {last : Option Placed} {key : Text} {p : Placed} {rest : List Placed}

/-- A comment in the first column is passed over. -/
theorem turn_comment (marks : startsComment p.char = true) (first : p.column ≤ 1) :
    turn last key p rest = .ok ⟨none, key, skipGap (afterLine rest)⟩ := by
  simp [turn, marks, Nat.not_lt.2 first]

/-- A bracket opens a header. -/
theorem turn_header (opens : p.char = '[') :
    turn last key p rest = header last key rest := by
  simp [turn, startsComment, opens]

/-- A delimiter after a key opens its value. -/
theorem turn_value (delimits : isDelimiter p.char = true) (waiting : key ≠ []) :
    turn last key p rest = .ok (value key rest) := by
  have known : p.char = '=' ∨ p.char = ':' := by simpa [isDelimiter] using delimits
  rcases known with same | same <;>
    simp [turn, startsComment, isDelimiter, same, waiting]

/-- A delimiter without a key before it is a problem. -/
theorem turn_missingKey (delimits : isDelimiter p.char = true) :
    turn last [] p rest = .error (.at p .missingKey) := by
  have known : p.char = '=' ∨ p.char = ':' := by simpa [isDelimiter] using delimits
  rcases known with same | same <;> simp [turn, startsComment, isDelimiter, same]

/-- Spaces and tabs open an indented line. -/
theorem turn_indented (indents : isIndent p.char = true) :
    turn last key p rest = indented last key (rest.dropWhile (isIndent ·.char)) := by
  have known : p.char = ' ' ∨ p.char = '\t' := by simpa [isIndent] using indents
  rcases known with same | same <;>
    simp [turn, startsComment, isDelimiter, isIndent, same]

/-- The end of a line is passed over. -/
theorem turn_lineEnd (closes : isLineEnd p.char = true) :
    turn last key p rest = .ok ⟨none, key, skipGap rest⟩ := by
  have known : p.char = '\n' ∨ p.char = '\r' := by simpa [isLineEnd] using closes
  rcases known with same | same <;>
    simp [turn, startsComment, isDelimiter, isIndent, isLineEnd, same]

/-- The characters that say what a turn is about. All others begin a key. -/
def beginsKey (c : Char) : Bool :=
  !(startsComment c || c = '[' || isDelimiter c || isIndent c || isLineEnd c)

/-- Any other character begins a key, which a delimiter has to follow. -/
theorem turn_key (begins : beginsKey p.char = true) :
    turn last key p rest =
      match takeUntil isDelimiter (p :: rest) with
      | (_, []) => .error (.at last .keyWithoutValue)
      | (name, q :: after) => .ok ⟨none, name.trim, skipGap (q :: after)⟩ := by
  have other : startsComment p.char = false ∧ p.char ≠ '[' ∧ isDelimiter p.char = false ∧
      isIndent p.char = false ∧ isLineEnd p.char = false := by
    simpa [beginsKey, and_assoc] using begins
  obtain ⟨noComment, noHeader, noDelimiter, noIndent, noEnd⟩ := other
  refine (if_neg (ne_true_of_eq_false noComment)).trans ((if_neg noHeader).trans ?_)
  refine (if_neg (ne_true_of_eq_false noDelimiter)).trans ?_
  exact (if_neg (ne_true_of_eq_false noIndent)).trans (if_neg (ne_true_of_eq_false noEnd))

end Turns

end ProfilePicker.Ini
