import Mathlib.Data.List.TakeDrop
import Mathlib.Data.List.TakeWhile
import ProfilePicker.Ini.Line
import ProfilePicker.Proofs.Lines

/-!
# Where an edit writes its line

An edit writes one line, and where it does depends on the section and the key but not on the
value. The lines before it and the lines after it are the two sides of a seam. There are three
kinds of seam: around a line that is replaced, between two lines, and at the end of the text,
where a header is added first.
-/
namespace ProfilePicker.Ini

/-- The empty line that separates a new section from the text before it. -/
def separator (ls : List Text) : List Text :=
  match ls.getLast? with
  | some line => if line.isBlank then [] else [[]]
  | none => []

/-- The lines of a block up to the last one that is not blank. -/
def upToText (body : List Text) : List Text := (body.reverse.dropWhile Text.isBlank).reverse

/-- The blank lines that a block ends with. -/
def blankEnd (body : List Text) : List Text := (body.reverse.takeWhile Text.isBlank).reverse

/-- The lines of a block before and after the one that an edit writes. -/
def seamInBody (key : Text) (body : List Text) : List Text × List Text :=
  match body.span (keyName? · ≠ some key) with
  | (before, _ :: after) => (before, after)
  | (_, []) => (upToText body, blankEnd body)

/-- The lines before and after the one that an edit writes. -/
def seam (name key : Text) (ls : List Text) : List Text × List Text :=
  match ls.span (headerName? · ≠ some name) with
  | (before, head :: after) =>
    let (body, tail) := after.span (!isHeader ·)
    let (front, back) := seamInBody key body
    (before ++ head :: front, back ++ tail)
  | (_, []) => (ls ++ separator ls ++ [headerLine name], [])

/-- The three kinds of seam, with the lines of the text, those before it and those after it. -/
inductive Seam (name key : Text) : List Text → List Text → List Text → Prop
  /-- The first line of the block that sets the key is replaced. -/
  | replaced {front body back : List Text} {head old : Text}
      (first : ∀ line ∈ front, headerName? line ≠ some name)
      (heads : headerName? head = some name)
      (others : ∀ line ∈ body, isHeader line = false ∧ keyName? line ≠ some key)
      (inside : isHeader old = false) (sets : keyName? old = some key) :
      Seam name key (front ++ head :: (body ++ old :: back)) (front ++ head :: body) back
  /-- No line of the block sets the key: the new one comes after the last that is not blank. -/
  | inserted {front body gap back : List Text} {head : Text}
      (first : ∀ line ∈ front, headerName? line ≠ some name)
      (heads : headerName? head = some name)
      (others : ∀ line ∈ body ++ gap, isHeader line = false ∧ keyName? line ≠ some key)
      (blank : ∀ line ∈ gap, Text.isBlank line = true)
      (visible : ∀ line, body.getLast? = some line → Text.isBlank line = false)
      (ends : ∀ line, back.head? = some line → isHeader line = true) :
      Seam name key (front ++ head :: (body ++ gap ++ back)) (front ++ head :: body) (gap ++ back)
  /-- No line heads the section: it is added at the end. -/
  | appended {ls : List Text} (absent : ∀ line ∈ ls, headerName? line ≠ some name) :
      Seam name key ls (ls ++ separator ls ++ [headerLine name]) []

/-- A new section comes after the separator. -/
theorem appendSection_eq (name key value : Text) (ls : List Text) :
    appendSection name key value ls =
      ls ++ separator ls ++ [headerLine name] ++ [entryLine key value] := by
  rw [appendSection, List.append_assoc (ls ++ separator ls)]
  rfl

/-- A block is its lines up to the last one that is not blank, and the blank ones at its end. -/
theorem upToText_append_blankEnd (body : List Text) : upToText body ++ blankEnd body = body := by
  rw [upToText, blankEnd, ← List.reverse_append, List.takeWhile_append_dropWhile,
    List.reverse_reverse]

/-- A line added after the last one that is not blank. -/
theorem insertAfterText_eq (line : Text) (body : List Text) :
    insertAfterText line body = upToText body ++ line :: blankEnd body := by
  have size : body.length - (blankEnd body).length = (upToText body).length := by
    have := congrArg List.length (upToText_append_blankEnd body)
    rw [List.length_append] at this
    omega
  have taken : body.take (upToText body).length = upToText body := by
    conv => lhs; rhs; rw [← upToText_append_blankEnd body]
    exact List.take_left
  rw [← taken, ← size]
  rfl

/-- An edit of a block writes its line between the two sides of the seam. -/
theorem setInBody_eq (key value : Text) (body : List Text) :
    setInBody key value body =
      (seamInBody key body).1 ++ entryLine key value :: (seamInBody key body).2 := by
  rw [setInBody, seamInBody]
  obtain ⟨before, rest⟩ := body.span (keyName? · ≠ some key)
  cases rest with
  | nil => exact insertAfterText_eq (entryLine key value) body
  | cons old after => rfl

/-- An edit writes its line between the two sides of the seam. -/
theorem setInLines_eq (name key value : Text) (ls : List Text) :
    setInLines name key value ls =
      (seam name key ls).1 ++ entryLine key value :: (seam name key ls).2 := by
  rw [setInLines, seam]
  obtain ⟨before, rest⟩ := ls.span (headerName? · ≠ some name)
  cases rest with
  | nil => exact appendSection_eq name key value ls
  | cons head after => simp [setInBody_eq]

/-- An edit writes at least one line. -/
theorem setInLines_ne_nil (name key value : Text) (ls : List Text) :
    setInLines name key value ls ≠ [] := by
  rw [setInLines_eq]
  simp

/-- An edit of a text writes its line between the two sides of the seam of its lines. -/
theorem setLine_eq (s name key value : Text) :
    setLine s name key value =
      Text.joinLines s.lineEnding (seam name key s.lines).1 ++
        (entryLine key value ++ s.lineEnding ++
          Text.joinLines s.lineEnding (seam name key s.lines).2) := by
  rw [setLine, setInLines_eq]
  simp [Text.joinLines]

/-- What stands before and after the first member that a property does not hold of. -/
theorem exists_span {α : Type} (p : α → Bool) (l : List α) :
    ∃ front rest, l.span p = (front, rest) ∧ l = front ++ rest ∧ (∀ a ∈ front, p a = true) ∧
      ∀ a, rest.head? = some a → p a = false := by
  refine ⟨l.takeWhile p, l.dropWhile p, List.span_eq_takeWhile_dropWhile p l,
    List.takeWhile_append_dropWhile.symm, fun a member => List.mem_takeWhile_imp member, ?_⟩
  intro a first
  have stops := List.head?_dropWhile_not p l
  rw [first] at stops
  exact stops

/-- The seam of a block goes around the first line that sets the key, or comes after the last
line that is not blank. -/
theorem seamInBody_cases (key : Text) (body : List Text) :
    (∃ old, body = (seamInBody key body).1 ++ old :: (seamInBody key body).2 ∧
      (∀ line ∈ (seamInBody key body).1, keyName? line ≠ some key) ∧ keyName? old = some key) ∨
    (seamInBody key body = (upToText body, blankEnd body) ∧
      ∀ line ∈ body, keyName? line ≠ some key) := by
  obtain ⟨front, rest, split, whole, others, found⟩ := exists_span (keyName? · ≠ some key) body
  have others : ∀ line ∈ front, keyName? line ≠ some key := by simpa using others
  rw [seamInBody, split]
  cases rest with
  | cons old back => exact .inl ⟨old, whole, others, by simpa using found old rfl⟩
  | nil =>
    rw [List.append_nil] at whole
    exact .inr ⟨rfl, whole ▸ others⟩

/-- The last line up to which a block goes is not blank. -/
theorem isBlank_getLast?_upToText {body : List Text} {line : Text}
    (last : (upToText body).getLast? = some line) : Text.isBlank line = false := by
  have stops := List.head?_dropWhile_not Text.isBlank body.reverse
  rw [upToText, List.getLast?_reverse] at last
  rw [last] at stops
  exact stops

/-- The lines that a block ends with are blank. -/
theorem isBlank_of_mem_blankEnd {body : List Text} {line : Text} (member : line ∈ blankEnd body) :
    Text.isBlank line = true := by
  rw [blankEnd, List.mem_reverse] at member
  exact List.mem_takeWhile_imp member

/-- The seam of some lines is of one of the three kinds. -/
theorem seam_spec (name key : Text) (ls : List Text) :
    Seam name key ls (seam name key ls).1 (seam name key ls).2 := by
  obtain ⟨front, rest, split, rfl, first, stops⟩ := exists_span (headerName? · ≠ some name) ls
  have first : ∀ line ∈ front, headerName? line ≠ some name := by simpa using first
  rw [seam, split]
  cases rest with
  | nil =>
    rw [List.append_nil]
    exact .appended first
  | cons head after =>
    have heads : headerName? head = some name := by simpa using stops head rfl
    obtain ⟨body, tail, block, rfl, inside, ends⟩ := exists_span (!isHeader ·) after
    have inside : ∀ line ∈ body, isHeader line = false := by simpa using inside
    have ends : ∀ line, tail.head? = some line → isHeader line = true := by simpa using ends
    simp only [block]
    rcases seamInBody_cases key body with ⟨old, whole, others, sets⟩ | ⟨parts, others⟩
    · generalize seamInBody key body = parts at *
      obtain ⟨before, back⟩ := parts
      subst whole
      have kept : ∀ line ∈ before, isHeader line = false ∧ keyName? line ≠ some key :=
        fun line member => ⟨inside line (by simp [member]), others line member⟩
      rw [List.append_assoc, List.cons_append]
      exact .replaced first heads kept (inside old (by simp)) sets
    · have whole := upToText_append_blankEnd body
      have kept : ∀ line ∈ upToText body ++ blankEnd body,
          isHeader line = false ∧ keyName? line ≠ some key := by
        rw [whole]
        exact fun line member => ⟨inside line member, others line member⟩
      have made : Seam name key _ _ _ := .inserted first heads kept
        (fun line member => isBlank_of_mem_blankEnd member)
        (fun line last => isBlank_getLast?_upToText last) ends
      rw [whole] at made
      rw [parts]
      exact made

/-- An edit in a section that no line heads adds it at the end. -/
theorem setInLines_of_absent {name : Text} {ls : List Text}
    (absent : ∀ line ∈ ls, headerName? line ≠ some name) (key value : Text) :
    setInLines name key value ls =
      ls ++ separator ls ++ [headerLine name, entryLine key value] := by
  have all : ∀ line ∈ ls, decide (headerName? line ≠ some name) = true := by simpa using absent
  have split : ls.span (headerName? · ≠ some name) = (ls, []) := by
    rw [List.span_eq_takeWhile_dropWhile, List.takeWhile_eq_self_iff.2 all,
      List.dropWhile_eq_nil_iff.2 all]
  rw [setInLines, split, appendSection_eq]
  simp

/-- The lines behind the header of a section after giving a key of the section a value. -/
def setInBlock (key value : Text) (rest : List Text) : List Text :=
  setInBody key value (rest.takeWhile (!isHeader ·)) ++ rest.dropWhile (!isHeader ·)

/-- An edit in a section changes the lines behind its first header. -/
theorem setInLines_of_headed {name head : Text} {front : List Text}
    (first : ∀ line ∈ front, headerName? line ≠ some name) (heads : headerName? head = some name)
    (key value : Text) (rest : List Text) :
    setInLines name key value (front ++ head :: rest) =
      front ++ head :: setInBlock key value rest := by
  have all : ∀ line ∈ front, decide (headerName? line ≠ some name) = true := by simpa using first
  have split :
      (front ++ head :: rest).span (headerName? · ≠ some name) = (front, head :: rest) := by
    rw [List.span_eq_takeWhile_dropWhile, List.takeWhile_append_of_pos all,
      List.dropWhile_append_of_pos all]
    simp [heads]
  simp only [setInLines, split, List.span_eq_takeWhile_dropWhile, setInBlock]
  simp

/-- An edit in the last section changes the lines of that section alone. -/
theorem setInLines_of_last {name head : Text} {front body : List Text}
    (first : ∀ line ∈ front, headerName? line ≠ some name) (heads : headerName? head = some name)
    (inside : ∀ line ∈ body, isHeader line = false) (key value : Text) :
    setInLines name key value (front ++ head :: body) =
      front ++ head :: setInBody key value body := by
  have whole : ∀ line ∈ body, (!isHeader line) = true := fun line member => by
    simp [inside line member]
  rw [setInLines_of_headed first heads, setInBlock, List.takeWhile_eq_self_iff.2 whole,
    List.dropWhile_eq_nil_iff.2 whole, List.append_nil]

/-! ## The lines of an edited text -/

/-- A header line stands on one line when its name does. -/
theorem oneLine_headerLine {name : Text} (oneLine : Text.OneLine name) :
    Text.OneLine (headerLine name) := by
  rw [headerLine, Text.oneLine_append, Text.oneLine_append]
  exact ⟨⟨by decide, oneLine⟩, by decide⟩

/-- The line that separates a new section is empty. -/
theorem eq_nil_of_mem_separator {ls : List Text} {line : Text} (member : line ∈ separator ls) :
    line = [] := by
  rw [separator] at member
  split at member
  · split at member <;> simp_all
  · cases member

/-- The lines before a new header are those of the text and perhaps an empty one. -/
theorem mem_append_separator {ls : List Text} {line : Text} (member : line ∈ ls ++ separator ls) :
    line ∈ ls ∨ line = [] :=
  (List.mem_append.1 member).imp_right eq_nil_of_mem_separator

/-- None of them heads a section that no line of the text heads. -/
theorem headerName?_ne_append_separator {name : Text} {ls : List Text}
    (absent : ∀ line ∈ ls, headerName? line ≠ some name) :
    ∀ line ∈ ls ++ separator ls, headerName? line ≠ some name := by
  intro line member
  rcases mem_append_separator member with old | rfl
  · exact absent line old
  · exact nofun

/-- The lines next to a seam are lines of the text, an empty line or the header of the section. -/
theorem Seam.mem {name key line : Text} {ls before after : List Text}
    (parts : Seam name key ls before after) (member : line ∈ before ++ after) :
    line ∈ ls ∨ line = [] ∨ line = headerLine name := by
  cases parts with
  | replaced first heads others inside sets =>
    left
    simp only [List.mem_append, List.mem_cons] at member ⊢
    tauto
  | inserted first heads others blank visible ends =>
    left
    simp only [List.mem_append, List.mem_cons] at member ⊢
    tauto
  | appended absent =>
    simp only [List.append_nil, List.mem_append, List.mem_singleton] at member
    rcases member with (member | member) | member
    · exact .inl member
    · exact .inr (.inl (eq_nil_of_mem_separator member))
    · exact .inr (.inr member)

/-- The lines of an edited text are the one that is written, lines of the text, an empty line or
the header of the section. -/
theorem mem_setInLines {name key value line : Text} {ls : List Text}
    (member : line ∈ setInLines name key value ls) :
    line = entryLine key value ∨ line ∈ ls ∨ line = [] ∨ line = headerLine name := by
  rw [setInLines_eq, List.mem_append, List.mem_cons] at member
  rcases member with inside | rfl | inside
  · exact .inr ((seam_spec name key ls).mem (List.mem_append_left _ inside))
  · exact .inl rfl
  · exact .inr ((seam_spec name key ls).mem (List.mem_append_right _ inside))

end ProfilePicker.Ini
