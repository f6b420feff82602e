import ProfilePicker.Proofs.Blocks
import ProfilePicker.Proofs.MixedBreaks

/-!
# Edits that commute

Two edits of different entries can be made in either order. The exception are two that put something
at the same place: both add a section at the end of the text, or both add a line at the end of one
block. Otherwise each leaves what the other one goes by, which are the headers, the first line that
sets the key, and where the blank lines at the end of a block begin.
-/
namespace ProfilePicker.Ini

open Text (OneLine joinLines)

variable {name name' key key' : Text} {ls front mid body rest : List Text} {head head' : Text}

/-! ## Two edits of one block -/

/-- Edits of a block for two keys commute when the block sets one of them. -/
theorem setInBody_comm (entry : EntryKey key) (entry' : EntryKey key') (differ : key ≠ key')
    (set : ∃ l ∈ body, keyName? l = some key) (value value' : Text) :
    setInBody key' value' (setInBody key value body) =
      setInBody key value (setInBody key' value' body) := by
  have sets := entry.keyName?_entryLine value
  have sets' := entry'.keyName?_entryLine value'
  have written : keyName? (entryLine key value) ≠ some key' := by simp [sets, differ]
  have written' : keyName? (entryLine key' value') ≠ some key := by simp [sets', differ.symm]
  have replaces : ∀ {k l : Text}, keyName? l = some k → ∀ v rest,
      setInBody k v (l :: rest) = entryLine k v :: rest := fun sets v rest =>
    setInBody_of_set (List.forall_mem_nil _) sets v rest
  induction body with
  | nil => simp at set
  | cons line body ih =>
    by_cases here : keyName? line = some key
    · have other : keyName? line ≠ some key' := by simp [here, differ]
      rw [replaces here, setInBody_cons_of_other other (.inl (isBlank_of_sets here)),
        setInBody_cons_of_other written (.inl (isBlank_of_sets sets)), replaces here]
    · have later : ∃ l ∈ body, keyName? l = some key := by simpa [here] using set
      have seen : ∃ l ∈ body, Text.isBlank l = false :=
        later.imp fun l found => ⟨found.1, isBlank_of_sets found.2⟩
      rw [setInBody_cons_of_other here (.inr seen)]
      by_cases there : keyName? line = some key'
      · rw [replaces there, replaces there, setInBody_cons_of_other written' (.inr seen)]
      · -- What is written is not blank, so the line stays before the second edit, too.
        have seenThen : ∃ l ∈ setInBody key value body, Text.isBlank l = false :=
          ⟨_, entryLine_mem_setInBody key value body, isBlank_of_sets sets⟩
        have seenThen' : ∃ l ∈ setInBody key' value' body, Text.isBlank l = false :=
          ⟨_, entryLine_mem_setInBody key' value' body, isBlank_of_sets sets'⟩
        rw [setInBody_cons_of_other there (.inr seen),
          setInBody_cons_of_other there (.inr seenThen),
          setInBody_cons_of_other here (.inr seenThen'), ih later]

/-! ## Two edits of lines -/

/-- A section that is headed, but not up to some line, is headed behind it. -/
theorem exists_behind (headed : ∃ l ∈ front ++ head :: rest, headerName? l = some name)
    (first : ∀ l ∈ front, headerName? l ≠ some name) (other : headerName? head ≠ some name) :
    ∃ l ∈ rest, headerName? l = some name := by
  obtain ⟨l, member, heads⟩ := headed
  rw [List.mem_append, List.mem_cons] at member
  rcases member with inFront | rfl | behind
  · exact absurd heads (first l inFront)
  · exact absurd heads other
  · exact ⟨l, behind, heads⟩

/-- A section that is not headed up to some line, nor behind it in an edited block, is not
headed. -/
theorem headerName?_ne_edited (entry : EntryKey key) (value : Text)
    (first : ∀ l ∈ front, headerName? l ≠ some name) (other : headerName? head ≠ some name)
    (absent : ∀ l ∈ rest, headerName? l ≠ some name) :
    ∀ l ∈ front ++ head :: setInBlock key value rest, headerName? l ≠ some name := by
  intro l member
  rw [List.mem_append, List.mem_cons] at member
  rcases member with inFront | rfl | behind
  · exact first l inFront
  · exact other
  · exact headerName?_ne_setInBlock entry value absent l behind

section Comm

variable (header' : HeaderName name') (entry : EntryKey key) (entry' : EntryKey key')
  (value value' : Text)

include entry in
/-- Edits in two sections commute, the first of which begins before the second. -/
theorem setInLines_comm_of_before
    (first : ∀ l ∈ front, headerName? l ≠ some name ∧ headerName? l ≠ some name')
    (heads : headerName? head = some name) (differ : name ≠ name')
    (apart : ∀ l ∈ mid, headerName? l ≠ some name') (heads' : headerName? head' = some name') :
    setInLines name' key' value'
        (setInLines name key value (front ++ head :: (mid ++ head' :: rest))) =
      setInLines name key value
        (setInLines name' key' value' (front ++ head :: (mid ++ head' :: rest))) := by
  have isHead' : isHeader head' = true := by simp [isHeader, heads']
  have other := headerName?_ne heads differ
  have front₁ : ∀ l ∈ front, headerName? l ≠ some name := fun l member => (first l member).1
  have front₂ : ∀ l ∈ front, headerName? l ≠ some name' := fun l member => (first l member).2
  have before : ∀ l ∈ front ++ head :: mid, headerName? l ≠ some name' := by
    simpa [or_imp, forall_and] using ⟨front₂, other, apart⟩
  have edited := headerName?_ne_edited entry value front₂ other apart
  have cut : ∀ mid rest : List Text, front ++ head :: (mid ++ head' :: rest) =
      (front ++ head :: mid) ++ head' :: rest := by simp
  calc
    _ = setInLines name' key' value'
          ((front ++ head :: setInBlock key value mid) ++ head' :: rest) := by
        rw [setInLines_of_headed front₁ heads, setInBlock_append_header isHead', cut]
    _ = (front ++ head :: setInBlock key value mid) ++ head' :: setInBlock key' value' rest :=
        setInLines_of_headed edited heads' key' value' rest
    _ = setInLines name key value
          (front ++ head :: (mid ++ head' :: setInBlock key' value' rest)) := by
        rw [setInLines_of_headed front₁ heads, setInBlock_append_header isHead', cut]
    _ = _ := by rw [cut mid rest, setInLines_of_headed before heads', cut]

include entry entry' in
/-- Edits in two sections commute when both are there. -/
theorem setInLines_comm_of_headed (headed : ∃ l ∈ ls, headerName? l = some name)
    (headed' : ∃ l ∈ ls, headerName? l = some name') (differ : name ≠ name') :
    setInLines name' key' value' (setInLines name key value ls) =
      setInLines name key value (setInLines name' key' value' ls) := by
  have either : ∃ l ∈ ls, headerName? l = some name ∨ headerName? l = some name' :=
    headed.imp fun l found => ⟨found.1, .inl found.2⟩
  -- Which of the two sections begins first?
  obtain ⟨front, head, rest, rfl, neither, heads | heads⟩ := exists_first either
  all_goals
    have first : ∀ l ∈ front, headerName? l ≠ some name ∧ headerName? l ≠ some name' := by
      simpa using neither
  · have behind := exists_behind headed' (fun l member => (first l member).2)
      (headerName?_ne heads differ)
    obtain ⟨mid, head', rest, rfl, apart, heads'⟩ := exists_first behind
    exact setInLines_comm_of_before entry value value' first heads differ apart heads'
  · have behind := exists_behind headed (fun l member => (first l member).1)
      (headerName?_ne heads differ.symm)
    obtain ⟨mid, head', rest, rfl, apart, heads'⟩ := exists_first behind
    exact (setInLines_comm_of_before entry' value' value (fun l member => (first l member).symm)
      heads differ.symm apart heads').symm

include header' entry in
/-- An edit in a section that is there commutes with one that adds another section. -/
theorem setInLines_comm_of_absent (headed : ∃ l ∈ ls, headerName? l = some name)
    (differ : name ≠ name') (absent : ∀ l ∈ ls, headerName? l ≠ some name') :
    setInLines name' key' value' (setInLines name key value ls) =
      setInLines name key value (setInLines name' key' value' ls) := by
  obtain ⟨front, head, rest, rfl, first, heads⟩ := exists_first headed
  have isHead : isHeader head = true := by simp [isHeader, heads]
  have isHead' : isHeader (headerLine name') = true := isHeader_eq_true_iff.2 ⟨_, header'.heads⟩
  have blank : ∀ l ∈ separator (front ++ head :: rest), Text.isBlank l = true := by
    intro l member
    rw [eq_nil_of_mem_separator member]
    rfl
  have inFront : ∀ l ∈ front, headerName? l ≠ some name' := fun l member =>
    absent l (by simp [member])
  have behind : ∀ l ∈ rest, headerName? l ≠ some name' := fun l member =>
    absent l (by simp [member])
  have still := headerName?_ne_edited entry value inFront (headerName?_ne heads differ) behind
  have edited := setInLines_of_headed first heads key value
  calc
    _ = front ++ head :: setInBlock key value rest ++ separator (front ++ head :: rest) ++
          [headerLine name', entryLine key' value'] := by
        rw [edited, setInLines_of_absent still, separator_setInBlock entry isHead]
    _ = setInLines name key value (front ++ head :: (rest ++ separator (front ++ head :: rest) ++
          headerLine name' :: [entryLine key' value'])) := by
        rw [edited, setInBlock_append_header isHead', setInBlock_append_blank blank]
        simp
    _ = _ := by
        rw [setInLines_of_absent absent]
        simp

include entry entry' in
/-- Edits of one section for two keys commute when its first block sets one of them. -/
theorem setInLines_comm_of_set (headed : ∃ l ∈ ls, headerName? l = some name)
    (differ : key ≠ key') (set : ∃ l ∈ firstBlock name ls, keyName? l = some key) :
    setInLines name key' value' (setInLines name key value ls) =
      setInLines name key value (setInLines name key' value' ls) := by
  obtain ⟨front, head, rest, rfl, first, heads⟩ := exists_first headed
  obtain ⟨body, tail, rfl, inside, ends⟩ := exists_block rest
  have insideThen : ∀ {k : Text}, EntryKey k → ∀ v, ∀ l ∈ setInBody k v body,
      isHeader l = false := by
    intro k known v l member
    rcases mem_setInBody member with rfl | old
    · exact known.isHeader_entryLine v
    · exact inside l old
  rw [firstBlock_of_headed inside ends first heads] at set
  rw [setInLines_of_headed first heads, setInLines_of_headed first heads,
    setInLines_of_headed first heads, setInLines_of_headed first heads,
    setInBlock_append inside ends, setInBlock_append inside ends,
    setInBlock_append (insideThen entry value) ends,
    setInBlock_append (insideThen entry' value') ends,
    setInBody_comm entry entry' differ set]

end Comm

/-- Edits of two entries commute, unless both add a section or both add a line to one block. -/
theorem setInLines_comm (header : HeaderName name) (header' : HeaderName name')
    (entry : EntryKey key) (entry' : EntryKey key') (differ : name ≠ name' ∨ key ≠ key')
    (headed : ∃ l ∈ ls, headerName? l = some name ∨ headerName? l = some name')
    (set : name = name' → ∃ l ∈ firstBlock name ls, keyName? l = some key ∨ keyName? l = some key')
    (value value' : Text) :
    setInLines name' key' value' (setInLines name key value ls) =
      setInLines name key value (setInLines name' key' value' ls) := by
  by_cases same : name = name'
  · subst same
    have differ : key ≠ key' := differ.resolve_left fun other => other rfl
    have headed : ∃ l ∈ ls, headerName? l = some name := by simpa using headed
    obtain ⟨l, member, sets | sets⟩ := set rfl
    · exact setInLines_comm_of_set entry entry' value value' headed differ ⟨l, member, sets⟩
    · exact (setInLines_comm_of_set entry' entry value' value headed differ.symm
        ⟨l, member, sets⟩).symm
  · by_cases there : ∃ l ∈ ls, headerName? l = some name
    · by_cases there' : ∃ l ∈ ls, headerName? l = some name'
      · exact setInLines_comm_of_headed entry entry' value value' there there' same
      · exact setInLines_comm_of_absent header' entry value value' there same
          (by simpa using there')
    · obtain ⟨l, member, heads | heads⟩ := headed
      · exact absurd ⟨l, member, heads⟩ there
      · exact (setInLines_comm_of_absent header entry' value' value ⟨l, member, heads⟩
          (Ne.symm same) (by simpa using there)).symm

/-! ## Two edits of a text -/

/-- **Edits of different entries commute**, character for character, whatever the text says and
whatever its line breaks are, unless it ends with a carriage return alone. One of the two sections
has a header; and if both are the same, its first block sets one of the two keys. -/
theorem setLine_comm {t value value' : Text} (noReturn : t.getLast? ≠ some '\r')
    (header : HeaderName name) (header' : HeaderName name') (entry : EntryKey key)
    (entry' : EntryKey key') (oneLine : OneLine value) (oneLine' : OneLine value')
    (differ : (name, key) ≠ (name', key'))
    (headed : ∃ line ∈ t.lines, Heads name line ∨ Heads name' line)
    (set : name = name' →
      ∃ line ∈ firstBlock name t.lines, Sets key line ∨ Sets key' line) :
    setLine (setLine t name key value) name' key' value' =
      setLine (setLine t name' key' value') name key value := by
  have different : name ≠ name' ∨ key ≠ key' := by
    rw [← not_and_or]
    rintro ⟨rfl, rfl⟩
    exact differ rfl
  have lines := setInLines_comm header header' entry entry' different
    (by simpa only [headerName?_eq_some_iff] using headed)
    (by simpa only [keyName?_eq_some_iff] using set) value value'
  rw [setLine_of_setLine noReturn header entry oneLine,
    setLine_of_setLine noReturn header' entry' oneLine', lines]

/-- A key is replaced and another one added to the same section of a text that cannot be read and
has both kinds of line breaks. -/
theorem setLine_comm_mixed :
    setLine (setLine "[b\n[a]\r\nx = 1\n \n[c]" "a" "x" "2") "a" "region" "eu" =
        "[b\r\n[a]\r\nx = 2\r\nregion = eu\r\n \r\n[c]\r\n" ∧
      setLine (setLine "[b\n[a]\r\nx = 1\n \n[c]" "a" "region" "eu") "a" "x" "2" =
        "[b\r\n[a]\r\nx = 2\r\nregion = eu\r\n \r\n[c]\r\n" := by
  have edited : setLine (setLine "[b\n[a]\r\nx = 1\n \n[c]" "a" "x" "2") "a" "region" "eu" =
      "[b\r\n[a]\r\nx = 2\r\nregion = eu\r\n \r\n[c]\r\n" := by decide +kernel
  have lines : Text.lines "[b\n[a]\r\nx = 1\n \n[c]" = ["[b", "[a]", "x = 1", " ", "[c]"] := by
    decide +kernel
  have block : firstBlock "a" (Text.lines "[b\n[a]\r\nx = 1\n \n[c]") = ["x = 1", " "] := by
    rw [lines]
    decide +kernel
  have heads : headerName? "[a]" = some "a" := by decide +kernel
  have sets : keyName? "x = 1" = some "x" := by decide +kernel
  have noReturn : ("[b\n[a]\r\nx = 1\n \n[c]" : Text).getLast? ≠ some '\r' := by decide
  have header : HeaderName "a" := by decide
  have entry : EntryKey "x" := by decide
  have entry' : EntryKey "region" := by decide
  have oneLine : OneLine "2" := by decide
  have oneLine' : OneLine "eu" := by decide
  have swapped := setLine_comm noReturn header header entry entry' oneLine oneLine' (by decide)
    ⟨"[a]", by rw [lines]; decide, .inl (headerName?_eq_some_iff.1 heads)⟩
    (fun _ => ⟨"x = 1", by rw [block]; decide, .inl (keyName?_eq_some_iff.1 sets)⟩)
  exact ⟨edited, swapped.symm.trans edited⟩

/-- Two sections that are both added come in the order of the edits. -/
example : setLine (setLine [] "a" "x" "1") "b" "x" "1" ≠
    setLine (setLine [] "b" "x" "1") "a" "x" "1" := by decide +kernel

end ProfilePicker.Ini
