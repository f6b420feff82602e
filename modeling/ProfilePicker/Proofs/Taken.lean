import ProfilePicker.Proofs.Lookup
import ProfilePicker.Proofs.Pieces

/-!
# Items as they are taken

Whatever a settings text says, the name of a header is a trimmed piece of it up to a closing
bracket, and a value is a trimmed piece of it. So no name and no value that is read has a blank at
either end, and no name has a bracket in it that a backslash does not protect.
-/
namespace ProfilePicker.Ini

open Text (Trimmed)

/-- What is known of an item, whatever it is taken from. -/
def Item.Taken : Item → Prop
  | .header name => Trimmed name ∧ endsWithin (· = ']') name = false
  | .entry _ value => Trimmed value

/-- A header that is read is taken from the text. -/
theorem taken_of_header {last : Option Placed} {key : Text} {s : List Placed} {t : Turn}
    (done : header last key s = .ok t) : ∀ item ∈ t.item, item.Taken := by
  rw [header] at done
  split at done
  · cases done
  · rename_i name q rest found
    cases done
    rintro item ⟨rfl⟩
    have whole : endsWithin (· = ']') (takeUntil (· = ']') s).1 = false :=
      endsWithin_takeUntil (by decide) s
    rw [found] at whole
    exact ⟨Text.trimmed_trim _, endsWithin_trim whole⟩

/-- The item of a turn is taken from the text. -/
theorem taken_of_turn {last : Option Placed} {key : Text} {p : Placed} {rest : List Placed}
    {t : Turn} (done : turn last key p rest = .ok t) : ∀ item ∈ t.item, item.Taken := by
  simp only [turn] at done
  split at done
  · split at done <;> cases done
    simp
  split at done
  · exact taken_of_header done
  split at done
  · split at done <;> cases done
    rintro item ⟨rfl⟩
    exact Text.trimmed_trim _
  split at done
  · cases more : rest.dropWhile (isIndent ·.char) with
    | nil =>
      rw [more] at done
      cases done
      simp
    | cons q after =>
      rw [more] at done
      simp only [indented] at done
      split at done
      · exact taken_of_header done
      split at done <;> cases done <;> simp
  split at done
  · cases done
    simp
  · split at done <;> cases done
    simp

/-- All items that are left to read are taken from the text. -/
theorem taken_of_mem_itemsFrom {last : Option Placed} {key : Text} {s : List Placed}
    {all : List Item} (read : itemsFrom last key s = .ok all) : ∀ item ∈ all, item.Taken := by
  fun_induction itemsFrom last key s generalizing all with
  | case1 =>
    cases read
    simp
  | case2 => cases read
  | case3 => cases read
  | case4 key p rest t done shorter more found ih =>
    cases read
    intro item member
    rcases List.mem_append.1 member with here | later
    · exact taken_of_turn done item (by simpa using here)
    · exact ih found item later

/-- All items of a settings text are taken from it. -/
theorem taken_of_mem_items {s : Text} {all : List Item} (read : items s = .ok all) :
    ∀ item ∈ all, item.Taken := taken_of_mem_itemsFrom read

/-! ## Names and values of a document -/

/-- A name among the headers is the one of a header. -/
theorem mem_of_mem_headersIn {name : Text} {all : List Item} (member : name ∈ headersIn all) :
    .header name ∈ all := by
  obtain ⟨item, inside, heads⟩ := List.mem_filterMap.1 member
  cases item with
  | header n =>
    cases heads
    exact inside
  | entry k v => cases heads

/-- A value before the next header is the one of an entry. -/
theorem mem_of_entryIn {key value : Text} {all : List Item} (found : entryIn key all = some value) :
    .entry key value ∈ all := by
  induction all with
  | nil => cases found
  | cons item all ih =>
    cases item with
    | header n => cases found
    | entry k v =>
      rw [entryIn] at found
      split at found
      · rename_i same
        cases found
        rw [same]
        exact List.mem_cons_self
      · exact List.mem_cons_of_mem _ (ih found)

/-- A value of a section has a header of its name, and an entry. -/
theorem mem_of_valueIn {name key value : Text} {all : List Item}
    (found : valueIn name key all = some value) :
    name ∈ headersIn all ∧ .entry key value ∈ all := by
  induction all with
  | nil => cases found
  | cons item all ih =>
    cases item with
    | header n =>
      rw [valueIn] at found
      split at found
      · rename_i same
        exact ⟨by simp [same], List.mem_cons_of_mem _ (mem_of_entryIn found)⟩
      · exact ⟨by simp [(ih found).1], List.mem_cons_of_mem _ (ih found).2⟩
    | entry k v => exact ⟨(ih found).1, List.mem_cons_of_mem _ (ih found).2⟩

/-- The name of a section is trimmed, and no bracket in it closes a header. -/
theorem taken_of_mem_headersIn {s name : Text} {all : List Item} (read : items s = .ok all)
    (member : name ∈ headersIn all) : Trimmed name ∧ endsWithin (· = ']') name = false :=
  taken_of_mem_items read _ (mem_of_mem_headersIn member)

/-- A value that is looked up in a document that has been read is trimmed, and so is the name of
its section, which is there. -/
theorem Document.trimmed_of_get? {s name key value : Text} {d : Document}
    (read : parse s = .ok d) (found : d.get? name key = some value) :
    name ∈ d.sections ∧ Trimmed name ∧ Trimmed value := by
  obtain ⟨all, listed, rfl⟩ := items_of_parse read
  obtain ⟨heads, inside⟩ := mem_of_valueIn ((get?_ofItems name key all).symm.trans found)
  refine ⟨?_, (taken_of_mem_headersIn listed heads).1, taken_of_mem_items listed _ inside⟩
  rw [sections, names_ofItems, mem_distinct]
  exact heads

end ProfilePicker.Ini
