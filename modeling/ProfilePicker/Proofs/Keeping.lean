import ProfilePicker.Proofs.ClosedTexts
import ProfilePicker.Proofs.Outcomes

/-!
# What an edit keeps

An edit is made for one pair of a section and a key. It keeps everything else when no section
is lost and no other look-up changes. In a plain text this depends on the end of the value
alone: a value on one line keeps everything else unless it leaves its line open.
-/
namespace ProfilePicker

namespace Ini

open Text (OneLine shortEnding)

/-- One document keeps all sections of another one, and all its values but those of some pairs. -/
structure Keeps (written : Text → Text → Prop) (before after : Document) : Prop where
  /-- No section is lost. -/
  sections : ∀ name ∈ before.sections, name ∈ after.sections
  /-- No other look-up changes. -/
  values : ∀ name key, ¬ written name key → after.get? name key = before.get? name key

/-- What is kept twice is kept. -/
theorem Keeps.trans {written more : Text → Text → Prop} {before between after : Document}
    (first : Keeps written before between) (second : Keeps more between after) :
    Keeps (fun name key => written name key ∨ more name key) before after where
  sections name member := second.sections name (first.sections name member)
  values name key other := by
    rw [not_or] at other
    rw [second.values name key other.2, first.values name key other.1]

/-- What is kept stays kept when more pairs may change. -/
theorem Keeps.mono {written more : Text → Text → Prop} {before after : Document}
    (kept : Keeps written before after) (part : ∀ name key, written name key → more name key) :
    Keeps more before after where
  sections := kept.sections
  values name key other := kept.values name key (mt (part name key) other)

/-- Everything is kept where nothing changes. -/
theorem Keeps.refl (written : Text → Text → Prop) (d : Document) : Keeps written d d :=
  ⟨fun _ member => member, fun _ _ _ => rfl⟩

/-- A value that stays within its line when it is written into a text. -/
structure Contained (s value : Text) : Prop where
  /-- It stands on one line. -/
  oneLine : OneLine value
  /-- It does not leave this line open in front of a short ending. -/
  closed : s.lineEnding = shortEnding → leavesOpen value = false

/-- The document of a text of closed lines. -/
def closedDocument (s : Text) : Document := ⟨s, .ofItems (itemsOf s.lines)⟩

/-- A text of closed lines is read as its document. -/
theorem ClosedText.parse_closedDocument {s : Text} (closedText : ClosedText s) :
    Document.parse s = .ok (closedDocument s) :=
  closedText.parse_eq

/-- The sections of such a document are those that lines head. -/
theorem mem_sections_closedDocument {s name : Text} :
    name ∈ (closedDocument s).sections ↔ name ∈ headersIn (itemsOf s.lines) := by
  change name ∈ (Contents.ofItems (itemsOf s.lines)).names ↔ _
  rw [names_ofItems, mem_distinct]

section Edit

variable {s name key value : Text} (closedText : ClosedText s) (plainName : PlainName name)
  (plainKey : PlainKey key) (contained : Contained s value)

include closedText plainName plainKey contained in
/-- An edit with a value that stays within its line keeps everything else. -/
theorem ClosedText.keeps :
    Keeps (fun n k => n = name ∧ k = key) (closedDocument s)
      (closedDocument (Ini.setLine s name key value)) := by
  have lines : (Ini.setLine s name key value).lines = setInLines name key value s.lines :=
    (closedText.setLine_lines plainName plainKey contained.oneLine contained.closed).1
  have headers := closedText.headersIn_setInLines plainName plainKey value
  refine ⟨fun n member => ?_, fun n k other => ?_⟩
  · rw [mem_sections_closedDocument] at member ⊢
    rw [lines, headers]
    split
    · exact member
    · exact List.mem_append_left _ member
  · change (Contents.ofItems (itemsOf (Ini.setLine s name key value).lines)).get? n k =
      (Contents.ofItems (itemsOf s.lines)).get? n k
    rw [get?_ofItems, get?_ofItems, lines]
    exact closedText.valueIn_other plainName plainKey value other

include closedText plainName plainKey contained in
/-- It leaves a text of closed lines. -/
theorem ClosedText.setLine_contained : ClosedText (Ini.setLine s name key value) :=
  closedText.setLine plainName plainKey contained.oneLine contained.closed

include closedText plainName plainKey contained in
/-- The same values stay within their lines in the edited text. -/
theorem Contained.setLine {other : Text} (also : Contained s other) :
    Contained (Ini.setLine s name key value) other := by
  have ended : (Ini.setLine s name key value).lineEnding = s.lineEnding :=
    (closedText.setLine_lines plainName plainKey contained.oneLine contained.closed).2
  refine ⟨also.oneLine, ?_⟩
  rw [ended]
  exact also.closed

end Edit

end Ini

open Ini (Document PlainName PlainText ClosedText closedDocument)

/-- The section of a profile with a plain name has a plain name too. -/
theorem Naming.plainName_sectionFor (naming : Naming) {profile : Text}
    (plain : PlainName profile) : PlainName (naming.sectionFor profile) := by
  cases naming with
  | verbatim => exact plain
  | prefixed =>
    by_cases bare : profile = defaultProfile
    · rw [sectionFor, if_pos bare]
      exact plain
    · rw [sectionFor, if_neg bare]
      have word : PlainName ['p', 'r', 'o', 'f', 'i', 'l', 'e'] := by decide
      have shape : profileWord ++ profile = ['p', 'r', 'o', 'f', 'i', 'l', 'e'] ++ ' ' :: profile :=
        rfl
      have last : (' ' :: profile).getLast? = profile.getLast? := by
        obtain ⟨c, rest, rfl⟩ := List.exists_cons_of_ne_nil plain.nonempty
        rw [List.getLast?_cons_cons]
      rw [shape]
      refine ⟨by simp, Text.trimmed_iff.2 ⟨fun c first => ?_, fun c found => ?_⟩,
        Text.oneLine_append.2 ⟨word.oneLine, fun c member => ?_⟩, fun member => ?_,
        fun member => ?_⟩
      · obtain rfl : 'p' = c := by simpa using first
        decide
      · rw [List.getLast?_append_of_ne_nil _ (by simp), last] at found
        exact (Text.trimmed_iff.1 plain.trimmed).2 c found
      · rcases List.mem_cons.1 member with rfl | member
        · decide
        · exact plain.oneLine c member
      · have inside : ']' ∈ profile := by simpa using member
        exact plain.noBracket inside
      · have inside : '\\' ∈ profile := by simpa using member
        exact plain.noBackslash inside

/-- A file that is absent or holds a plain text. -/
def Disk.Plain (disk : Disk) (path : Text) : Prop :=
  ∃ content, disk.Holds path content ∧ ∀ t, content = some t → PlainText t

/-- A store keeps everything that it held but the values of some pairs. -/
structure Store.Keeps (store : Store) (written : Text → Text → Prop) (before after : Disk) :
    Prop where
  /-- A file that was there still is. -/
  stays : store.exists? before = true → store.exists? after = true
  /-- A file that is there can be loaded. -/
  loads : store.exists? after = true → ∃ d, store.find after = .ok d
  /-- Everything else is as it was. -/
  kept : Ini.Keeps written (store.contents before) (store.contents after)

namespace Store

variable {store : Store} {disk disk' : Disk}

/-- The text of the file in a store, which is empty while there is no file. -/
def text (store : Store) (disk : Disk) : Text := (store.contents disk).text

/-- A file with closed lines is found. -/
theorem find_closed {t : Text} (holds : disk.Holds store.path (some t)) (closed : ClosedText t) :
    store.find disk = .ok (closedDocument t) :=
  find_of_finds holds.finds closed.parse_closedDocument

/-- What a plain file holds. -/
theorem plain_cases (store : Store) {disk : Disk} (plain : disk.Plain store.path) :
    PlainText (store.text disk) ∧ store.contents disk = closedDocument (store.text disk) ∧
      ∃ content, disk.Holds store.path content ∧ (∀ t, content = some t → PlainText t) ∧
        documentOf content = .ok (closedDocument (store.text disk)) := by
  obtain ⟨content, holds, plainText⟩ := plain
  obtain ⟨t, read, plain⟩ : ∃ t, documentOf content = .ok (closedDocument t) ∧ PlainText t := by
    cases content with
    | some t => exact ⟨t, (plainText t rfl).closed.parse_closedDocument, plainText t rfl⟩
    | none => exact ⟨[], rfl, Ini.plainText_nil⟩
  have contents := contents_eq store holds read
  have same : store.text disk = t := by
    rw [text, contents]
    rfl
  rw [same]
  exact ⟨plain, contents, content, holds, plainText, read⟩

/-- A plain file that nothing is written into keeps everything. -/
theorem keeps_of_holds {content : Option Text} (written : Text → Text → Prop)
    (before : disk.Holds store.path content) (after : disk'.Holds store.path content)
    (plain : ∀ t, content = some t → PlainText t) : store.Keeps written disk disk' := by
  obtain ⟨d, read⟩ : ∃ d, documentOf content = .ok d := by
    cases content with
    | some t => exact ⟨_, (plain t rfl).closed.parse_eq⟩
    | none => exact ⟨.empty, rfl⟩
  refine ⟨?_, fun there => ?_, ?_⟩
  · rw [exists?_eq store before, exists?_eq store after]
    exact id
  · rw [exists?_eq store after] at there
    obtain ⟨t, rfl⟩ := Option.isSome_iff_exists.1 there
    exact ⟨_, find_closed after (plain t rfl).closed⟩
  · rw [contents_eq store before read, contents_eq store after read]
    exact .refl written d

/-- A file that holds a closed text afterwards keeps what the text keeps. -/
theorem keeps_of_closed {t : Text} {written : Text → Text → Prop} {d : Document}
    (contents : store.contents disk = d) (after : disk'.Holds store.path (some t))
    (closed : ClosedText t) (kept : Ini.Keeps written d (closedDocument t)) :
    store.Keeps written disk disk' := by
  refine ⟨fun _ => exists?_eq store after, fun _ => ⟨_, find_closed after closed⟩, ?_⟩
  rw [contents, contents_eq store after closed.parse_closedDocument]
  exact kept

end Store

end ProfilePicker
