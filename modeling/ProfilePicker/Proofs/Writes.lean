import ProfilePicker.Proofs.Outcomes

/-!
# What a write leaves on the disk

A write makes the directories on the way to its file and then the file, and it can fail at every
step. Whatever becomes of it, a place away from its file is as it was before, or it is on the way
and a directory stands where nothing stood. So a file that does not meet the written one is spared,
and so is the written one itself when the write fails.
-/
namespace ProfilePicker

namespace Disk

variable {d d' d'' : Disk} {path other : Text}

/-! ## Directories that are made -/

/-- A place where nothing has changed, or where one of the wanted directories has been made. -/
def Opens (ps : List Place) (d d' : Disk) (p : Place) : Prop :=
  d'.node p = d.node p ∨
    p ∈ ps ∧ d.node p = none ∧ isOverlong p = false ∧ d'.node p = some .directory

/-- Making directories makes directories, and only where they are wanted. -/
theorem opens_makeDirectories (d : Disk) (ps : List Place) (p : Place) :
    Opens ps d (d.makeDirectories ps).1 p := by
  induction ps generalizing d with
  | nil => exact .inl rfl
  | cons q ps ih =>
    rw [makeDirectories]
    split
    · rcases ih d with same | ⟨member, made⟩
      · exact .inl same
      · exact .inr ⟨.tail q member, made⟩
    · exact .inl rfl
    · rename_i nothing
      split
      · exact .inl rfl
      · rename_i fits
        by_cases here : p = q
        · subst here
          have stands : (d.put p .directory).node p = some .directory := if_pos rfl
          rcases ih (d.put p .directory) with same | ⟨-, absent, -⟩
          · exact .inr ⟨List.mem_cons_self, nothing, by simpa using fits, same.trans stands⟩
          · rw [stands] at absent
            cases absent
        · have away : (d.put q .directory).node p = d.node p := if_neg here
          rcases ih (d.put q .directory) with same | ⟨member, absent, made⟩
          · exact .inl (same.trans away)
          · exact .inr ⟨.tail q member, away ▸ absent, made⟩

/-- The program still runs in the same directory. -/
theorem directory_makeDirectories (d : Disk) (ps : List Place) :
    (d.makeDirectories ps).1.directory = d.directory := by
  induction ps generalizing d with
  | nil => rfl
  | cons q ps ih =>
    rw [makeDirectories]
    split
    · exact ih d
    · rfl
    · split
      · rfl
      · exact ih (d.put q .directory)

/-- One disk is another one with some of the directories on the way of a path. -/
structure MakesWay (d : Disk) (path : Text) (d' : Disk) : Prop where
  /-- The program still runs in the same directory. -/
  directory : d'.directory = d.directory
  /-- Every place is as it was, or a directory on the way. -/
  node : ∀ p, Opens (Path.way d.directory path) d d' p

/-- Making the way of a path makes directories on it. -/
theorem makesWay_makeWay (d : Disk) (path : Text) : d.MakesWay path (d.makeWay path).1 := by
  rw [makeWay]
  split
  · exact ⟨rfl, fun p => .inl rfl⟩
  · exact ⟨directory_makeDirectories d _, opens_makeDirectories d _⟩

/-! ## Files that are written -/

/-- Whether a write succeeds does not depend on what is written, and one that succeeds puts it in
its place. -/
theorem write_eq (d : Disk) (path : Text) :
    (∃ r, ∀ c, d.write path c = .error r) ∨
      ∃ mode, ∀ c, d.write path c = .ok (d.put (d.place path) (.file c mode)) := by
  simp only [write]
  split
  · exact .inl ⟨_, fun _ => rfl⟩
  · split
    · exact .inl ⟨_, fun _ => rfl⟩
    · split
      · exact .inl ⟨_, fun _ => rfl⟩
      · exact .inr ⟨_, fun _ => rfl⟩
      · split
        · exact .inl ⟨_, fun _ => rfl⟩
        · exact .inr ⟨_, fun _ => rfl⟩

/-- A mode changes nothing but its file. -/
theorem setMode_away (d : Disk) (path : Text) (mode : Nat) :
    (d.setMode path mode).directory = d.directory ∧
      ∀ p, p ≠ d.place path → (d.setMode path mode).node p = d.node p := by
  rw [setMode]
  split
  · exact ⟨rfl, fun p away => if_neg away⟩
  · exact ⟨rfl, fun p away => rfl⟩

/-- One disk is another one after a file with some content has been left at a path. -/
structure Leaves (d : Disk) (path : Text) (c : Content) (d' : Disk) : Prop where
  /-- The program still runs in the same directory. -/
  directory : d'.directory = d.directory
  /-- The content is found. -/
  content : d'.content path = .ok c
  /-- Every other place is as it was, or a directory on the way. -/
  node : ∀ p, p ≠ d.place path → Opens (Path.way d.directory path) d d' p

/-- One disk is another one after a text has been written at a path. -/
abbrev Puts (d : Disk) (path s : Text) (d' : Disk) : Prop := d.Leaves path (.text s) d'

/-- The text can be read. -/
theorem Leaves.read {s : Text} (puts : d.Puts path s d') : d'.read path = .ok s :=
  read_of_content puts.content

/-- A content written once the way is made. -/
theorem MakesWay.leaves {c : Content} (way : d.MakesWay path d')
    (done : d'.write path c = .ok d'') : d.Leaves path c d'' := by
  have place : d'.place path = d.place path := congrArg (Path.place · path) way.directory
  have found := content_of_write done
  rcases d'.write_eq path with ⟨r, failed⟩ | ⟨mode, put⟩
  · cases (failed _).symm.trans done
  cases (put _).symm.trans done
  refine ⟨way.directory, found, fun p away => ?_⟩
  have same : (d'.put (d'.place path) (.file c mode)).node p = d'.node p := if_neg (place ▸ away)
  rw [Opens, same]
  exact way.node p

/-- The mode of a written file does not matter. -/
theorem Leaves.setMode {s : Text} (puts : d.Puts path s d') (mode : Nat) :
    d.Puts path s (d'.setMode path mode) := by
  obtain ⟨directory, others⟩ := setMode_away d' path mode
  have place : d'.place path = d.place path := congrArg (Path.place · path) puts.directory
  refine ⟨directory.trans puts.directory, content_setMode puts.read mode, fun p away => ?_⟩
  rw [Opens, others p (place ▸ away)]
  exact puts.node p away

/-! ## Files that are spared -/

/-- The file at a path, if a file stands there: its content and its mode. -/
def file? (d : Disk) (path : Text) : Option (Content × Nat) :=
  match d.node (d.place path) with
  | some (.file c mode) => some (c, mode)
  | _ => none

/-- One disk is another one with the same file at a path. -/
structure Spares (d : Disk) (path : Text) (d' : Disk) : Prop where
  /-- The program still runs in the same directory. -/
  directory : d'.directory = d.directory
  /-- The file is the same in content and mode, or there is none, as before. -/
  file : d'.file? path = d.file? path
  /-- So is whatever stands at its place, unless the path itself asks for a directory there. -/
  node : d.place path ∉ Path.way d.directory path → d'.node (d.place path) = d.node (d.place path)
  /-- A file that could be read still can. -/
  content : ∀ c, d.content path = .ok c → d'.content path = .ok c

/-- What is spared twice is spared. -/
theorem Spares.trans (first : d.Spares path d') (second : d'.Spares path d'') :
    d.Spares path d'' := by
  have place : d'.place path = d.place path := congrArg (Path.place · path) first.directory
  refine ⟨second.directory.trans first.directory, second.file.trans first.file, fun outside => ?_,
    fun c read => second.content c (first.content c read)⟩
  have later := second.node
  rw [place, first.directory] at later
  exact (later outside).trans (first.node outside)

/-- A text that could be read still can. -/
theorem Spares.read {s : Text} (spares : d.Spares path d') (read : d.read path = .ok s) :
    d'.read path = .ok s := by
  rw [Disk.read] at read ⊢
  split at read
  · cases read
  · rename_i t found
    cases read
    rw [spares.content _ found]
  · cases read

/-- What makes a file readable: a way of directories and the file at its end. -/
theorem content_eq_ok_iff {c : Content} : d.content path = .ok c ↔
    path ≠ [] ∧ unusable? path = none ∧ Path.demandsDirectory path = false ∧
      (∀ p ∈ Path.way d.directory path, d.node p = some .directory) ∧
      ∃ mode, d.node (d.place path) = some (.file c mode) := by
  constructor
  · intro read
    rw [content] at read
    split at read
    · cases read
    · rename_i free
      obtain ⟨nonempty, usable, clear⟩ := usable_of_hindrance? free
      split at read
      · cases read
      · cases read
      · rename_i c' mode node
        split at read
        · cases read
        · rename_i asks
          cases read
          exact ⟨nonempty, usable, by simpa using asks, clear, mode, node⟩
  · rintro ⟨nonempty, usable, asksFile, clear, mode, node⟩
    have filled : path.isEmpty = false := by simpa using nonempty
    have free : d.hindrance? path = none := by
      rw [hindrance?, filled, usable, obstacle?_eq_none_iff.2 clear]
      rfl
    simp only [content, free, node, asksFile]
    rfl

section Opened

variable {ps : List Place} (directory : d'.directory = d.directory)
  (way : ∀ p ∈ Path.way d.directory path, Opens ps d d' p) (here : Opens ps d d' (d.place path))

include directory way here in
/-- A file is spared where nothing happens but directories being made. -/
theorem spares_of_opens (own : d.place path ∈ ps → d.place path ∈ Path.way d.directory path) :
    d.Spares path d' := by
  have place : d'.place path = d.place path := congrArg (Path.place · path) directory
  refine ⟨directory, ?_, fun outside => ?_, fun c read => ?_⟩
  · rw [file?, file?, place]
    rcases here with same | ⟨-, nothing, -, made⟩
    · rw [same]
    · rw [nothing, made]
  · rcases here with same | ⟨member, -⟩
    · exact same
    · exact absurd (own member) outside
  · obtain ⟨nonempty, usable, asksFile, clear, mode, node⟩ := content_eq_ok_iff.1 read
    refine content_eq_ok_iff.2 ⟨nonempty, usable, asksFile, fun p member => ?_, mode, ?_⟩
    · rw [directory] at member
      rcases way p member with same | ⟨-, -, -, made⟩
      · rw [same, clear p member]
      · exact made
    · rw [place]
      rcases here with same | ⟨-, nothing, -⟩
      · rw [same, node]
      · rw [nothing] at node
        cases node

include directory way here in
/-- So does what a file holds, or the room for it, stay there. -/
theorem holds_of_opens (own : d.place path ∈ ps → d.place path ∈ Path.way d.directory path)
    {content : Option Text} (holds : d.Holds path content) : d'.Holds path content := by
  have accepts := holds.accepts
  have place : d'.place path = d.place path := congrArg (Path.place · path) directory
  have node : d'.node (d.place path) = d.node (d.place path) :=
    here.resolve_right fun made => accepts.outside (own made.1)
  have still : d'.Accepts path := by
    refine ⟨accepts.nonempty, accepts.usable, accepts.asksFile, fun p member => ?_, ?_, ?_⟩
    · rw [directory] at member
      rcases way p member with same | ⟨-, -, -, made⟩
      · rw [Passable, same]
        exact accepts.passable p member
      · exact .inl made
    · rw [place, directory]
      exact accepts.outside
    · rw [place, node]
      exact accepts.room
  cases content with
  | none =>
    refine holds_absent_iff.2 ⟨still, ?_⟩
    rw [place, node]
    exact (holds_absent_iff.1 holds).2
  | some s =>
    obtain ⟨-, clear, found⟩ := holds_text_iff.1 holds
    refine holds_text_iff.2 ⟨still, fun p member => ?_, ?_⟩
    · rw [directory] at member
      rcases way p member with same | ⟨-, -, -, made⟩
      · rw [same, clear p member]
      · exact made
    · rw [place, node]
      exact found

end Opened

/-- A write that fails spares its own file. -/
theorem MakesWay.spares (makes : d.MakesWay path d') : d.Spares path d' :=
  spares_of_opens makes.directory (fun p _ => makes.node p) (makes.node _) id

/-- Its own file holds what it did. -/
theorem MakesWay.holds (makes : d.MakesWay path d') {content : Option Text}
    (holds : d.Holds path content) : d'.Holds path content :=
  holds_of_opens makes.directory (fun p _ => makes.node p) (makes.node _) id holds

/-- It spares all files that do not meet it. -/
theorem MakesWay.spares_other (makes : d.MakesWay path d')
    (apart : Path.Apart d.directory path other) : d.Spares other d' :=
  spares_of_opens makes.directory (fun p _ => makes.node p) (makes.node _)
    fun member => absurd member apart.second

/-- On the way to another file, a write makes directories at most. -/
theorem Leaves.opens_way {c : Content} (leaves : d.Leaves path c d')
    (apart : Path.Apart d.directory path other) :
    ∀ p ∈ Path.way d.directory other, Opens (Path.way d.directory path) d d' p := by
  intro p member
  refine leaves.node p fun same => ?_
  rw [same] at member
  exact apart.first member

/-- It spares all files that do not meet its own. -/
theorem Leaves.spares_other {c : Content} (leaves : d.Leaves path c d')
    (apart : Path.Apart d.directory path other) : d.Spares other d' :=
  spares_of_opens leaves.directory (leaves.opens_way apart) (leaves.node _ apart.ne.symm)
    fun member => absurd member apart.second

/-- All files that do not meet it hold what they did. -/
theorem Leaves.holds_other {c : Content} (leaves : d.Leaves path c d')
    (apart : Path.Apart d.directory path other) {content : Option Text}
    (holds : d.Holds other content) : d'.Holds other content :=
  holds_of_opens leaves.directory (leaves.opens_way apart) (leaves.node _ apart.ne.symm)
    (fun member => absurd member apart.second) holds

/-- Also after a write that fails. -/
theorem MakesWay.holds_other (makes : d.MakesWay path d')
    (apart : Path.Apart d.directory path other) {content : Option Text}
    (holds : d.Holds other content) : d'.Holds other content :=
  holds_of_opens makes.directory (fun p _ => makes.node p) (makes.node _)
    (fun member => absurd member apart.second) holds

/-! ## What a file held before -/

/-- What a write goes by: the text of the file that stands at a path, or nothing where no file can
be found. -/
def Before (d : Disk) (path : Text) : Option Text → Prop
  | some s => ∃ mode, d.node (d.place path) = some (.file (.text s) mode)
  | none => d.read path = .error .missing

/-- What a reader finds is what the file holds. -/
theorem Finds.before {content : Option Text} (finds : d.Finds path content) :
    d.Before path content := by
  cases content with
  | none => exact finds
  | some s => exact (accepts_of_read finds).2.2

/-- What is missing is missed by a reader of bytes, too. -/
theorem content_eq_missing_iff :
    d.content path = .error .missing ↔ d.read path = .error .missing := by
  rw [read]
  constructor
  · intro missing
    rw [missing]
  · intro missing
    split at missing
    · rename_i r found
      cases missing
      exact found
    · cases missing
    · cases missing

/-- Directories that are made remove obstacles. -/
theorem obstacle?_of_opens {ps qs : List Place} (opens : ∀ p ∈ qs, Opens ps d d' p) :
    d.obstacle? qs = d'.obstacle? qs ∨ d.obstacle? qs = some .missing := by
  induction qs with
  | nil => exact .inl rfl
  | cons q qs ih =>
    rcases opens q List.mem_cons_self with same | ⟨-, nothing, fits, -⟩
    · rw [obstacle?, obstacle?, same]
      split
      · exact .inl rfl
      · exact .inl rfl
      · exact ih fun p member => opens p (.tail q member)
    · right
      simp [obstacle?, nothing, absence, fits]

section Missing

variable {ps : List Place} (directory : d'.directory = d.directory)
  (way : ∀ p ∈ Path.way d.directory path, Opens ps d d' p) (here : Opens ps d d' (d.place path))

include directory way here in
/-- A file that is missing was missing before the directories were made. -/
theorem read_missing_of_opens (missing : d'.read path = .error .missing) :
    d.read path = .error .missing := by
  have place : d'.place path = d.place path := congrArg (Path.place · path) directory
  have noSuch : ∀ {r : Refusal}, unusable? path = some r → r ≠ .missing := by
    intro r unusable same
    subst same
    rw [unusable?] at unusable
    split at unusable
    · cases unusable
    · split at unusable <;> cases unusable
  rw [← content_eq_missing_iff] at missing ⊢
  by_cases empty : path = []
  · subst empty
    rfl
  · have filled : path.isEmpty = false := by simpa using empty
    have hindered : ∀ e : Disk, e.hindrance? path =
        (unusable? path).or (e.obstacle? (Path.way e.directory path)) := by
      intro e
      rw [hindrance?, filled]
      rfl
    rw [content, hindered] at missing ⊢
    cases usable : unusable? path with
    | some r =>
      rw [usable] at missing
      exact absurd (Except.error.inj missing) (noSuch usable)
    | none =>
      rw [usable, directory, Option.none_or] at missing
      rw [Option.none_or]
      rcases obstacle?_of_opens way with same | obstacle
      · rw [same]
        split at missing
        · exact missing
        · rw [place] at missing
          rcases here with stays | ⟨-, -, -, made⟩
          · rw [stays] at missing
            exact missing
          · rw [made] at missing
            cases missing
      · rw [obstacle]

include directory way here in
/-- What is found was there before the directories were made. -/
theorem before_of_opens {content : Option Text} (finds : d'.Finds path content) :
    d.Before path content := by
  cases content with
  | none => exact read_missing_of_opens directory way here finds
  | some t =>
    obtain ⟨mode, node⟩ := finds.before
    have place : d'.place path = d.place path := congrArg (Path.place · path) directory
    rw [place] at node
    rcases here with same | ⟨-, -, -, made⟩
    · exact ⟨mode, same ▸ node⟩
    · rw [made] at node
      cases node

end Missing

/-- What is found after another file has been written was there before. -/
theorem Leaves.before {c : Content} (leaves : d.Leaves path c d')
    (apart : Path.Apart d.directory path other) {content : Option Text}
    (finds : d'.Finds other content) : d.Before other content :=
  before_of_opens leaves.directory (leaves.opens_way apart) (leaves.node _ apart.ne.symm) finds

/-- So was what is found after a write that fails. -/
theorem MakesWay.before (makes : d.MakesWay path d') {content : Option Text}
    (finds : d'.Finds other content) : d.Before other content :=
  before_of_opens makes.directory (fun p _ => makes.node p) (makes.node _) finds

end Disk

/-! ## Writes of a store -/

namespace Store

/-- A write fails on its way or puts its text. -/
theorem writing_cases (store : Store) (t : Text) (d : Disk) :
    (∃ fault, (store.writing t d).1 = .error fault ∧ d.MakesWay store.path (store.writing t d).2) ∨
      (store.writing t d).1 = .ok () ∧ d.Puts store.path t (store.writing t d).2 := by
  have way := d.makesWay_makeWay store.path
  obtain ⟨⟨made, obstacle⟩, same⟩ : ∃ made, d.makeWay store.path = made := ⟨_, rfl⟩
  rw [same] at way
  cases obstacle with
  | some cause =>
    rw [writing_of_obstacle same]
    exact .inl ⟨_, rfl, way⟩
  | none =>
    cases done : made.write store.path (.text t) with
    | error cause =>
      rw [writing_of_way same, filling_of_refused done]
      exact .inl ⟨_, rfl, way⟩
    | ok written =>
      have puts := way.leaves done
      rw [writing_of_way same, filling_of_written done]
      refine .inr ⟨rfl, ?_⟩
      dsimp only
      split
      · exact puts.setMode ownerOnly
      · exact puts

/-- A write that succeeds puts its text. -/
theorem puts_of_writing {store : Store} {t : Text} {d : Disk}
    (done : (store.writing t d).1 = .ok ()) : d.Puts store.path t (store.writing t d).2 := by
  rcases store.writing_cases t d with ⟨fault, failed, -⟩ | ⟨-, puts⟩
  · rw [done] at failed
    cases failed
  · exact puts

/-- A write that fails has made directories on the way. -/
theorem makesWay_of_writing {store : Store} {t : Text} {d : Disk} {fault : Fault}
    (failed : (store.writing t d).1 = .error fault) :
    d.MakesWay store.path (store.writing t d).2 := by
  rcases store.writing_cases t d with ⟨_, -, makes⟩ | ⟨done, -⟩
  · exact makes
  · rw [done] at failed
    cases failed

/-- A write to a file that can be read succeeds. -/
theorem writing_ok {store : Store} {s : Text} {d : Disk} (read : d.read store.path = .ok s)
    (t : Text) : (store.writing t d).1 = .ok () := by
  have holds : d.Holds store.path (some s) := .text read
  obtain ⟨written, -, done⟩ := writing_of_holds holds t
  exact congrArg Prod.fst done

end Store

end ProfilePicker
