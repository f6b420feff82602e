import ProfilePicker.Disk.Basic

/-!
# Files on the disk

When the disk lets a text be written at a path, what it looks like afterwards, and which other
files stay as they are. The disk lets a file that is there be written again, and one that is not
be made when the way to it is clear; what a host refuses besides is left to the theory of hosts.
Two files do not meet when neither is a directory on the way to the other.
-/
namespace ProfilePicker

namespace Path

/-! ## The path of a directory is a part of the path of its file -/

/-- A path has at least one piece. -/
theorem pieces_ne_nil (path : Text) : pieces path ≠ [] := by
  cases path with
  | nil => simp [pieces]
  | cons c rest =>
    rw [pieces]
    split
    · simp
    · split <;> simp

/-- The pieces of a path make it up. -/
theorem joinPieces_pieces (path : Text) : joinPieces (pieces path) = path := by
  induction path with
  | nil => rfl
  | cons c rest ih =>
    obtain ⟨piece, more, shape⟩ := List.exists_cons_of_ne_nil (pieces_ne_nil rest)
    rw [shape] at ih
    by_cases slash : c = '/'
    · rw [pieces, if_pos slash, shape, slash, joinPieces, List.intercalate_cons_cons, ← joinPieces,
        ih]
      rfl
    · rw [pieces, if_neg slash, shape]
      cases more with
      | nil =>
        rw [joinPieces, List.intercalate_singleton] at ih ⊢
        rw [ih]
      | cons next more =>
        rw [joinPieces, List.intercalate_cons_cons] at ih ⊢
        rw [List.cons_append, List.cons_append, ih]

/-- The first pieces of a path are written where the path begins. -/
theorem joinPieces_prefix (front back : List Text) :
    joinPieces front <+: joinPieces (front ++ back) := by
  induction front with
  | nil => exact List.nil_prefix
  | cons piece front ih =>
    cases front with
    | nil =>
      cases back with
      | nil => exact List.prefix_rfl
      | cons next back =>
        rw [List.singleton_append, joinPieces, joinPieces, List.intercalate_singleton,
          List.intercalate_cons_cons, List.append_assoc]
        exact List.prefix_append _ _
    | cons next front =>
      rw [joinPieces, joinPieces, List.cons_append, List.cons_append, List.intercalate_cons_cons,
        List.intercalate_cons_cons, List.prefix_append_right_inj]
      exact ih

/-- The path before the last step is written where the path begins. -/
theorem upToLastStep_prefix (path : Text) : upToLastStep path <+: path := by
  have inner : (((pieces path).reverse.dropWhile isIdle).drop 1).dropWhile isIdle <:+
      (pieces path).reverse :=
    (List.dropWhile_suffix _).trans ((List.drop_suffix 1 _).trans (List.dropWhile_suffix _))
  rw [← List.reverse_prefix, List.reverse_reverse] at inner
  obtain ⟨back, whole⟩ := inner
  have front := joinPieces_prefix
    (((((pieces path).reverse.dropWhile isIdle).drop 1).dropWhile isIdle).reverse) back
  rw [whole, joinPieces_pieces] at front
  exact front

/-- Two texts take as many bytes as both of them. -/
theorem byteCount_append (s t : Text) : byteCount (s ++ t) = byteCount s + byteCount t := by
  have shift : ∀ (t : Text) (n : Nat),
      t.foldl (fun n c => n + c.utf8Size) n = n + byteCount t := by
    intro t
    induction t with
    | nil => exact fun n => rfl
    | cons c t ih =>
      intro n
      have first : byteCount (c :: t) = 0 + c.utf8Size + byteCount t := ih (0 + c.utf8Size)
      rw [List.foldl_cons, ih, first]
      omega
  rw [byteCount, List.foldl_append, ← byteCount, shift]

/-- Two files that do not meet: they are different, and neither is on the way to the other. -/
structure Apart (directory : Place) (path other : Text) : Prop where
  /-- The files are different. -/
  ne : place directory path ≠ place directory other
  /-- The first is no directory on the way to the second. -/
  first : place directory path ∉ way directory other
  /-- The second is no directory on the way to the first. -/
  second : place directory other ∉ way directory path

instance (directory : Place) (path other : Text) : Decidable (Apart directory path other) :=
  decidable_of_iff
    (place directory path ≠ place directory other ∧ place directory path ∉ way directory other ∧
      place directory other ∉ way directory path)
    ⟨fun ⟨ne, first, second⟩ => ⟨ne, first, second⟩,
    fun apart => ⟨apart.ne, apart.first, apart.second⟩⟩

/-- Not to meet is mutual. -/
theorem Apart.symm {directory : Place} {path other : Text} (apart : Apart directory path other) :
    Apart directory other path :=
  ⟨apart.ne.symm, apart.second, apart.first⟩

end Path

namespace Disk

variable {d : Disk} {path : Text}

/-! ## Directories on the way -/

/-- A directory stands at a place, or nothing does and a directory can be made there. -/
def Passable (d : Disk) (p : Place) : Prop :=
  d.node p = some .directory ∨ d.node p = none ∧ isOverlong p = false

/-- The disk with directories at some places. -/
def withDirectories (d : Disk) (ps : List Place) : Disk :=
  { d with node := fun p => if p ∈ ps then some .directory else d.node p }

/-- What stands at the places of a disk with more directories. -/
theorem node_withDirectories (d : Disk) (ps : List Place) (p : Place) :
    (d.withDirectories ps).node p = if p ∈ ps then some .directory else d.node p := rfl

/-- Directories do not change where paths lead. -/
@[simp]
theorem place_withDirectories (d : Disk) (ps : List Place) (path : Text) :
    (d.withDirectories ps).place path = d.place path := rfl

/-- A directory that is there already makes no difference. -/
theorem withDirectories_cons_of_directory {p : Place} (there : d.node p = some .directory)
    (ps : List Place) : d.withDirectories (p :: ps) = d.withDirectories ps := by
  rw [withDirectories, withDirectories]
  congr 1
  funext q
  by_cases same : q = p <;> simp [same, there]

/-- A new directory comes before those made after it. -/
theorem withDirectories_put (d : Disk) (p : Place) (ps : List Place) :
    (d.put p .directory).withDirectories ps = d.withDirectories (p :: ps) := by
  rw [withDirectories, withDirectories, put]
  congr 1
  funext q
  by_cases same : q = p <;> simp [same]

/-- A passable place stays so when a directory is made. -/
theorem Passable.put {p : Place} (passable : d.Passable p) (q : Place) :
    (d.put q .directory).Passable p := by
  by_cases same : p = q
  · left
    simp [Disk.put, same]
  · simpa [Passable, Disk.put, same] using passable

/-- Directories can be made at passable places. -/
theorem makeDirectories_eq {ps : List Place} (passable : ∀ p ∈ ps, d.Passable p) :
    d.makeDirectories ps = (d.withDirectories ps, none) := by
  induction ps generalizing d with
  | nil => simp [makeDirectories, withDirectories]
  | cons p ps ih =>
    have later : ∀ q ∈ ps, d.Passable q := fun q member => passable q (.tail p member)
    rcases passable p List.mem_cons_self with there | ⟨nothing, fits⟩
    · rw [makeDirectories, there, withDirectories_cons_of_directory there]
      exact ih later
    · simp only [makeDirectories, nothing, fits, Bool.false_eq_true, if_false]
      rw [ih fun q member => (later q member).put p, withDirectories_put]

/-- Places where directories could be made were passable. -/
theorem passable_of_makeDirectories {ps : List Place} (done : (d.makeDirectories ps).2 = none) :
    ∀ p ∈ ps, d.Passable p := by
  induction ps generalizing d with
  | nil => simp
  | cons p ps ih =>
    rw [makeDirectories] at done
    split at done
    · rename_i there
      intro q member
      rcases List.mem_cons.1 member with rfl | member
      · exact .inl there
      · exact ih done q member
    · cases done
    · rename_i nothing
      split at done
      · cases done
      · rename_i fits
        have here : d.Passable p := .inr ⟨nothing, by simpa using fits⟩
        intro q member
        rcases List.mem_cons.1 member with rfl | member
        · exact here
        · by_cases same : q = p
          · exact same ▸ here
          · simpa [Passable, put, same] using ih done q member

/-- The way is clear where all places on it are directories. -/
theorem obstacle?_eq_none_iff {ps : List Place} :
    d.obstacle? ps = none ↔ ∀ p ∈ ps, d.node p = some .directory := by
  induction ps with
  | nil => simp [obstacle?]
  | cons p ps ih =>
    rw [obstacle?, List.forall_mem_cons]
    split
    · simp [*]
    · simp [*]
    · simp [*]

/-- An obstacle on a passable way is a directory that is missing. -/
theorem obstacle?_of_passable {ps : List Place} (passable : ∀ p ∈ ps, d.Passable p) :
    d.obstacle? ps = none ∨ d.obstacle? ps = some .missing := by
  induction ps with
  | nil => exact .inl rfl
  | cons p ps ih =>
    rcases passable p List.mem_cons_self with there | ⟨nothing, fits⟩
    · rw [obstacle?, there]
      exact ih fun q member => passable q (.tail p member)
    · right
      simp [obstacle?, nothing, absence, fits]

/-! ## Files that can be written -/

/-- A path at which a text can be written. -/
structure Accepts (d : Disk) (path : Text) : Prop where
  /-- There is a path. -/
  nonempty : path ≠ []
  /-- It can be followed. -/
  usable : unusable? path = none
  /-- It does not ask for a directory. -/
  asksFile : Path.demandsDirectory path = false
  /-- All places on the way are directories or can be made ones. -/
  passable : ∀ p ∈ Path.way d.directory path, d.Passable p
  /-- The way does not lead through the file. -/
  outside : d.place path ∉ Path.way d.directory path
  /-- There is a file, or one can be made. -/
  room : (∃ content mode, d.node (d.place path) = some (.file content mode)) ∨
    d.node (d.place path) = none ∧ isOverlong (d.place path) = false

/-- A path that can be followed stays usable up to its last step. -/
theorem unusable?_of_front {front : Text} (part : front <+: path)
    (usable : unusable? path = none) : unusable? front = none := by
  obtain ⟨back, rfl⟩ := part
  simp only [unusable?, List.contains_eq_mem, List.mem_append, Path.byteCount_append,
    decide_eq_true_eq] at usable ⊢
  split at usable
  · cases usable
  · rename_i clean
    split at usable
    · cases usable
    · rename_i short
      rw [if_neg fun member => clean (.inl member), if_neg (by omega)]

/-- The way to a file that can be written can be made. -/
theorem Accepts.makeWay (accepts : d.Accepts path) :
    d.makeWay path = (d.withDirectories (Path.way d.directory path), none) := by
  rw [Disk.makeWay, unusable?_of_front (Path.upToLastStep_prefix path) accepts.usable]
  exact makeDirectories_eq accepts.passable

/-- Nothing hinders the access where all places on the way are directories. -/
theorem Accepts.hindrance? (accepts : d.Accepts path) (d' : Disk)
    (clear : ∀ p ∈ Path.way d.directory path, d'.node p = some .directory)
    (same : d'.directory = d.directory) : d'.hindrance? path = none := by
  have filled : path.isEmpty = false := by simpa using accepts.nonempty
  rw [Disk.hindrance?, filled, accepts.usable, same, obstacle?_eq_none_iff.2 clear]
  rfl

/-- The disk with the text of a file, and the directories on the way to it. -/
def withFile (d : Disk) (path s : Text) (mode : Nat) : Disk :=
  (d.withDirectories (Path.way d.directory path)).put (d.place path) (.file (.text s) mode)

/-- What stands at the places of a disk with one more file. -/
theorem node_withFile (d : Disk) (path s : Text) (mode : Nat) (p : Place) :
    (d.withFile path s mode).node p =
      if p = d.place path then some (.file (.text s) mode)
      else if p ∈ Path.way d.directory path then some .directory else d.node p := rfl

/-- A file does not change where paths lead. -/
@[simp]
theorem place_withFile (d : Disk) (path s : Text) (mode : Nat) (other : Text) :
    (d.withFile path s mode).place other = d.place other := rfl

/-- A text can be written at a path that accepts it, once the way to it is made. -/
theorem Accepts.write (accepts : d.Accepts path) (s : Text) :
    ∃ mode, (d.withDirectories (Path.way d.directory path)).write path (.text s) =
      .ok (d.withFile path s mode) := by
  have free := accepts.hindrance? (d.withDirectories (Path.way d.directory path))
    (fun p member => by rw [node_withDirectories, if_pos member]) rfl
  have node : (d.withDirectories (Path.way d.directory path)).node (d.place path) =
      d.node (d.place path) := by rw [node_withDirectories, if_neg accepts.outside]
  rw [Disk.write, free, accepts.asksFile, place_withDirectories, node]
  rcases accepts.room with ⟨content, mode, there⟩ | ⟨nothing, fits⟩
  · rw [there]
    exact ⟨mode, rfl⟩
  · simp only [nothing, fits]
    exact ⟨readableByAll, rfl⟩

/-- A written file can be found. -/
theorem Accepts.look?_withFile (accepts : d.Accepts path) (s : Text) (mode : Nat) :
    (d.withFile path s mode).look? path = some (.file (.text s) mode) := by
  have free := accepts.hindrance? (d.withFile path s mode) (fun p member => by
    have other : p ≠ d.place path := fun same => accepts.outside (same ▸ member)
    rw [node_withFile, if_neg other, if_pos member]) rfl
  have node : (d.withFile path s mode).node (d.place path) = some (.file (.text s) mode) := by
    rw [node_withFile, if_pos rfl]
  simp only [look?, free, place_withFile, node, accepts.asksFile]
  rfl

/-- Setting the mode of a written file is the same as writing it with this mode. -/
theorem Accepts.setMode (accepts : d.Accepts path) (s : Text) (mode new : Nat) :
    (d.withFile path s mode).setMode path new = d.withFile path s new := by
  rw [Disk.setMode, accepts.look?_withFile]
  simp only [withFile, put, place]
  congr 1
  funext p
  by_cases same : p = Path.place d.directory path <;> simp [same, withDirectories]

/-! ## What a file holds -/

/-- What a settings file holds: a text, or nothing while there is no file but room for one. -/
inductive Holds (d : Disk) (path : Text) : Option Text → Prop
  /-- The file can be read. -/
  | text {s : Text} (read : d.read path = .ok s) : Holds d path (some s)
  /-- There is no file, and an empty one can be made together with the way to it. -/
  | absent {made written : Disk} (nothing : d.node (d.place path) = none)
      (way : d.makeWay path = (made, none)) (room : made.write path (.text []) = .ok written) :
      Holds d path none

/-- A path without a hindrance that makes it unusable. -/
theorem usable_of_hindrance? (free : d.hindrance? path = none) :
    path ≠ [] ∧ unusable? path = none ∧
      ∀ p ∈ Path.way d.directory path, d.node p = some .directory := by
  rw [Disk.hindrance?] at free
  split at free
  · cases free
  · rename_i filled
    rw [Option.or_eq_none_iff, obstacle?_eq_none_iff] at free
    exact ⟨by simpa using filled, free⟩

/-- Where a file can be read, it stands and can be written again. -/
theorem accepts_of_read {s : Text} (read : d.read path = .ok s) :
    d.Accepts path ∧ (∀ p ∈ Path.way d.directory path, d.node p = some .directory) ∧
      ∃ mode, d.node (d.place path) = some (.file (.text s) mode) := by
  obtain ⟨free, asksFile, mode, node⟩ : d.hindrance? path = none ∧
      Path.demandsDirectory path = false ∧
      ∃ mode, d.node (d.place path) = some (.file (.text s) mode) := by
    rw [Disk.read, content] at read
    split at read
    · cases read
    · rename_i t found
      cases read
      split at found
      · cases found
      · rename_i free
        split at found
        · cases found
        · cases found
        · rename_i c mode node
          split at found
          · cases found
          · rename_i asks
            cases found
            exact ⟨free, by simpa using asks, mode, node⟩
    · cases read
  obtain ⟨nonempty, usable, clear⟩ := usable_of_hindrance? free
  refine ⟨⟨nonempty, usable, asksFile, fun p member => .inl (clear p member), ?_,
    .inl ⟨_, mode, node⟩⟩, clear, mode, node⟩
  intro member
  rw [clear _ member] at node
  cases node

/-- Where a file can be made, its path accepts it. -/
theorem accepts_of_room {made written : Disk} {s : Text}
    (nothing : d.node (d.place path) = none) (way : d.makeWay path = (made, none))
    (room : made.write path (.text s) = .ok written) : d.Accepts path := by
  obtain ⟨passable, rfl⟩ : (∀ p ∈ Path.way d.directory path, d.Passable p) ∧
      made = d.withDirectories (Path.way d.directory path) := by
    rw [makeWay] at way
    split at way
    · cases way
    · have passable := passable_of_makeDirectories (congrArg Prod.snd way)
      rw [makeDirectories_eq passable] at way
      exact ⟨passable, (Prod.mk.inj way).1.symm⟩
  rw [write] at room
  split at room
  · cases room
  · rename_i free
    obtain ⟨nonempty, usable, -⟩ := usable_of_hindrance? free
    split at room
    · cases room
    · rename_i asks
      simp only [place_withDirectories, node_withDirectories, nothing] at room
      have outside : d.place path ∉ Path.way d.directory path := by
        intro member
        rw [if_pos member] at room
        cases room
      have fits : isOverlong (d.place path) = false := by
        cases fits : isOverlong (d.place path) with
        | false => rfl
        | true =>
          rw [if_neg outside] at room
          simp [fits] at room
      exact ⟨nonempty, usable, by simpa using asks, passable, outside, .inr ⟨nothing, fits⟩⟩

/-- A text can be read where its file stands and the way to it is clear. -/
theorem holds_text_iff {s : Text} :
    d.Holds path (some s) ↔ d.Accepts path ∧
      (∀ p ∈ Path.way d.directory path, d.node p = some .directory) ∧
      ∃ mode, d.node (d.place path) = some (.file (.text s) mode) := by
  constructor
  · rintro ⟨read⟩
    exact accepts_of_read read
  · rintro ⟨accepts, clear, mode, node⟩
    refine .text ?_
    simp only [Disk.read, content, accepts.hindrance? d clear rfl, node, accepts.asksFile]
    rfl

/-- There is no file where nothing stands and a text can be written. -/
theorem holds_absent_iff :
    d.Holds path none ↔ d.Accepts path ∧ d.node (d.place path) = none := by
  constructor
  · rintro (_ | ⟨nothing, way, room⟩)
    exact ⟨accepts_of_room nothing way room, nothing⟩
  · rintro ⟨accepts, nothing⟩
    obtain ⟨mode, written⟩ := accepts.write []
    exact .absent nothing accepts.makeWay written

/-- Whatever a file holds, it can be written. -/
theorem Holds.accepts {content : Option Text} (holds : d.Holds path content) :
    d.Accepts path := by
  cases content with
  | some s => exact (holds_text_iff.1 holds).1
  | none => exact (holds_absent_iff.1 holds).1

/-- A file that is not there is missed by whoever reads it. -/
theorem Holds.read_absent (holds : d.Holds path none) : d.read path = .error .missing := by
  obtain ⟨accepts, nothing⟩ := holds_absent_iff.1 holds
  have filled : path.isEmpty = false := by simpa using accepts.nonempty
  have fits : isOverlong (d.place path) = false := by
    rcases accepts.room with ⟨content, mode, there⟩ | ⟨-, fits⟩
    · rw [nothing] at there
      cases there
    · exact fits
  have free : d.hindrance? path = d.obstacle? (Path.way d.directory path) := by
    rw [Disk.hindrance?, filled, accepts.usable]
    rfl
  rcases obstacle?_of_passable accepts.passable with clear | missing
  · simp [Disk.read, content, free, clear, nothing, absence, fits]
  · simp [Disk.read, content, free, missing]

/-- A file that holds a text can be read. -/
theorem Holds.read {s : Text} (holds : d.Holds path (some s)) : d.read path = .ok s := by
  cases holds with
  | text read => exact read

/-! ## Writing a file again and again -/

/-- One disk is another one after a text has been written at a path. -/
structure Rewrites (d : Disk) (path s : Text) (d' : Disk) : Prop where
  /-- The program still runs in the same directory. -/
  directory : d'.directory = d.directory
  /-- The file holds the text. -/
  holds : d'.Holds path (some s)
  /-- All files that do not meet it hold what they did. -/
  others : ∀ {other : Text} {content : Option Text}, Path.Apart d.directory path other →
    d.Holds other content → d'.Holds other content

section Others

variable (accepts : d.Accepts path) (s : Text) (mode : Nat)

include accepts in
/-- The way to a file with a text is clear. -/
theorem Accepts.clear_withFile {p : Place} (member : p ∈ Path.way d.directory path) :
    (d.withFile path s mode).node p = some .directory := by
  have other : p ≠ d.place path := fun same => accepts.outside (same ▸ member)
  rw [node_withFile, if_neg other, if_pos member]

include accepts in
/-- It holds the text. -/
theorem Accepts.holds_withFile : (d.withFile path s mode).Holds path (some s) := by
  have clear := fun p member => accepts.clear_withFile s mode (p := p) member
  have here : (d.withFile path s mode).node (d.place path) = some (.file (.text s) mode) := by
    rw [node_withFile, if_pos rfl]
  exact holds_text_iff.2 ⟨⟨accepts.nonempty, accepts.usable, accepts.asksFile,
    fun p member => .inl (clear p member), accepts.outside, .inl ⟨_, mode, here⟩⟩, clear, mode,
    here⟩

variable {other : Text} (apart : Path.Apart d.directory path other)

include apart in
/-- A directory on the way to another file stays one. -/
theorem node_way_withFile {p : Place} (member : p ∈ Path.way d.directory other)
    (there : d.node p = some .directory) :
    (d.withFile path s mode).node p = some .directory := by
  have outside : d.place path ∉ Path.way d.directory other := apart.first
  have away : p ≠ d.place path := fun same => outside (same ▸ member)
  rw [node_withFile, if_neg away, there, ite_self]

include apart in
/-- What stands at the place of another file stays. -/
theorem node_place_withFile :
    (d.withFile path s mode).node (d.place other) = d.node (d.place other) := by
  have away : d.place other ≠ d.place path := apart.ne.symm
  have outside : d.place other ∉ Path.way d.directory path := apart.second
  rw [node_withFile, if_neg away, if_neg outside]

include accepts apart in
/-- Another file can still be written. -/
theorem Accepts.other_withFile (accepted : d.Accepts other) :
    (d.withFile path s mode).Accepts other := by
  refine ⟨accepted.nonempty, accepted.usable, accepted.asksFile, fun p member => ?_,
    accepted.outside, ?_⟩
  · rcases accepted.passable p member with directory | ⟨nothing, fits⟩
    · exact .inl (node_way_withFile s mode apart member directory)
    · have outside : d.place path ∉ Path.way d.directory other := apart.first
      have away : p ≠ d.place path := fun same => outside (same ▸ member)
      by_cases made : p ∈ Path.way d.directory path
      · exact .inl (accepts.clear_withFile s mode made)
      · right
        rw [node_withFile, if_neg away, if_neg made]
        exact ⟨nothing, fits⟩
  · rw [place_withFile, node_place_withFile s mode apart]
    exact accepted.room

include accepts in
/-- The file with the given text is the only one that changes. -/
theorem Accepts.rewrites : d.Rewrites path s (d.withFile path s mode) := by
  refine ⟨rfl, accepts.holds_withFile s mode, ?_⟩
  intro other content apart holds
  have still := accepts.other_withFile s mode apart holds.accepts
  cases content with
  | some t =>
    obtain ⟨-, ways, node⟩ := holds_text_iff.1 holds
    refine holds_text_iff.2 ⟨still, fun p member =>
      node_way_withFile s mode apart member (ways p member), ?_⟩
    rw [place_withFile, node_place_withFile s mode apart]
    exact node
  | none =>
    refine holds_absent_iff.2 ⟨still, ?_⟩
    rw [place_withFile, node_place_withFile s mode apart]
    exact (holds_absent_iff.1 holds).2

end Others

/-! ## What a successful write leaves -/

/-- What a reader finds at a path: a text, or nothing. -/
def Finds (d : Disk) (path : Text) : Option Text → Prop
  | some s => d.read path = .ok s
  | none => d.read path = .error .missing

/-- What a file holds is what a reader finds. -/
theorem Holds.finds {content : Option Text} (holds : d.Holds path content) :
    d.Finds path content := by
  cases content with
  | some s => exact holds.read
  | none => exact holds.read_absent

/-- A reader finds one thing only. -/
theorem Finds.unique {content content' : Option Text} (finds : d.Finds path content)
    (finds' : d.Finds path content') : content = content' := by
  have reading : ∀ {content : Option Text}, d.Finds path content →
      d.read path = content.elim (.error .missing) .ok := by
    intro content finds
    cases content <;> exact finds
  have same := (reading finds).symm.trans (reading finds')
  cases content <;> cases content' <;> cases same <;> rfl

/-- A content is found where it has been put on a clear way. -/
theorem content_put_self {c : Content} {mode : Nat} (free : d.hindrance? path = none)
    (asksFile : Path.demandsDirectory path = false)
    (noDirectory : d.node (d.place path) ≠ some .directory) :
    (d.put (d.place path) (.file c mode)).content path = .ok c := by
  obtain ⟨nonempty, usable, clear⟩ := usable_of_hindrance? free
  have stillClear : ∀ p ∈ Path.way d.directory path,
      (d.put (d.place path) (.file c mode)).node p = some .directory := fun p member => by
    have other : p ≠ d.place path := fun same => noDirectory (same ▸ clear p member)
    exact (if_neg other).trans (clear p member)
  have stillFree : (d.put (d.place path) (.file c mode)).hindrance? path = none := by
    have filled : path.isEmpty = false := by simpa using nonempty
    rw [Disk.hindrance?, filled, if_neg Bool.false_ne_true, usable, Option.none_or]
    exact obstacle?_eq_none_iff.2 stillClear
  have node : (d.put (d.place path) (.file c mode)).node
      ((d.put (d.place path) (.file c mode)).place path) = some (.file c mode) := if_pos rfl
  simp only [content, stillFree, node, asksFile]
  rfl

/-- A content that has been written is found. -/
theorem content_of_write {d' : Disk} {c : Content} (done : d.write path c = .ok d') :
    d'.content path = .ok c := by
  rw [write] at done
  split at done
  · cases done
  · rename_i free
    split at done
    · cases done
    · rename_i asks
      have asksFile : Path.demandsDirectory path = false := by simpa using asks
      split at done
      · cases done
      · rename_i c' mode node
        cases done
        exact content_put_self free asksFile (by simp [node])
      · rename_i nothing
        split at done
        · cases done
        · cases done
          exact content_put_self free asksFile (by simp [nothing])

/-- A text that is found can be read. -/
theorem read_of_content {s : Text} (found : d.content path = .ok (.text s)) :
    d.read path = .ok s := by
  rw [read, found]

/-- So can a text that has been written. -/
theorem read_of_write {d' : Disk} {s : Text} (done : d.write path (.text s) = .ok d') :
    d'.read path = .ok s := read_of_content (content_of_write done)

/-- A file that can be read gets the mode that is set. -/
theorem setMode_of_read {s : Text} (read : d.read path = .ok s) (mode : Nat) :
    d.setMode path mode = d.put (d.place path) (.file (.text s) mode) := by
  obtain ⟨accepts, clear, old, node⟩ := accepts_of_read read
  have free := accepts.hindrance? d clear rfl
  have found : d.look? path = some (.file (.text s) old) := by
    simp only [look?, free, node, accepts.asksFile]
    rfl
  rw [setMode, found]

/-- Its mode does not matter to a reader. -/
theorem content_setMode {s : Text} (read : d.read path = .ok s) (mode : Nat) :
    (d.setMode path mode).content path = .ok (.text s) := by
  obtain ⟨accepts, clear, old, node⟩ := accepts_of_read read
  have free := accepts.hindrance? d clear rfl
  rw [setMode_of_read read]
  exact content_put_self free accepts.asksFile (by simp [node])

/-! ## Two files and nothing else -/

/-- A disk with two files at the root, unless they are absent. -/
def ofFiles (credentials config : Option Text) : Disk where
  directory := []
  node place :=
    if place = [] then some .directory
    else if place = [("credentials" : Text)] then
      credentials.map fun s => .file (.text s) ownerOnly
    else if place = [("config" : Text)] then config.map fun s => .file (.text s) readableByAll
    else none

/-- The first of the two files holds what it is given. -/
theorem holds_credentials_ofFiles (credentials config : Option Text) :
    (ofFiles credentials config).Holds "/credentials" credentials := by
  cases credentials with
  | some s => exact .text rfl
  | none => exact .absent rfl rfl rfl

/-- So does the second. -/
theorem holds_config_ofFiles (credentials config : Option Text) :
    (ofFiles credentials config).Holds "/config" config := by
  cases config with
  | some s => exact .text rfl
  | none => exact .absent rfl rfl rfl

/-- The two files do not meet. -/
theorem apart_ofFiles (credentials config : Option Text) :
    Path.Apart (ofFiles credentials config).directory "/credentials" "/config" := by
  change Path.Apart [] "/credentials" "/config"
  decide

end Disk

end ProfilePicker
