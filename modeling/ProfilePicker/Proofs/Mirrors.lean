import ProfilePicker.Proofs.Effects

/-!
# One file on two disks

A file that is missing and one that is empty are taken for the same by every operation on a store,
except that the first write makes the one and overwrites the other. So are two files that are the
same on both disks, whatever they are. What the store is taken for, whether it can be written, and
what the text is then, does not depend on which of the two disks it is on.
-/
namespace ProfilePicker

open Ini (Document)

namespace Disk

variable {d d' : Disk} {path : Text}

/-- Two disks have the same on the way of a path and at its end. -/
structure Agrees (d : Disk) (path : Text) (d' : Disk) : Prop where
  /-- The program runs in the same directory. -/
  directory : d'.directory = d.directory
  /-- The way is the same. -/
  way : ∀ p ∈ Path.way d.directory path, d'.node p = d.node p
  /-- So is what it leads to. -/
  node : d'.node (d.place path) = d.node (d.place path)

/-- A file that is empty, or missing with room for it. -/
def Blank (d : Disk) (path : Text) : Prop := ∃ content, d.Holds path content ∧ content.getD [] = []

/-- One file on two disks: missing or empty on both, or the same on both. -/
inductive Mirrors (d : Disk) (path : Text) (d' : Disk) : Prop
  /-- It is missing or empty. -/
  | blank (first : d.Blank path) (second : d'.Blank path)
  /-- It is the same. -/
  | same (agrees : d.Agrees path d')

/-! ## Places that are the same -/

/-- To be the same is mutual. -/
theorem Agrees.symm (agrees : d.Agrees path d') : d'.Agrees path d := by
  obtain ⟨directory, way, node⟩ := agrees
  have place : d'.place path = d.place path := congrArg (Path.place · path) directory
  refine ⟨directory.symm, fun p member => ?_, ?_⟩
  · rw [directory] at member
    exact (way p member).symm
  · rw [place]
    exact node.symm

/-- To be mirrored is mutual. -/
theorem Mirrors.symm (mirrors : d.Mirrors path d') : d'.Mirrors path d := by
  cases mirrors with
  | blank first second => exact .blank second first
  | same agrees => exact .same agrees.symm

/-- The same obstacle stands on the same way. -/
theorem obstacle?_congr {ps : List Place} (same : ∀ p ∈ ps, d'.node p = d.node p) :
    d'.obstacle? ps = d.obstacle? ps := by
  induction ps with
  | nil => rfl
  | cons p ps ih =>
    rw [List.forall_mem_cons] at same
    rw [obstacle?, obstacle?, same.1, ih same.2]

/-- The same directories are made on the same way. -/
theorem makeDirectories_congr (wanted : Place → Prop) {ps : List Place}
    (inside : ∀ p ∈ ps, wanted p) (same : ∀ p, wanted p → d'.node p = d.node p) :
    (d'.makeDirectories ps).2 = (d.makeDirectories ps).2 ∧
      ∀ p, wanted p → (d'.makeDirectories ps).1.node p = (d.makeDirectories ps).1.node p := by
  induction ps generalizing d d' with
  | nil => exact ⟨rfl, same⟩
  | cons p ps ih =>
    rw [List.forall_mem_cons] at inside
    rw [makeDirectories, makeDirectories, same p inside.1]
    split
    · exact ih inside.2 same
    · exact ⟨rfl, same⟩
    · split
      · exact ⟨rfl, same⟩
      · refine ih inside.2 fun q member => ?_
        by_cases here : q = p
        · simp [put, here]
        · simpa [put, here] using same q member

namespace Agrees

variable (agrees : d.Agrees path d')

include agrees

/-- The path leads to the same place. -/
theorem place : d'.place path = d.place path := congrArg (Path.place · path) agrees.directory

/-- The access is hindered by the same. -/
theorem hindrance? : d'.hindrance? path = d.hindrance? path := by
  rw [Disk.hindrance?, Disk.hindrance?, agrees.directory, obstacle?_congr agrees.way]

/-- The same text is found. -/
theorem read : d'.read path = d.read path := by
  rw [Disk.read, Disk.read, content, content, agrees.hindrance?, agrees.place, agrees.node]

/-- The way is made with the same success, and leads to the same again. -/
theorem makeWay : (d'.makeWay path).2 = (d.makeWay path).2 ∧
    (d.makeWay path).1.Agrees path (d'.makeWay path).1 := by
  have same := makeDirectories_congr
    (fun p => p ∈ Path.way d.directory path ∨ p = d.place path) (fun p => .inl)
    (fun p wanted => wanted.elim (agrees.way p) fun here => here ▸ agrees.node)
  rw [Disk.makeWay, Disk.makeWay, agrees.directory]
  split
  · exact ⟨rfl, agrees⟩
  · have directory := directory_makeDirectories d (Path.way d.directory path)
    refine ⟨same.1, ?_, fun p member => same.2 p (.inl (directory ▸ member)), ?_⟩
    · rw [directory_makeDirectories, directory, agrees.directory]
    · refine same.2 _ (.inr ?_)
      rw [Disk.place, directory]
      rfl

/-- A text is written with the same success. -/
theorem write (c : Content) : (∃ r, d.write path c = .error r ∧ d'.write path c = .error r) ∨
    ∃ e e', d.write path c = .ok e ∧ d'.write path c = .ok e' := by
  have refusal : d'.refusalOfDirectory path = d.refusalOfDirectory path := by
    rw [refusalOfDirectory, refusalOfDirectory, agrees.place, agrees.node]
  rw [Disk.write, Disk.write, agrees.hindrance?, agrees.place, agrees.node, refusal]
  split
  · exact .inl ⟨_, rfl, rfl⟩
  · split
    · exact .inl ⟨_, rfl, rfl⟩
    · split
      · exact .inl ⟨_, rfl, rfl⟩
      · exact .inr ⟨_, _, rfl, rfl⟩
      · split
        · exact .inl ⟨_, rfl, rfl⟩
        · exact .inr ⟨_, _, rfl, rfl⟩

end Agrees

end Disk

/-- A file that is missing or empty is read as an empty document. -/
theorem documentOf_of_empty {content : Option Text} (empty : content.getD [] = []) :
    documentOf content = .ok .empty := by
  cases content with
  | none => rfl
  | some t =>
    obtain rfl : t = [] := empty
    exact parse_nil

namespace Store

variable {store : Store} {d d' : Disk}

/-- A text is written into a store with the same success where the disks have the same. -/
theorem writing_agrees (agrees : d.Agrees store.path d') (t : Text) :
    (store.writing t d').1 = (store.writing t d).1 := by
  obtain ⟨same, made⟩ := agrees.makeWay
  obtain ⟨⟨e, obstacle⟩, way⟩ : ∃ made, d.makeWay store.path = made := ⟨_, rfl⟩
  obtain ⟨⟨e', obstacle'⟩, way'⟩ : ∃ made, d'.makeWay store.path = made := ⟨_, rfl⟩
  rw [way, way'] at same made
  obtain rfl : obstacle' = obstacle := same
  cases obstacle' with
  | some cause => rw [writing_of_obstacle way, writing_of_obstacle way']
  | none =>
    rw [writing_of_way way, writing_of_way way']
    rcases made.write (.text t) with ⟨r, failed, failed'⟩ | ⟨f, f', done, done'⟩
    · rw [filling_of_refused failed, filling_of_refused failed']
    · rw [filling_of_written done, filling_of_written done']

/-- A text can be written into a store where its file is blank. -/
theorem writing_blank (blank : d.Blank store.path) (t : Text) :
    (store.writing t d).1 = .ok () := by
  obtain ⟨content, holds, -⟩ := blank
  obtain ⟨written, -, done⟩ := writing_of_holds holds t
  exact congrArg Prod.fst done

/-- Whether a text can be written does not depend on the disk. -/
theorem writing_mirrors (mirrors : d.Mirrors store.path d') (t : Text) :
    (store.writing t d').1 = (store.writing t d).1 := by
  cases mirrors with
  | blank first second => rw [writing_blank first, writing_blank second]
  | same agrees => exact writing_agrees agrees t

/-! ## What a store is taken for -/

/-- The same is found where the disks have the same. -/
theorem find_agrees (agrees : d.Agrees store.path d') : store.find d' = store.find d := by
  rw [find, find, agrees.read]

/-- A blank file is taken for an empty document. -/
theorem taken_blank (blank : d.Blank store.path) : store.taken d = .ok .empty := by
  obtain ⟨content, holds, empty⟩ := blank
  exact taken_of_finds holds.finds (documentOf_of_empty empty)

/-- What a store is taken for does not depend on the disk. -/
theorem taken_mirrors (mirrors : d.Mirrors store.path d') : store.taken d' = store.taken d := by
  cases mirrors with
  | blank first second => rw [taken_blank first, taken_blank second]
  | same agrees => rw [taken, taken, finding_willing, finding_willing, find_agrees agrees]

end Store

namespace Catalog

variable {d d' : Disk}

/-- The profiles of a file are those of the document it is taken for. -/
theorem outcome_profilesOf (naming : Naming) (store : Store) (prompt : Prompt) (s : Session) :
    ∃ log, (profilesOf naming store).outcome prompt s =
      ((store.taken s.disk).map fun d => d.sections.filterMap naming.profileFor?,
        { s with log := log }) := by
  obtain ⟨log, loaded⟩ := store.outcome_load s .willing
  rw [profilesOf, Flow.outcome_bind, Flow.outcome_attempt, loaded, Store.taken,
    Store.finding_willing]
  dsimp only
  rcases store.find s.disk with (_ | _ | _ | _ | path | _ | _ | _ | _ | _) | keys
  case ok => exact profilesIn_logs naming store keys { s with log := log }
  all_goals exact ⟨_, rfl⟩

/-- The catalog of what two stores are taken for. -/
def taken (l : Locations) (d : Disk) : Except Fault Catalog := do
  let keys ← l.credentialsStore.taken d
  let settings ← l.configStore.taken d
  return ofDocuments keys settings

/-- Discovering comes to that catalog, and only logs. -/
theorem outcome_discover (l : Locations) (prompt : Prompt) (s : Session) :
    ∃ log, (discover l).outcome prompt s = (taken l s.disk, { s with log := log }) := by
  obtain ⟨log, first⟩ := outcome_profilesOf .verbatim l.credentialsStore prompt s
  obtain ⟨log', second⟩ :=
    outcome_profilesOf .prefixed l.configStore prompt { s with log := log }
  rw [discover, Flow.outcome_bind, first, taken]
  cases l.credentialsStore.taken s.disk with
  | error fault => exact ⟨log, rfl⟩
  | ok keys =>
    dsimp only [Except.map]
    rw [Flow.outcome_bind, second]
    cases l.configStore.taken s.disk with
    | error fault => exact ⟨log', rfl⟩
    | ok settings => exact ⟨_, rfl⟩

/-- It does not depend on the disk. -/
theorem taken_mirrors {l : Locations} (keys : d.Mirrors l.credentials d')
    (settings : d.Mirrors l.config d') : taken l d' = taken l d := by
  have first : l.credentialsStore.taken d' = l.credentialsStore.taken d :=
    Store.taken_mirrors keys
  have second : l.configStore.taken d' = l.configStore.taken d := Store.taken_mirrors settings
  rw [taken, taken, first, second]

end Catalog

end ProfilePicker
