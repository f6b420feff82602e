import ProfilePicker.Proofs.Writes

/-!
# What stands elsewhere

An operation on one file does not see what stands at a place that is neither that of the file nor on
the way to it. So it is the same operation whatever stands there, and leaves it there. Nor does it
matter to a write what is written.
-/
namespace ProfilePicker

namespace Disk

variable {d : Disk} {path : Text} {place : Place}

/-! ## What stands elsewhere -/

/-- Of two things put at one place, the second one stays. -/
theorem put_put (d : Disk) (place : Place) (m n : Node) :
    (d.put place m).put place n = d.put place n := by
  rw [put, put, put]
  congr 1
  funext p
  by_cases here : p = place <;> simp [here]

/-- Two things put at two places can be put in either order. -/
theorem put_comm {other : Place} (away : place ≠ other) (d : Disk) (m n : Node) :
    (d.put place m).put other n = (d.put other n).put place m := by
  rw [put, put, put, put]
  congr 1
  funext p
  by_cases here : p = other
  · simp [here, away.symm]
  · simp [here]

/-- What stands at another place is no obstacle. -/
theorem obstacle?_put {ps : List Place} (away : place ∉ ps) (d : Disk) (n : Node) :
    (d.put place n).obstacle? ps = d.obstacle? ps := by
  induction ps with
  | nil => rfl
  | cons p ps ih =>
    rw [List.mem_cons, not_or] at away
    have same : (d.put place n).node p = d.node p := if_neg (Ne.symm away.1)
    rw [obstacle?, obstacle?, same, ih away.2]

/-- Directories are made in the same way whatever stands at another place. -/
theorem makeDirectories_put {ps : List Place} (away : place ∉ ps) (d : Disk) (n : Node) :
    (d.put place n).makeDirectories ps =
      ((d.makeDirectories ps).1.put place n, (d.makeDirectories ps).2) := by
  induction ps generalizing d with
  | nil => rfl
  | cons p ps ih =>
    rw [List.mem_cons, not_or] at away
    have same : (d.put place n).node p = d.node p := if_neg (Ne.symm away.1)
    rw [makeDirectories, makeDirectories, same]
    split
    · exact ih away.2 d
    · rfl
    · split
      · rfl
      · rw [put_comm away.1, ih away.2]

section Elsewhere

variable (outside : place ∉ Path.way d.directory path) (n : Node)

include outside in
/-- The way is made in the same way. -/
theorem makeWay_put : (d.put place n).makeWay path =
    ((d.makeWay path).1.put place n, (d.makeWay path).2) := by
  rw [makeWay, makeWay]
  split
  · rfl
  · exact makeDirectories_put outside d n

include outside in
/-- The access is hindered by the same. -/
theorem hindrance?_put : (d.put place n).hindrance? path = d.hindrance? path := by
  have same : (d.put place n).obstacle? (Path.way (d.put place n).directory path) =
      d.obstacle? (Path.way d.directory path) := obstacle?_put outside d n
  rw [hindrance?, hindrance?, same]

variable (away : place ≠ d.place path)

include away in
/-- The same stands where the path leads. -/
theorem node_put : (d.put place n).node ((d.put place n).place path) = d.node (d.place path) :=
  if_neg away.symm

include outside away in
/-- The same content is found. -/
theorem content_put : (d.put place n).content path = d.content path := by
  rw [content, content, hindrance?_put outside n, node_put n away]
  rfl

include outside away in
/-- The same text is found. -/
theorem read_put_away : (d.put place n).read path = d.read path := by
  rw [read, read, content_put outside n away]

include outside away in
/-- The same is written. -/
theorem write_put (c : Content) :
    (d.put place n).write path c = (d.write path c).map (·.put place n) := by
  have refusal : (d.put place n).refusalOfDirectory path = d.refusalOfDirectory path := by
    rw [refusalOfDirectory, refusalOfDirectory, node_put n away]
    rfl
  have same : (d.put place n).place path = d.place path := rfl
  rw [write, write, hindrance?_put outside n, node_put n away, refusal, same]
  split
  · rfl
  · split
    · rfl
    · split
      · rfl
      · exact congrArg Except.ok (put_comm away d n _)
      · split
        · rfl
        · exact congrArg Except.ok (put_comm away d n _)

include outside away in
/-- The same mode is set. -/
theorem setMode_put (mode : Nat) :
    (d.put place n).setMode path mode = (d.setMode path mode).put place n := by
  have same : (d.put place n).look? path = d.look? path := by
    rw [look?, look?, hindrance?_put outside n, node_put n away]
  rw [setMode, setMode, same]
  split
  · exact put_comm away d n _
  · rfl

end Elsewhere

end Disk

namespace Store

variable {store : Store} {d : Disk}

/-- Once the way is made, the program still runs in the same directory. -/
theorem directory_of_makeWay {made : Disk} {obstacle : Option Refusal} {path : Text}
    (way : d.makeWay path = (made, obstacle)) : made.directory = d.directory := by
  have makes := (d.makesWay_makeWay path).directory
  rw [way] at makes
  exact makes

/-- Whether a text can be written into a store does not depend on the text, and neither does what
else the write does. -/
theorem writing_eq (store : Store) (d : Disk) :
    (∃ fault made, ∀ t, store.writing t d = (.error fault, made)) ∨
      ∃ made mode, ∀ t, store.writing t d =
        (.ok (), Disk.put made (d.place store.path) (.file (.text t) mode)) := by
  obtain ⟨⟨made, obstacle⟩, way⟩ : ∃ made, d.makeWay store.path = made := ⟨_, rfl⟩
  have place : made.place store.path = d.place store.path :=
    congrArg (Path.place · store.path) (directory_of_makeWay way)
  cases obstacle with
  | some cause => exact .inl ⟨.disk cause, made, fun _ => writing_of_obstacle way⟩
  | none =>
    rcases made.write_eq store.path with ⟨r, failed⟩ | ⟨mode, done⟩
    · exact .inl ⟨.disk r, made, fun t =>
        (writing_of_way way).trans (filling_of_refused (failed (.text t)))⟩
    · right
      cases hidden : store.isPrivate with
      | false =>
        refine ⟨made, mode, fun t => ?_⟩
        rw [writing_of_way way, filling_of_written (done (.text t)), hidden, place]
        rfl
      | true =>
        refine ⟨made, ownerOnly, fun t => ?_⟩
        have read := Disk.read_of_write (done (.text t))
        have same : (made.put (made.place store.path) (.file (.text t) mode)).place store.path =
            made.place store.path := rfl
        rw [writing_of_way way, filling_of_written (done (.text t)), hidden, if_pos rfl,
          Disk.setMode_of_read read, same, Disk.put_put, place]

/-- A text is written in the same way whatever stands at another place. -/
theorem writing_put {place : Place} (outside : place ∉ Path.way d.directory store.path)
    (away : place ≠ d.place store.path) (n : Node) (t : Text) :
    store.writing t (d.put place n) =
      ((store.writing t d).1, (store.writing t d).2.put place n) := by
  obtain ⟨⟨made, obstacle⟩, way⟩ : ∃ made, d.makeWay store.path = made := ⟨_, rfl⟩
  have directory := directory_of_makeWay way
  have way' : (d.put place n).makeWay store.path = (made.put place n, obstacle) := by
    rw [Disk.makeWay_put outside, way]
  cases obstacle with
  | some cause => rw [writing_of_obstacle way, writing_of_obstacle way']
  | none =>
    have outside' : place ∉ Path.way made.directory store.path := directory ▸ outside
    have away' : place ≠ made.place store.path := by
      rw [Disk.place, directory]
      exact away
    have wrote := Disk.write_put outside' n away' (.text t)
    rw [writing_of_way way, writing_of_way way']
    rcases made.write_eq store.path with ⟨r, failed⟩ | ⟨mode, done⟩
    · rw [failed] at wrote
      rw [filling_of_refused (failed _), filling_of_refused wrote]
    · rw [done] at wrote
      rw [filling_of_written (done _), filling_of_written wrote]
      dsimp only
      split
      · have set := Disk.setMode_put (d := made.put (made.place store.path) (.file (.text t) mode))
          outside' n away' ownerOnly
        rw [set]
      · rfl

/-- The same document is found whatever stands at another place. -/
theorem find_put {place : Place} (outside : place ∉ Path.way d.directory store.path)
    (away : place ≠ d.place store.path) (n : Node) : store.find (d.put place n) = store.find d := by
  rw [find, find, Disk.read_put_away outside n away]

end Store

end ProfilePicker
