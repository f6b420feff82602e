import ProfilePicker.Proofs.CompletedSteps

/-!
# A pair is refused or stored

What retrieving the pair of a profile says beforehand decides what storing one does. A pair that is
there is refused, and so is a file that cannot be loaded, and then nothing changes. In all other
cases both halves are in the file in the end, and its owner alone may read it. Nothing comes of a
save by halves, and no other file is touched.
-/
namespace ProfilePicker

open Ini (Document)

namespace Disk

variable {d : Disk} {path : Text}

/-- The mode that a readable file gets is the mode it has. -/
theorem mode?_setMode {s : Text} (read : d.read path = .ok s) (mode : Nat) :
    (d.setMode path mode).mode? path = some mode := by
  obtain ⟨accepts, clear, old, node⟩ := accepts_of_read read
  have away : ∀ p ∈ Path.way d.directory path, p ≠ d.place path := fun p member same =>
    accepts.outside (same ▸ member)
  have free := accepts.hindrance? (d.put (d.place path) (.file (.text s) mode))
    (fun p member => (if_neg (away p member)).trans (clear p member)) rfl
  have there : (d.put (d.place path) (.file (.text s) mode)).node
      ((d.put (d.place path) (.file (.text s) mode)).place path) =
        some (.file (.text s) mode) := if_pos rfl
  rw [setMode_of_read read, mode?]
  simp only [look?, free, there, accepts.asksFile]
  rfl

end Disk

namespace Store

variable {store : Store} {d : Disk}

/-- A private file that has been written belongs to its owner alone. -/
theorem mode?_writing {t : Text} (hidden : store.isPrivate = true)
    (done : (store.writing t d).1 = .ok ()) :
    (store.writing t d).2.mode? store.path = some ownerOnly := by
  obtain ⟨⟨made, obstacle⟩, way⟩ : ∃ made, d.makeWay store.path = made := ⟨_, rfl⟩
  cases obstacle with
  | some cause =>
    rw [writing_of_obstacle way] at done
    cases done
  | none =>
    rw [writing_of_way way] at done ⊢
    cases wrote : made.write store.path (.text t) with
    | error cause =>
      rw [filling_of_refused wrote] at done
      cases done
    | ok written =>
      rw [filling_of_written wrote, if_pos hidden]
      exact Disk.mode?_setMode (Disk.read_of_write wrote) ownerOnly

/-- No document is in the way of a pair before it is read. -/
theorem find_ne_alreadyExists {subject : Text} :
    store.find d ≠ .error (.alreadyExists subject) := by
  intro found
  rw [find] at found
  split at found
  · cases found
  · cases found
  · rw [parse] at found
    split at found <;> cases found

end Store

namespace Credentials

open Selection (atRoot)

variable {store : Store} {profile : Text} {c : Credentials} {d : Disk}

/-! ## What is retrieved -/

/-- A pair is that of a document when the first block of the profile has a value for both keys. -/
theorem ofDocument?_eq_some_iff_block {keys : Document} :
    ofDocument? keys profile = some c ↔ ∃ block, keys.contents.find? profile = some block ∧
      block.get? idKey = some c.id ∧ block.get? secretKey = some c.secret := by
  rw [ofDocument?_eq_some_iff, Document.get?, Document.get?, Ini.Contents.get?, Ini.Contents.get?]
  cases keys.contents.find? profile with
  | none => simp
  | some block => simp

/-- A pair is retrieved from a file that can be loaded, where the first block of the profile has a
value for both keys. -/
theorem retrieving_eq_ok_iff : retrieving store profile d = .ok c ↔
    ∃ t keys block, d.read store.path = .ok t ∧ Document.parse t = .ok keys ∧
      keys.contents.find? profile = some block ∧
      block.get? idKey = some c.id ∧ block.get? secretKey = some c.secret := by
  constructor
  · intro retrieved
    rw [retrieving] at retrieved
    split at retrieved
    · cases retrieved
    · rename_i keys found
      obtain ⟨t, holds, parsed⟩ := Store.parse_of_find found
      split at retrieved
      · rename_i stored
        cases retrieved
        obtain ⟨block, first, named, told⟩ := ofDocument?_eq_some_iff_block.1 stored
        exact ⟨t, keys, block, holds.read, parsed, first, named, told⟩
      · cases retrieved
  · rintro ⟨t, keys, block, read, parsed, first, named, told⟩
    have holds : d.Holds store.path (some t) := .text read
    rw [retrieving_of_holds store profile holds parsed,
      ofDocument?_eq_some_iff_block.2 ⟨block, first, named, told⟩]
    rfl

/-- No look says that a pair is in the way. -/
theorem retrieving_ne_alreadyExists {subject : Text} :
    retrieving store profile d ≠ .error (.alreadyExists subject) := by
  intro failed
  rw [retrieving] at failed
  split at failed
  · rename_i found
    cases failed
    exact Store.find_ne_alreadyExists found
  · split at failed <;> cases failed

/-! ## What is stored -/

/-- A pair that is there is refused, and nothing changes. -/
theorem saving_of_retrieved {old : Credentials} (retrieved : retrieving store profile d = .ok old)
    (c : Credentials) :
    saving store profile c d = (.error (.alreadyExists (Fault.keysOf profile)), d) := by
  rw [saving, retrieved]

/-- So is a file that cannot be loaded though it is there, with the fault of loading it. -/
theorem saving_of_unloaded {fault : Fault} (failed : retrieving store profile d = .error fault)
    (there : ∀ path, fault ≠ .missingFile path) (loaded : ∀ subject, fault ≠ .notFound subject)
    (c : Credentials) : saving store profile c d = (.error fault, d) := by
  rw [saving, failed]
  split
  · rename_i same
    cases same
  · rename_i path same
    exact absurd (Except.error.inj same) (there path)
  · rename_i subject same
    exact absurd (Except.error.inj same) (loaded subject)
  · rename_i same
    rw [Except.error.inj same]

/-- A pair has been put into what a file held, for the eyes of its owner only. -/
structure Stored (store : Store) (profile : Text) (c : Credentials) (d d' : Disk) : Prop where
  /-- The text of the file is the old one, or the empty one, with both halves set in it. -/
  text : ∃ old, d.Finds store.path old ∧
    d'.read store.path = .ok (c.textIn profile (old.getD []))
  /-- The owner alone may read it, whatever its mode was. -/
  mode : d'.mode? store.path = some ownerOnly

/-- A pair that has been added belongs to the owner alone. -/
theorem mode?_adding (hidden : store.isPrivate = true)
    (done : (adding store profile c d).1 = .ok ()) :
    (adding store profile c d).2.mode? store.path = some ownerOnly := by
  rw [adding] at done ⊢
  split at done
  · cases done
  · exact Store.mode?_writing hidden done

/-- A save that succeeds has stored the pair. -/
theorem stored_of_saving (hidden : store.isPrivate = true)
    (done : (saving store profile c d).1 = .ok ()) :
    Stored store profile c d (saving store profile c d).2 := by
  have text : ∃ old, d.Finds store.path old ∧
      (saving store profile c d).2.read store.path = .ok (c.textIn profile (old.getD [])) := by
    rcases saving_cases store profile c d with
      ⟨fault, failed, -⟩ | ⟨-, content, keys, finds, read, -, puts⟩
    · rw [done] at failed
      cases failed
    · refine ⟨content, finds, ?_⟩
      rw [← text_of_documentOf read]
      exact puts.read
  refine ⟨text, ?_⟩
  rw [saving] at done ⊢
  split at done
  · cases done
  · cases made : (store.writing [] d).1 with
    | error fault =>
      rw [making_of_error made] at done
      cases done
    | ok _ =>
      rw [making_of_ok made] at done ⊢
      exact mode?_adding hidden done
  · exact mode?_adding hidden done
  · cases done

/-- A pair for a profile without one is stored. -/
theorem saving_of_notFound {subject : Text}
    (unknown : retrieving store profile d = .error (.notFound subject)) (c : Credentials) :
    (saving store profile c d).1 = .ok () := by
  obtain ⟨keys, found, -⟩ := find_of_retrieving_notFound unknown
  obtain ⟨t, holds, -⟩ := Store.parse_of_find found
  rw [saving, unknown]
  dsimp only
  rw [adding_of_find found]
  exact Store.writing_ok holds.read _

/-- So is a pair in a file that is missing, when the file can be made. -/
theorem saving_of_missing {path : Text}
    (missed : retrieving store profile d = .error (.missingFile path))
    (made : (store.writing [] d).1 = .ok ()) (c : Credentials) :
    (saving store profile c d).1 = .ok () := by
  rw [saving, missed]
  dsimp only
  rw [making_of_ok made]
  exact adding_of_made made profile c

/-- So is a pair that is missing or whose file is, when the file can be made. -/
theorem saving_of_lacking
    (lacking : (∃ path, retrieving store profile d = .error (.missingFile path)) ∨
      ∃ subject, retrieving store profile d = .error (.notFound subject))
    (possible : (∃ path, retrieving store profile d = .error (.missingFile path)) →
      (store.writing [] d).1 = .ok ()) (c : Credentials) :
    (saving store profile c d).1 = .ok () := by
  rcases lacking with ⟨path, missed⟩ | ⟨subject, unknown⟩
  · exact saving_of_missing missed (possible ⟨path, missed⟩) c
  · exact saving_of_notFound unknown c

/-- A save goes by what retrieving says: it refuses a pair that is there, fails as retrieving does,
or succeeds. -/
theorem saving_of_retrieving (profile : Text)
    (possible : (∃ path, retrieving store profile d = .error (.missingFile path)) →
      (store.writing [] d).1 = .ok ()) (c : Credentials) :
    (∃ old, retrieving store profile d = .ok old ∧
      saving store profile c d = (.error (.alreadyExists (Fault.keysOf profile)), d)) ∨
    (∃ fault, retrieving store profile d = .error fault ∧
      (∀ subject, fault ≠ .alreadyExists subject) ∧ saving store profile c d = (.error fault, d)) ∨
    (∃ fault, retrieving store profile d = .error fault) ∧
      (saving store profile c d).1 = .ok () := by
  cases looked : retrieving store profile d with
  | ok old => exact .inl ⟨old, rfl, saving_of_retrieved looked c⟩
  | error fault =>
    by_cases lacking : (∃ path, fault = .missingFile path) ∨ ∃ subject, fault = .notFound subject
    · refine .inr (.inr ⟨⟨fault, rfl⟩, saving_of_lacking ?_ possible c⟩)
      rcases lacking with ⟨path, rfl⟩ | ⟨subject, rfl⟩
      · exact .inl ⟨path, looked⟩
      · exact .inr ⟨subject, looked⟩
    · refine .inr (.inl ⟨fault, rfl, ?_, saving_of_unloaded looked
        (fun path same => lacking (.inl ⟨path, same⟩))
        (fun subject same => lacking (.inr ⟨subject, same⟩)) c⟩)
      rintro subject rfl
      exact retrieving_ne_alreadyExists looked

/-- What storing a pair touches away from its file: directories on the way to it at most. -/
theorem opens_of_saving (store : Store) (profile : Text) (c : Credentials) (d : Disk) (p : Place)
    (away : p ≠ d.place store.path) : Disk.Opens (Path.way d.directory store.path) d
      (saving store profile c d).2 p := by
  rcases saving_cases store profile c d with ⟨_, -, makes⟩ | ⟨-, _, _, -, -, -, puts⟩
  · exact makes.node p
  · exact puts.node p away

/-! ## A save beside a look -/

/-- What storing a pair comes to, told by what retrieving one says beforehand. -/
structure RefusesOrStores (store : Store) (profile : Text) (c : Credentials) (s : Session)
    (before : Except Fault Credentials × Session) (after : Except Fault Unit × Session) : Prop where
  /-- A pair is retrieved exactly when the file can be loaded and the first block of the profile has
  a value for both keys. -/
  retrieved : ∀ old : Credentials, before.1 = .ok old ↔
    ∃ t keys block, s.disk.read store.path = .ok t ∧ Document.parse t = .ok keys ∧
      keys.contents.find? profile = some block ∧
      block.get? idKey = some old.id ∧ block.get? secretKey = some old.secret
  /-- Retrieving touches nothing. -/
  untouched : before.2.disk = s.disk
  /-- A save says that a pair is there exactly when one is retrieved. -/
  taken : ∀ subject, after.1 = .error (.alreadyExists subject) ↔
    subject = Fault.keysOf profile ∧ ∃ old, before.1 = .ok old
  /-- It returns every other fault of retrieving, unless the file or the pair is missing. -/
  unloaded : ∀ fault, before.1 = .error fault → (∀ path, fault ≠ .missingFile path) →
    (∀ subject, fault ≠ .notFound subject) → after.1 = .error fault
  /-- A save that fails changes nothing. -/
  refused : after.1 ≠ .ok () → after.2.disk = s.disk
  /-- Where the file or the pair is missing, the pair is stored. -/
  stored : ((∃ path, before.1 = .error (.missingFile path)) ∨
      ∃ subject, before.1 = .error (.notFound subject)) →
    after.1 = .ok () ∧ Stored store profile c s.disk after.2.disk
  /-- Away from the file, directories on the way to it are made at most. -/
  elsewhere : ∀ p, p ≠ s.disk.place store.path →
    Disk.Opens (Path.way s.disk.directory store.path) s.disk after.2.disk p
  /-- Nobody is asked. -/
  silent : after.2.asked = s.asked

/-- **A save refuses a pair and changes nothing, or it stores both halves.** The file may be
anything: missing, a directory, no text, no settings, or settings of any kind. All that is assumed
is that a missing file can be made. -/
theorem save_refuses_or_stores (l : Locations) (profile : Text) (c : Credentials) (prompt : Prompt)
    (s : Session)
    (possible : (∃ path, ((retrieve l.credentialsStore profile).outcome prompt s).1 =
        .error (.missingFile path)) →
      (l.credentialsStore.createEmpty.outcome prompt s).1 = .ok ()) :
    RefusesOrStores l.credentialsStore profile c s
      ((retrieve l.credentialsStore profile).outcome prompt s)
      ((save l.credentialsStore profile c).outcome prompt s) := by
  obtain ⟨log, looked⟩ := outcome_retrieve l.credentialsStore profile s .willing
  obtain ⟨log', saved⟩ := outcome_save l.credentialsStore profile c prompt s .willing
  obtain ⟨log'', created⟩ := l.credentialsStore.outcome_createEmpty prompt s .willing
  rw [looked, created] at possible
  rw [looked, saved]
  have lacking := fun missing => saving_of_lacking missing possible c
  refine ⟨fun old => retrieving_eq_ok_iff, rfl, fun subject => ?_, fun fault failed there loaded =>
    congrArg Prod.fst (saving_of_unloaded failed there loaded c), fun failed => ?_, fun missing =>
    ⟨lacking missing, stored_of_saving rfl (lacking missing)⟩,
    opens_of_saving l.credentialsStore profile c s.disk, rfl⟩
  · rcases saving_of_retrieving profile possible c with
      ⟨old, here, refused⟩ | ⟨fault, here, other, refused⟩ | ⟨⟨fault, here⟩, stored⟩
    · simp [here, refused, eq_comm]
    · simp [here, refused, other subject]
    · simp [here, stored]
  · rcases saving_of_retrieving profile possible c with
      ⟨old, -, refused⟩ | ⟨fault, -, -, refused⟩ | ⟨-, stored⟩
    · exact congrArg Prod.snd refused
    · exact congrArg Prod.snd refused
    · exact absurd stored failed

/-- The file of a first pair is made for it. -/
theorem refusesOrStores_first :
    ((∃ path, ((retrieve atRoot.credentialsStore "work").outcome (.entering [])
        (.start (.ofFiles none none))).1 = .error (.missingFile path)) →
      (atRoot.credentialsStore.createEmpty.outcome (.entering [])
        (.start (.ofFiles none none))).1 = .ok ()) ∧
      RefusesOrStores atRoot.credentialsStore "work" ⟨"AKIA", "abcd"⟩ (.start (.ofFiles none none))
        ((retrieve atRoot.credentialsStore "work").outcome (.entering [])
          (.start (.ofFiles none none)))
        ((save atRoot.credentialsStore "work" ⟨"AKIA", "abcd"⟩).outcome (.entering [])
          (.start (.ofFiles none none))) ∧
      ((save atRoot.credentialsStore "work" ⟨"AKIA", "abcd"⟩).outcome (.entering [])
        (.start (.ofFiles none none))).2.disk.read "/credentials" =
          .ok "[work]\naws_access_key_id = AKIA\naws_secret_access_key = abcd\n" := by
  have possible : (atRoot.credentialsStore.createEmpty.outcome (.entering [])
      (.start (.ofFiles none none))).1 = .ok () := by decide +kernel
  exact ⟨fun _ => possible, save_refuses_or_stores atRoot "work" ⟨"AKIA", "abcd"⟩ (.entering [])
    (.start (.ofFiles none none)) fun _ => possible, by decide +kernel⟩

end Credentials

end ProfilePicker
