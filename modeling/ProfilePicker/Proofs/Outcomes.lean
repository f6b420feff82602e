import ProfilePicker.Credentials
import ProfilePicker.Proofs.Files
import ProfilePicker.Proofs.Lookup
import ProfilePicker.Proofs.Turns
import ProfilePicker.Region

/-!
# How flows end

One equation for each way to put flows together, and from these the outcome of each operation
on a store: what it returns, what it writes and what it asks. The log grows on the way; what it
says is left open here.
-/
namespace ProfilePicker

open Ini (Document)

namespace Flow

variable {α β : Type} {host : Host} (prompt : Prompt) (s : Session)

/-- A value that is returned. -/
@[simp]
theorem outcome_pure (a : α) : outcome (pure a) prompt s host = (.ok a, s) := rfl

/-- The state that is looked at. -/
@[simp]
theorem outcome_get : outcome (get : Flow Session) prompt s host = (.ok s, s) := rfl

/-- The state that is changed. -/
@[simp]
theorem outcome_modify (change : Session → Session) :
    outcome (modify change : Flow Unit) prompt s host = (.ok (), change s) := rfl

/-- What the flow meets. -/
@[simp]
theorem outcome_read : outcome (read : Flow World) prompt s host = (.ok ⟨prompt, host⟩, s) := rfl

/-- A line that is logged. -/
theorem outcome_info (prompt : Prompt) (s : Session) (text : Text) :
    outcome (info text) prompt s host = (.ok (), { s with log := s.log ++ [⟨.info, text⟩] }) := rfl

/-- Two flows, one after the other. -/
theorem outcome_bind (flow : Flow α) (next : α → Flow β) :
    outcome (flow >>= next) prompt s host =
      match outcome flow prompt s host with
      | (.ok a, s') => outcome (next a) prompt s' host
      | (.error fault, s') => (.error fault, s') := by
  simp only [outcome, bind, ReaderT.bind, ExceptT.bind, ExceptT.run, ExceptT.mk, StateT.bind,
    StateT.run]
  rcases flow ⟨prompt, host⟩ s with ⟨a | a, s'⟩ <;> rfl

/-- Two flows, of which the first one succeeds. -/
theorem outcome_bind_of_ok {flow : Flow α} {a : α} {s' : Session}
    (done : outcome flow prompt s host = (.ok a, s')) (next : α → Flow β) :
    outcome (flow >>= next) prompt s host = outcome (next a) prompt s' host := by
  rw [outcome_bind, done]

/-- Two flows, of which the first one fails. -/
theorem outcome_bind_of_error {flow : Flow α} {fault : Fault} {s' : Session}
    (failed : outcome flow prompt s host = (.error fault, s')) (next : α → Flow β) :
    outcome (flow >>= next) prompt s host = (.error fault, s') := by
  rw [outcome_bind, failed]

/-- A flow whose result is put into another form. -/
theorem outcome_bind_pure (flow : Flow α) (form : α → β) :
    outcome (flow >>= fun a => pure (form a)) prompt s host =
      ((outcome flow prompt s host).1.map form, (outcome flow prompt s host).2) := by
  rw [outcome_bind]
  rcases outcome flow prompt s host with ⟨_ | _, _⟩ <;> rfl

/-- A flow whose fault is returned. -/
theorem outcome_attempt (flow : Flow α) :
    outcome flow.attempt prompt s host =
      (.ok (outcome flow prompt s host).1, (outcome flow prompt s host).2) := by
  simp only [outcome, attempt, tryCatch, tryCatchThe, MonadExceptOf.tryCatch, Functor.map,
    ExceptT.tryCatch, ExceptT.map, ExceptT.run, ExceptT.mk, StateT.bind, StateT.run, bind]
  rcases flow ⟨prompt, host⟩ s with ⟨a | a, s'⟩ <;> rfl

/-- A question that is asked. -/
theorem outcome_ask (q : Question) :
    outcome (ask q) prompt s host =
      (prompt.answer s.asked q, { s with asked := s.asked ++ [q] }) := by
  simp only [ask, outcome_bind, outcome_get, outcome_modify, outcome_read]
  cases prompt.answer s.asked q <;> rfl

/-- Work that the host does. -/
theorem outcome_work (operation : Host → Disk → Disk × Option Refusal) :
    outcome (work operation) prompt s host =
      ((operation host s.disk).2.elim (.ok ()) fun cause => .error (.disk cause),
        { s with disk := (operation host s.disk).1 }) := by
  simp only [work, outcome_bind, outcome_get, outcome_modify, outcome_read]
  rcases operation host s.disk with ⟨left, _ | cause⟩ <;> rfl

/-- Work that is done. -/
theorem outcome_work_of_done {operation : Host → Disk → Disk × Option Refusal} {left : Disk}
    (done : operation host s.disk = (left, none)) :
    outcome (work operation) prompt s host = (.ok (), { s with disk := left }) := by
  rw [outcome_work, done]
  rfl

/-- Work that meets an obstacle. -/
theorem outcome_work_of_obstacle {operation : Host → Disk → Disk × Option Refusal} {left : Disk}
    {cause : Refusal} (met : operation host s.disk = (left, some cause)) :
    outcome (work operation) prompt s host = (.error (.disk cause), { s with disk := left }) := by
  rw [outcome_work, met]
  rfl

/-- A host that refuses nothing lets every file be read. -/
theorem outcome_permit (path : Text) :
    outcome (work fun host disk => host.permit disk path) prompt s = (.ok (), s) := rfl

end Flow

/-- During a run that has asked some questions, one of them had a reply. -/
def Prompt.Replied (prompt : Prompt) (asked : List Question) (q : Question) (reply : q.Reply) :
    Prop :=
  ∃ before after, asked = before ++ q :: after ∧ prompt.answer before q = .ok reply

/-- The user who types one text whenever a text is asked for, and has no other reply. -/
def Prompt.entering (text : Text) : Prompt where
  answer _ q :=
    match q with
    | .input _ _ => .ok text
    | _ => .error .canceled

/-- The user who takes every text that is suggested, and has no other reply. -/
def Prompt.accepting : Prompt where
  answer _ q :=
    match q with
    | .input _ suggestion => .ok suggestion
    | _ => .error .canceled

/-- The document that a settings file holds; an empty one while there is no file. -/
def documentOf : Option Text → Except Ini.Problem Document
  | some t => Document.parse t
  | none => .ok .empty

/-- The empty text says nothing. -/
theorem parse_nil : Document.parse [] = .ok .empty := by
  have nothing : Ini.items [] = .ok [] := Ini.itemsFrom_nil none []
  exact Document.parse_of_items nothing

namespace Disk.Rewrites

variable {d d' d'' : Disk} {path s t : Text}

/-- Of two texts written one after the other, the second one stays. -/
theorem trans (first : d.Rewrites path s d') (second : d'.Rewrites path t d'') :
    d.Rewrites path t d'' where
  directory := second.directory.trans first.directory
  holds := second.holds
  others apart holds := by
    have again := apart
    rw [← first.directory] at again
    exact second.others again (first.others apart holds)

end Disk.Rewrites

namespace Host

variable {d written : Disk} {path s : Text} {cause : Refusal}

/-- A host that refuses nothing writes what the disk lets it write. -/
theorem willing_write_of_ok (wrote : d.write path (.text s) = .ok written) :
    willing.write d path s = (written, none) := by
  simp only [write, willing, wrote]

/-- It meets the obstacles that the disk has. -/
theorem willing_write_of_error (refused : d.write path (.text s) = .error cause) :
    willing.write d path s = (d, some cause) := by
  simp only [write, willing, refused]

end Host

/-! ## Documents -/

namespace Store

variable {store : Store} (prompt : Prompt) {s : Session} {content : Option Text} {d : Document}

/-- What loading comes to on a disk. -/
def finding (store : Store) (disk : Disk) (host : Host := .willing) : Except Fault Document :=
  match (host.permit disk store.path).2 with
  | some cause => .error (.disk cause)
  | none => store.find disk

/-- A host that refuses nothing shows what is there. -/
theorem finding_willing (store : Store) (disk : Disk) : store.finding disk = store.find disk := rfl

/-- Loading comes to that, and only logs. -/
theorem outcome_load (store : Store) (s : Session) (host : Host) : ∃ log, ∀ prompt,
    store.load.outcome prompt s host = (store.finding s.disk host, { s with log := log }) := by
  simp only [load, finding, Flow.outcome_bind, Flow.outcome_work, Flow.outcome_get, Host.permit]
  cases host.unread? s.disk store.path with
  | some reason => exact ⟨s.log, fun _ => rfl⟩
  | none =>
    dsimp only [Option.map_none, Option.elim_none]
    cases store.find s.disk with
    | error fault => exact ⟨s.log, fun _ => rfl⟩
    | ok d => exact ⟨_, fun _ => rfl⟩

/-- A file that is not there is missing. -/
theorem find_of_missing {disk : Disk} (finds : disk.Finds store.path none) :
    store.find disk = .error (.missingFile store.path) := by
  have missing : disk.read store.path = .error .missing := finds
  rw [find, missing]

/-- A file that holds a document is found. -/
theorem find_of_finds {disk : Disk} {t : Text} (finds : disk.Finds store.path (some t))
    (read : Document.parse t = .ok d) : store.find disk = .ok d := by
  have there : disk.read store.path = .ok t := finds
  rw [find, there]
  simp only [parse, read]

/-- The sections that are found in a file are those of its text. -/
theorem sections_find_iff {disk : Disk} {t : Text} {names : List Text}
    (finds : disk.Finds store.path (some t)) :
    (store.find disk).map Document.sections = .ok names ↔
      (Document.parse t).map Document.sections = .ok names := by
  cases read : Document.parse t with
  | ok d =>
    rw [find_of_finds finds read]
    exact ⟨fun kept => congrArg Except.ok (Except.ok.inj kept),
      fun kept => congrArg Except.ok (Except.ok.inj kept)⟩
  | error problem =>
    have there : disk.read store.path = .ok t := finds
    rw [find, there]
    simp only [parse, read]
    exact iff_of_false (fun kept => by cases kept) fun kept => by cases kept

/-- A file that is not there cannot be loaded. -/
theorem load_missing (finds : s.disk.Finds store.path none) :
    store.load.outcome prompt s = (.error (.missingFile store.path), s) := by
  rw [load, Flow.outcome_bind_of_ok prompt s (Flow.outcome_permit prompt s _), Flow.outcome_bind,
    Flow.outcome_get]
  dsimp only
  rw [find_of_missing finds]
  rfl

/-- A file that holds a document is loaded. -/
theorem outcome_load_of_finds {t : Text} (finds : s.disk.Finds store.path (some t))
    (read : Document.parse t = .ok d) :
    ∃ log, store.load.outcome prompt s = (.ok d, { s with log := log }) := by
  obtain ⟨log, loaded⟩ := store.outcome_load s .willing
  refine ⟨log, ?_⟩
  rw [loaded, finding_willing, find_of_finds finds read]

/-- The document that is found in a store, or an empty one. -/
def contents (store : Store) (disk : Disk) : Document :=
  match store.find disk with
  | .ok d => d
  | .error _ => .empty

/-- Whether there is a file in a store. -/
def exists? (store : Store) (disk : Disk) : Bool :=
  match store.find disk with
  | .error (.missingFile _) => false
  | _ => true

/-- The contents of a store are the document that its file holds. -/
theorem contents_eq (store : Store) {disk : Disk} {content : Option Text} {d : Document}
    (holds : disk.Holds store.path content) (read : documentOf content = .ok d) :
    store.contents disk = d := by
  rw [contents]
  cases content with
  | some t => rw [find_of_finds holds.finds read]
  | none =>
    cases read
    rw [find_of_missing holds.finds]

/-- There is a file in a store exactly when it holds a text. -/
theorem exists?_eq (store : Store) {disk : Disk} {content : Option Text}
    (holds : disk.Holds store.path content) : store.exists? disk = content.isSome := by
  rw [exists?, find]
  cases content with
  | some t =>
    rw [holds.read]
    cases parsed : Document.parse t <;> simp [parse, parsed]
  | none =>
    rw [holds.read_absent]
    rfl

/-- A file that can be loaded holds a document. -/
theorem parse_of_find {d : Document} {disk : Disk} (found : store.find disk = .ok d) :
    ∃ t, disk.Holds store.path (some t) ∧ Document.parse t = .ok d := by
  rw [find] at found
  split at found
  · cases found
  · cases found
  · rename_i t read
    refine ⟨t, .text read, ?_⟩
    rw [parse] at found
    split at found
    · rename_i same
      cases found
      exact same
    · cases found

/-- What a store is taken for: the document in it, or an empty one if there is no file. -/
def taken (store : Store) (disk : Disk) (host : Host := .willing) : Except Fault Document :=
  match store.finding disk host with
  | .error (.missingFile _) => .ok .empty
  | found => found

/-- A store is taken for the document of what a reader finds. -/
theorem taken_of_finds {disk : Disk} (finds : disk.Finds store.path content)
    (read : documentOf content = .ok d) : store.taken disk = .ok d := by
  cases content with
  | none =>
    cases read
    rw [taken, finding_willing, find_of_missing finds]
  | some t => rw [taken, finding_willing, find_of_finds finds read]

/-- A document that is loaded, or taken for a missing file, is that one. -/
theorem outcome_loadOrEmpty (store : Store) (s : Session) (host : Host) : ∃ log, ∀ prompt,
    store.loadOrEmpty.outcome prompt s host = (store.taken s.disk host, { s with log := log }) := by
  obtain ⟨log, loaded⟩ := store.outcome_load s host
  simp only [loadOrEmpty, Flow.outcome_bind, Flow.outcome_attempt, loaded, taken]
  rcases store.finding s.disk host with (_ | _ | _ | _ | path | _ | _ | _ | _ | _) | d
  all_goals exact ⟨_, fun _ => rfl⟩

/-! ## Writing -/

/-- What filling a file does to a disk, once the way to it is made. -/
def filling (store : Store) (t : Text) (disk : Disk) (host : Host := .willing) :
    Except Fault Unit × Disk :=
  match host.write disk store.path t with
  | (left, some cause) => (.error (.disk cause), left)
  | (written, none) =>
    match store.restrict host written with
    | (left, some cause) => (.error (.disk cause), left)
    | (kept, none) => (.ok (), kept)

/-- What writing a text into a store does to a disk. -/
def writing (store : Store) (t : Text) (disk : Disk) (host : Host := .willing) :
    Except Fault Unit × Disk :=
  match host.makeWay disk store.path with
  | (made, some cause) => (.error (.disk cause), made)
  | (made, none) => store.filling t made host

/-- A write does nothing but that. -/
theorem outcome_write (store : Store) (t : Text) (prompt : Prompt) (s : Session) (host : Host) :
    (store.write t).outcome prompt s host =
      ((store.writing t s.disk host).1, { s with disk := (store.writing t s.disk host).2 }) := by
  rw [write, writing]
  cases made : host.makeWay s.disk store.path with
  | mk way obstacle =>
    cases obstacle with
    | some cause =>
      exact Flow.outcome_bind_of_error prompt s (Flow.outcome_work_of_obstacle prompt s made) _
    | none =>
      rw [Flow.outcome_bind_of_ok prompt s (Flow.outcome_work_of_done prompt s made)]
      dsimp only [filling]
      cases wrote : host.write way store.path t with
      | mk written obstacle =>
        cases obstacle with
        | some cause =>
          exact Flow.outcome_bind_of_error prompt _
            (Flow.outcome_work_of_obstacle prompt _ wrote) _
        | none =>
          rw [Flow.outcome_bind_of_ok prompt _ (Flow.outcome_work_of_done prompt _ wrote),
            Flow.outcome_work]
          dsimp only
          rcases store.restrict host written with ⟨kept, _ | cause⟩ <;> rfl

section Willing

variable {t : Text} {disk made written : Disk} {cause : Refusal}

/-- On a host that refuses nothing, an obstacle on the way ends a write. -/
theorem writing_of_obstacle (way : disk.makeWay store.path = (made, some cause)) :
    store.writing t disk = (.error (.disk cause), made) := by
  have same : Host.willing.makeWay disk store.path = (made, some cause) := way
  rw [writing, same]

/-- So does a path that cannot be written at. -/
theorem filling_of_refused (refused : made.write store.path (.text t) = .error cause) :
    store.filling t made = (.error (.disk cause), made) := by
  rw [filling, Host.willing_write_of_error refused]

/-- Otherwise it succeeds. -/
theorem filling_of_written (wrote : made.write store.path (.text t) = .ok written) :
    store.filling t made =
      (.ok (), if store.isPrivate then written.setMode store.path ownerOnly else written) := by
  rw [filling, Host.willing_write_of_ok wrote]
  dsimp only [restrict]
  cases store.isPrivate <;> rfl

/-- Without an obstacle, the file is filled. -/
theorem writing_of_way (way : disk.makeWay store.path = (made, none)) :
    store.writing t disk = store.filling t made := by
  have same : Host.willing.makeWay disk store.path = (made, none) := way
  rw [writing, same]

/-- A text is written where the path accepts it, and nothing else changes. -/
theorem writing_of_holds (holds : disk.Holds store.path content) (t : Text) :
    ∃ written, disk.Rewrites store.path t written ∧ store.writing t disk = (.ok (), written) := by
  have accepts := holds.accepts
  obtain ⟨mode, done⟩ := accepts.write t
  rw [writing_of_way accepts.makeWay, filling_of_written done]
  cases store.isPrivate with
  | true => exact ⟨_, accepts.rewrites t ownerOnly, by rw [if_pos rfl, accepts.setMode]⟩
  | false => exact ⟨_, accepts.rewrites t mode, rfl⟩

end Willing

/-- Saving a document writes its text. -/
theorem outcome_save (store : Store) (d : Document) (prompt : Prompt) (s : Session) (host : Host) :
    ∃ log, (store.save d).outcome prompt s host = ((store.writing d.text s.disk host).1,
      { s with disk := (store.writing d.text s.disk host).2, log := log }) := by
  rw [save, Flow.outcome_bind, outcome_write]
  cases (store.writing d.text s.disk host).1 with
  | error fault => exact ⟨s.log, rfl⟩
  | ok done => exact ⟨_, rfl⟩

/-- A document is saved where the path accepts it, and nothing else changes. -/
theorem outcome_save_of_holds (holds : s.disk.Holds store.path content) (d : Document) :
    ∃ written log, s.disk.Rewrites store.path d.text written ∧
      (store.save d).outcome prompt s = (.ok (), { s with disk := written, log := log }) := by
  obtain ⟨written, rewrites, done⟩ := writing_of_holds holds d.text
  obtain ⟨log, saved⟩ := store.outcome_save d prompt s .willing
  rw [done] at saved
  exact ⟨written, log, rewrites, saved⟩

/-- Making an empty file writes the empty text. -/
theorem outcome_createEmpty (store : Store) (prompt : Prompt) (s : Session) (host : Host) :
    ∃ log, store.createEmpty.outcome prompt s host = ((store.writing [] s.disk host).1,
      { s with disk := (store.writing [] s.disk host).2, log := log }) := by
  rw [createEmpty, Flow.outcome_bind, outcome_write]
  cases (store.writing [] s.disk host).1 with
  | error fault => exact ⟨s.log, rfl⟩
  | ok done => exact ⟨_, rfl⟩

end Store

/-! ## Keys and regions -/

namespace Credentials

/-- A document holds a pair when both halves are there. -/
theorem ofDocument?_eq_some_iff {d : Document} {profile : Text} {c : Credentials} :
    ofDocument? d profile = some c ↔
      d.get? profile idKey = some c.id ∧ d.get? profile secretKey = some c.secret := by
  rw [ofDocument?, Naming.sectionFor]
  cases d.get? profile idKey <;> cases d.get? profile secretKey <;> simp
  constructor
  · rintro rfl
    exact ⟨rfl, rfl⟩
  · rintro ⟨rfl, rfl⟩
    rfl

/-- What retrieving a pair comes to on a disk. -/
def retrieving (store : Store) (profile : Text) (disk : Disk) (host : Host := .willing) :
    Except Fault Credentials :=
  match store.finding disk host with
  | .error fault => .error fault
  | .ok keys =>
    match ofDocument? keys profile with
    | some c => .ok c
    | none => .error (.notFound (Fault.keysOf profile))

/-- Retrieving a pair comes to that, and only logs. -/
theorem outcome_retrieve (store : Store) (profile : Text) (s : Session) (host : Host) :
    ∃ log, ∀ prompt, (retrieve store profile).outcome prompt s host =
      (retrieving store profile s.disk host, { s with log := log }) := by
  obtain ⟨log, loaded⟩ := store.outcome_load s host
  refine ⟨log, fun prompt => ?_⟩
  rw [retrieve, Flow.outcome_bind, loaded, retrieving]
  cases store.finding s.disk host with
  | error fault => rfl
  | ok keys => cases stored : ofDocument? keys profile <;> simp only [stored] <;> rfl

/-- What adding a pair to a document does to a disk. -/
def adding (store : Store) (profile : Text) (c : Credentials) (disk : Disk)
    (host : Host := .willing) : Except Fault Unit × Disk :=
  match store.finding disk host with
  | .error fault => (.error fault, disk)
  | .ok keys => store.writing (c.storeIn profile keys).text disk host

/-- The second half of storing a pair does that. -/
theorem outcome_adding (store : Store) (profile : Text) (c : Credentials) (prompt : Prompt)
    (s : Session) (host : Host) :
    ∃ log, Flow.outcome (do
        store.save (c.storeIn profile (← store.load))
        Flow.info ("stored credentials for profile " ++ profile.quoted ++ " in " ++ store.path))
        prompt s host = ((adding store profile c s.disk host).1,
        { s with disk := (adding store profile c s.disk host).2, log := log }) := by
  obtain ⟨log, loaded⟩ := store.outcome_load s host
  rw [Flow.outcome_bind, loaded, adding]
  cases store.finding s.disk host with
  | error fault => exact ⟨log, rfl⟩
  | ok keys =>
    obtain ⟨log', saved⟩ :=
      store.outcome_save (c.storeIn profile keys) prompt { s with log := log } host
    dsimp only
    rw [Flow.outcome_bind, saved]
    cases (store.writing (c.storeIn profile keys).text s.disk host).1 with
    | error fault => exact ⟨log', rfl⟩
    | ok done => exact ⟨_, rfl⟩

/-- What making a file for a pair does to a disk. -/
def making (store : Store) (profile : Text) (c : Credentials) (disk : Disk)
    (host : Host := .willing) : Except Fault Unit × Disk :=
  match store.writing [] disk host with
  | (.error fault, made) => (.error fault, made)
  | (.ok _, made) => adding store profile c made host

/-- A file that cannot be made takes no pair. -/
theorem making_of_error {store : Store} {disk : Disk} {host : Host} {fault : Fault}
    (failed : (store.writing [] disk host).1 = .error fault) (profile : Text) (c : Credentials) :
    making store profile c disk host = (.error fault, (store.writing [] disk host).2) := by
  rw [making]
  obtain ⟨⟨reply, made⟩, wrote⟩ : ∃ wrote, store.writing [] disk host = wrote := ⟨_, rfl⟩
  rw [wrote] at failed ⊢
  obtain rfl : reply = .error fault := failed
  rfl

/-- Into a file that is made, the pair is added. -/
theorem making_of_ok {store : Store} {disk : Disk} {host : Host}
    (done : (store.writing [] disk host).1 = .ok ()) (profile : Text) (c : Credentials) :
    making store profile c disk host =
      adding store profile c (store.writing [] disk host).2 host := by
  rw [making]
  obtain ⟨⟨reply, made⟩, wrote⟩ : ∃ wrote, store.writing [] disk host = wrote := ⟨_, rfl⟩
  rw [wrote] at done ⊢
  obtain rfl : reply = .ok () := done
  rfl

/-- What storing a pair does to a disk. -/
def saving (store : Store) (profile : Text) (c : Credentials) (disk : Disk)
    (host : Host := .willing) : Except Fault Unit × Disk :=
  match retrieving store profile disk host with
  | .ok _ => (.error (.alreadyExists (Fault.keysOf profile)), disk)
  | .error (.missingFile _) => making store profile c disk host
  | .error (.notFound _) => adding store profile c disk host
  | .error fault => (.error fault, disk)

/-- Storing a pair does that, whatever the user does. -/
theorem outcome_save (store : Store) (profile : Text) (c : Credentials) (prompt : Prompt)
    (s : Session) (host : Host) :
    ∃ log, (save store profile c).outcome prompt s host =
      ((saving store profile c s.disk host).1,
        { s with disk := (saving store profile c s.disk host).2, log := log }) := by
  obtain ⟨log, retrieved⟩ := outcome_retrieve store profile s host
  rw [save, Flow.outcome_bind, Flow.outcome_attempt, retrieved, saving]
  rcases retrieving store profile s.disk host with
    (subject | _ | _ | _ | path | _ | _ | _ | _ | _) | stored
  case error.notFound => exact outcome_adding store profile c prompt { s with log := log } host
  case error.missingFile =>
    obtain ⟨log', created⟩ := store.outcome_createEmpty prompt { s with log := log } host
    dsimp only at created ⊢
    rw [Flow.outcome_bind, created, making]
    rcases store.writing [] s.disk host with ⟨fault | done, made⟩
    · exact ⟨log', rfl⟩
    · exact outcome_adding store profile c prompt { s with disk := made, log := log' } host
  all_goals exact ⟨log, rfl⟩

section Stored

variable (store : Store) (prompt : Prompt) {s : Session} {content : Option Text} {d : Document}
  (profile : Text)

/-- No pair is retrieved from a file that is not there. -/
theorem retrieve_missing (holds : s.disk.Holds store.path none) :
    (retrieve store profile).outcome prompt s = (.error (.missingFile store.path), s) := by
  rw [retrieve, Flow.outcome_bind_of_error prompt s (Store.load_missing prompt holds.finds)]

/-- The pair that the document of a file holds is what retrieving comes to. -/
theorem retrieving_of_holds {disk : Disk} {t : Text} (holds : disk.Holds store.path (some t))
    (read : Document.parse t = .ok d) : retrieving store profile disk =
      (ofDocument? d profile).elim (.error (.notFound (Fault.keysOf profile))) .ok := by
  rw [retrieving, Store.finding_willing, Store.find_of_finds holds.finds read]
  dsimp only
  cases ofDocument? d profile <;> rfl

/-- So that pair is retrieved. -/
theorem outcome_retrieve_of_holds {t : Text} (holds : s.disk.Holds store.path (some t))
    (read : Document.parse t = .ok d) :
    ∃ log, (retrieve store profile).outcome prompt s =
      ((ofDocument? d profile).elim (.error (.notFound (Fault.keysOf profile))) .ok,
        { s with log := log }) := by
  obtain ⟨log, retrieved⟩ := outcome_retrieve store profile s .willing
  exact ⟨log, by rw [retrieved, retrieving_of_holds store profile holds read]⟩

/-- A pair that is stored is not replaced. -/
theorem save_stored {t : Text} (holds : s.disk.Holds store.path (some t))
    (read : Document.parse t = .ok d) {stored : Credentials}
    (found : ofDocument? d profile = some stored) (c : Credentials) :
    ∃ log, (save store profile c).outcome prompt s =
      (.error (.alreadyExists (Fault.keysOf profile)), { s with log := log }) := by
  obtain ⟨log, saved⟩ := outcome_save store profile c prompt s .willing
  rw [saving, retrieving_of_holds store profile holds read, found] at saved
  exact ⟨log, saved⟩

/-- A pair is added to the document of a file. -/
theorem adding_of_holds {disk : Disk} {t : Text} (holds : disk.Holds store.path (some t))
    (read : Document.parse t = .ok d) (c : Credentials) :
    ∃ written, disk.Rewrites store.path (c.storeIn profile d).text written ∧
      adding store profile c disk = (.ok (), written) := by
  rw [adding, Store.finding_willing, Store.find_of_finds holds.finds read]
  exact Store.writing_of_holds holds _

/-- A pair is stored for a profile that has none. -/
theorem saving_of_unstored {disk : Disk} (holds : disk.Holds store.path content)
    (read : documentOf content = .ok d) (unstored : ofDocument? d profile = none)
    (c : Credentials) :
    ∃ written, disk.Rewrites store.path (c.storeIn profile d).text written ∧
      saving store profile c disk = (.ok (), written) := by
  rw [saving]
  cases content with
  | some t =>
    rw [retrieving_of_holds store profile holds read, unstored]
    exact adding_of_holds store profile holds read c
  | none =>
    cases read
    obtain ⟨made, makes, created⟩ := Store.writing_of_holds holds []
    obtain ⟨written, rewrites, added⟩ := adding_of_holds store profile makes.holds parse_nil c
    rw [retrieving, Store.finding_willing, Store.find_of_missing holds.finds]
    refine ⟨written, makes.trans rewrites, ?_⟩
    dsimp only
    rw [making, created]
    exact added

/-- So the flow that stores it succeeds. -/
theorem outcome_save_of_unstored (holds : s.disk.Holds store.path content)
    (read : documentOf content = .ok d) (unstored : ofDocument? d profile = none)
    (c : Credentials) :
    ∃ written log, s.disk.Rewrites store.path (c.storeIn profile d).text written ∧
      (save store profile c).outcome prompt s =
        (.ok (), { s with disk := written, log := log }) := by
  obtain ⟨written, rewrites, done⟩ := saving_of_unstored store profile holds read unstored c
  obtain ⟨log, saved⟩ := outcome_save store profile c prompt s .willing
  rw [done] at saved
  exact ⟨written, log, rewrites, saved⟩

end Stored

end Credentials

namespace Region

/-- The question for the region of a profile. -/
def question (d : Document) (suggested profile : Text) : Question :=
  .input "Region" (suggestionFor d suggested profile)

/-- A document after storing a region for a profile. -/
def storeIn (region profile : Text) (d : Document) : Document :=
  d.set (Naming.prefixed.sectionFor profile) key region

section Outcomes

variable (store : Store) (prompt : Prompt) {s : Session} {content : Option Text} {d : Document}
  (suggested profile : Text) (holds : s.disk.Holds store.path content)
  (read : documentOf content = .ok d)

include holds read in
/-- The region is asked for; the rest depends on the answer. -/
theorem resolve_asks :
    ∃ log, (resolve store suggested profile).outcome prompt s =
      match prompt.answer s.asked (question d suggested profile) with
      | .error fault =>
        (.error fault, { s with asked := s.asked ++ [question d suggested profile], log := log })
      | .ok typed =>
        Flow.outcome (do
          if (Text.trim typed).isEmpty then throw emptyRegion
          if !d.has (Naming.prefixed.sectionFor profile) then
            Flow.info ("adding section [" ++ Naming.prefixed.sectionFor profile ++ "] to " ++
              store.path)
          store.save (storeIn (Text.trim typed) profile d)
          Flow.info ("region for profile " ++ profile.quoted ++ " set to " ++ Text.trim typed)
          return Text.trim typed) prompt
          { s with asked := s.asked ++ [question d suggested profile], log := log } := by
  obtain ⟨log, loaded⟩ := store.outcome_loadOrEmpty s .willing
  refine ⟨log, ?_⟩
  rw [resolve, Flow.outcome_bind, loaded, Store.taken_of_finds holds.finds read]
  dsimp only
  rw [Flow.outcome_bind, Flow.outcome_ask]
  cases answered : prompt.answer s.asked (question d suggested profile) with
  | error fault =>
    simp only [question] at answered
    simp only [answered, question]
  | ok typed =>
    simp only [question] at answered
    simp only [answered, question]
    rfl

include holds read in
/-- Without an answer, no region is stored. -/
theorem resolve_unanswered {fault : Fault}
    (unanswered : prompt.answer s.asked (question d suggested profile) = .error fault) :
    ∃ log, (resolve store suggested profile).outcome prompt s = (.error fault,
      { s with asked := s.asked ++ [question d suggested profile], log := log }) := by
  obtain ⟨log, asks⟩ := resolve_asks store prompt suggested profile holds read
  rw [unanswered] at asks
  exact ⟨log, asks⟩

include holds read in
/-- A blank answer is refused. -/
theorem resolve_blank {typed : Text}
    (answered : prompt.answer s.asked (question d suggested profile) = .ok typed)
    (blank : typed.trim = []) :
    ∃ log, (resolve store suggested profile).outcome prompt s = (.error emptyRegion,
      { s with asked := s.asked ++ [question d suggested profile], log := log }) := by
  obtain ⟨log, asks⟩ := resolve_asks store prompt suggested profile holds read
  refine ⟨log, ?_⟩
  rw [asks, answered]
  simp only [blank]
  rfl

include holds read in
/-- Any other answer is stored. -/
theorem resolve_answered {typed : Text}
    (answered : prompt.answer s.asked (question d suggested profile) = .ok typed)
    (visible : typed.trim ≠ []) :
    ∃ written log, s.disk.Rewrites store.path (storeIn typed.trim profile d).text written ∧
      (resolve store suggested profile).outcome prompt s = (.ok typed.trim,
        ⟨written, s.asked ++ [question d suggested profile], log⟩) := by
  obtain ⟨log, asks⟩ := resolve_asks store prompt suggested profile holds read
  rw [answered] at asks
  have filled : (Text.trim typed).isEmpty = false := by simpa using visible
  simp only [filled, Bool.false_eq_true, if_false] at asks
  have saves : ∀ log', ∃ written log'',
      s.disk.Rewrites store.path (storeIn typed.trim profile d).text written ∧
      Flow.outcome (do
        store.save (storeIn (Text.trim typed) profile d)
        Flow.info ("region for profile " ++ profile.quoted ++ " set to " ++ Text.trim typed)
        return Text.trim typed) prompt
        { s with asked := s.asked ++ [question d suggested profile], log := log' } =
      (.ok typed.trim, ⟨written, s.asked ++ [question d suggested profile], log''⟩) := by
    intro log'
    obtain ⟨written, log'', rewrites, saved⟩ := Store.outcome_save_of_holds prompt
      (s := { s with asked := s.asked ++ [question d suggested profile], log := log' }) holds
      (storeIn typed.trim profile d)
    refine ⟨written, log'' ++ [⟨.info, "region for profile " ++ profile.quoted ++ " set to " ++
      typed.trim⟩], rewrites, ?_⟩
    rw [Flow.outcome_bind_of_ok prompt _ saved]
    rfl
  cases known : d.has (Naming.prefixed.sectionFor profile) with
  | true =>
    rw [known] at asks
    obtain ⟨written, log', rewrites, done⟩ := saves log
    exact ⟨written, log', rewrites, asks.trans done⟩
  | false =>
    rw [known, Bool.not_false, if_pos rfl,
      Flow.outcome_bind_of_ok prompt _ (Flow.outcome_info _ _ _)] at asks
    obtain ⟨written, log', rewrites, done⟩ := saves (log ++ [⟨.info, "adding section [" ++
      Naming.prefixed.sectionFor profile ++ "] to " ++ store.path⟩])
    exact ⟨written, log', rewrites, asks.trans done⟩

include holds read in
/-- Whatever comes of it, the region is asked for once, and nothing else is. -/
theorem resolve_asked : ((resolve store suggested profile).outcome prompt s).2.asked =
    s.asked ++ [question d suggested profile] := by
  cases answered : prompt.answer s.asked (question d suggested profile) with
  | error fault =>
    obtain ⟨log, failed⟩ := resolve_unanswered store prompt suggested profile holds read answered
    rw [failed]
  | ok typed =>
    by_cases blank : Text.trim typed = []
    · obtain ⟨log, failed⟩ := resolve_blank store prompt suggested profile holds read answered blank
      rw [failed]
    · obtain ⟨written, log, -, done⟩ := resolve_answered store prompt suggested profile holds read
        answered blank
      rw [done]

end Outcomes

end Region

end ProfilePicker
