import ProfilePicker.Proofs.Runs
import ProfilePicker.Proofs.Writes

/-!
# What each operation does to a disk

For every operation and every disk: which of them only look at the disk, what one that succeeds has
written, and that one that fails has made directories at most. Reading never depends on the user.
Neither does storing a pair of keys, so what it does is a function of the disk.
-/
namespace ProfilePicker

open Ini (Document)

/-! ## Writes one after the other -/

namespace Disk

variable {d d' d'' : Disk} {path : Text}

/-- Directories that are made one after the other. -/
theorem Opens.trans {ps : List Place} {p : Place} (first : Opens ps d d' p)
    (second : Opens ps d' d'' p) : Opens ps d d'' p := by
  rcases first with same | ⟨member, nothing, fits, made⟩
  · rw [Opens, ← same]
    exact second
  · rcases second with same | ⟨-, absent, -⟩
    · exact .inr ⟨member, nothing, fits, same.trans made⟩
    · rw [made] at absent
      cases absent

/-- To do nothing is to make no directory. -/
theorem MakesWay.refl (d : Disk) (path : Text) : d.MakesWay path d := ⟨rfl, fun _ => .inl rfl⟩

/-- Of two contents left one after the other, the second one stays. -/
theorem Leaves.trans {b c : Content} (first : d.Leaves path b d')
    (second : d'.Leaves path c d'') : d.Leaves path c d'' := by
  have place : d'.place path = d.place path := congrArg (Path.place · path) first.directory
  refine ⟨second.directory.trans first.directory, second.content, fun p away => ?_⟩
  have later := second.node p (place ▸ away)
  rw [first.directory] at later
  exact (first.node p away).trans later

end Disk

/-! ## Flows that look and log -/

namespace Flow

variable {α β : Type} {host : Host} {prompt : Prompt} {s s' : Session}

/-- A flow that asks nobody and changes nothing but the log, however it ends. -/
def OnlyLogs (flow : Flow α) : Prop :=
  ∀ s host, ∃ result log, ∀ prompt, flow.outcome prompt s host = (result, { s with log := log })

/-- To return is to change nothing. -/
theorem OnlyLogs.pure (a : α) : OnlyLogs (Pure.pure a : Flow α) :=
  fun s _ => ⟨.ok a, s.log, fun _ => rfl⟩

/-- So is to fail. -/
theorem OnlyLogs.throw (fault : Fault) : OnlyLogs (throw fault : Flow α) :=
  fun s _ => ⟨.error fault, s.log, fun _ => rfl⟩

/-- To log is to change the log. -/
theorem OnlyLogs.log (level : Level) (text : Text) : OnlyLogs (Flow.log level text) :=
  fun _ _ => ⟨.ok (), _, fun _ => rfl⟩

/-- Two flows that only log do so together. -/
theorem OnlyLogs.bind {flow : Flow α} {next : α → Flow β} (first : flow.OnlyLogs)
    (second : ∀ a, (next a).OnlyLogs) : (flow >>= next).OnlyLogs := by
  intro s host
  obtain ⟨result, log, ran⟩ := first s host
  cases result with
  | error fault =>
    exact ⟨.error fault, log, fun prompt => outcome_bind_of_error prompt s (ran prompt) next⟩
  | ok a =>
    obtain ⟨result, log', more⟩ := second a { s with log := log } host
    exact ⟨result, log', fun prompt =>
      (outcome_bind_of_ok prompt s (ran prompt) next).trans (more prompt)⟩

/-- A flow whose fault is returned only logs when the flow does. -/
theorem OnlyLogs.attempt {flow : Flow α} (only : flow.OnlyLogs) : flow.attempt.OnlyLogs := by
  intro s host
  obtain ⟨result, log, ran⟩ := only s host
  exact ⟨.ok result, log, fun prompt => by rw [outcome_attempt, ran]⟩

/-- Choosing among the members of a list only logs when each choice does. -/
theorem OnlyLogs.filterMapM {f : α → Flow (Option β)} (each : ∀ a, (f a).OnlyLogs) (l : List α) :
    (l.filterMapM f).OnlyLogs := by
  have loop : ∀ (l : List α) (found : List β), (List.filterMapM.loop f l found).OnlyLogs := by
    intro l
    induction l with
    | nil => exact fun found => .pure _
    | cons a l ih =>
      intro found
      rw [List.filterMapM.loop]
      refine (each a).bind fun choice => ?_
      cases choice with
      | none => exact ih found
      | some b => exact ih (b :: found)
  exact loop l []

/-- Two flows end as the first one does when it fails, and else as the second one does. -/
theorem cases_of_bind {flow : Flow α} {next : α → Flow β} {result : Except Fault β}
    (ran : (flow >>= next).outcome prompt s host = (result, s')) :
    (∃ fault, flow.outcome prompt s host = (.error fault, s') ∧ result = .error fault) ∨
      ∃ a between, flow.outcome prompt s host = (.ok a, between) ∧
        (next a).outcome prompt between host = (result, s') := by
  rw [outcome_bind] at ran
  split at ran
  · rename_i a between first
    exact .inr ⟨a, between, first, ran⟩
  · rename_i fault between first
    cases ran
    exact .inl ⟨fault, first, rfl⟩

/-- A question that is asked in vain has no reply, and it counts as asked. -/
theorem error_of_ask {q : Question} {fault : Fault}
    (failed : (ask q).outcome prompt s host = (.error fault, s')) :
    prompt.answer s.asked q = .error fault ∧ s' = { s with asked := s.asked ++ [q] } := by
  rw [outcome_ask, Prod.mk.injEq] at failed
  exact ⟨failed.1, failed.2.symm⟩

/-- A flow that only logs has not changed the disk, nor asked. -/
theorem OnlyLogs.of_outcome {flow : Flow α} (only : flow.OnlyLogs) {result : Except Fault α}
    (ran : flow.outcome prompt s host = (result, s')) :
    s'.disk = s.disk ∧ s'.asked = s.asked := by
  obtain ⟨result', log, ends⟩ := only s host
  cases (ends prompt).symm.trans ran
  exact ⟨rfl, rfl⟩

end Flow

/-! ## Reading -/

namespace Store

variable {store : Store}

/-- Loading only logs. -/
theorem load_onlyLogs (store : Store) : store.load.OnlyLogs := by
  intro s host
  obtain ⟨log, loaded⟩ := store.outcome_load s host
  exact ⟨_, log, loaded⟩

/-- So does loading with an empty document for a missing file. -/
theorem loadOrEmpty_onlyLogs (store : Store) : store.loadOrEmpty.OnlyLogs := by
  refine store.load_onlyLogs.attempt.bind fun loaded => ?_
  rcases loaded with (_ | _ | _ | _ | path | _ | _ | _ | _ | _) | d
  case error.missingFile => exact (Flow.OnlyLogs.log _ _).bind fun _ => .pure _
  case ok => exact .pure d
  all_goals exact .throw _

/-- A store is not found only where no file is. -/
theorem finds_of_find_missing {disk : Disk} {path : Text}
    (found : store.find disk = .error (.missingFile path)) : disk.Finds store.path none := by
  rw [find] at found
  split at found
  · assumption
  · cases found
  · rw [parse] at found
    split at found <;> cases found

/-- No document is without keys before it is read. -/
theorem find_ne_notFound {disk : Disk} {subject : Text} :
    store.find disk ≠ .error (.notFound subject) := by
  intro found
  rw [find] at found
  split at found
  · cases found
  · cases found
  · rw [parse] at found
    split at found <;> cases found

/-- What a store is taken for is the document of what a reader finds. -/
theorem finds_of_taken {disk : Disk} {host : Host} {d : Document}
    (taken : store.taken disk host = .ok d) :
    ∃ content, disk.Finds store.path content ∧ documentOf content = .ok d := by
  rw [Store.taken, finding] at taken
  split at taken
  · rename_i path found
    cases taken
    split at found
    · cases found
    · exact ⟨none, finds_of_find_missing found, rfl⟩
  · split at taken
    · cases taken
    · obtain ⟨t, holds, read⟩ := parse_of_find taken
      exact ⟨some t, holds.finds, read⟩

/-- So is a document that is loaded, or taken for a missing file. -/
theorem finds_of_loadOrEmpty {host : Host} {prompt : Prompt} {s s' : Session} {d : Document}
    (done : store.loadOrEmpty.outcome prompt s host = (.ok d, s')) :
    ∃ content, s.disk.Finds store.path content ∧ documentOf content = .ok d := by
  obtain ⟨log, loaded⟩ := store.outcome_loadOrEmpty s host
  exact finds_of_taken (congrArg Prod.fst ((loaded prompt).symm.trans done))

end Store

namespace Credentials

/-- Retrieving a pair only logs. -/
theorem retrieve_onlyLogs (store : Store) (profile : Text) :
    (retrieve store profile).OnlyLogs := by
  refine store.load_onlyLogs.bind fun d => ?_
  cases ofDocument? d profile with
  | some c => exact .pure c
  | none => exact .throw _

end Credentials

namespace Catalog

/-- Listing the profiles of a document only logs. -/
theorem profilesIn_onlyLogs (naming : Naming) (store : Store) (d : Document) :
    (profilesIn naming store d).OnlyLogs := by
  refine .filterMapM (fun name => ?_) _
  cases naming.profileFor? name with
  | some profile => exact .pure _
  | none => exact (Flow.OnlyLogs.log _ _).bind fun _ => .pure _

/-- So does listing those of a file. -/
theorem profilesOf_onlyLogs (naming : Naming) (store : Store) :
    (profilesOf naming store).OnlyLogs := by
  refine store.load_onlyLogs.attempt.bind fun loaded => ?_
  rcases loaded with (_ | _ | _ | _ | path | _ | _ | _ | _ | _) | d
  case error.missingFile => exact (Flow.OnlyLogs.log _ _).bind fun _ => .pure _
  case ok => exact profilesIn_onlyLogs naming store d
  all_goals exact .throw _

/-- Discovering profiles only logs. -/
theorem discover_onlyLogs (l : Locations) : (discover l).OnlyLogs :=
  (profilesOf_onlyLogs _ _).bind fun _ => (profilesOf_onlyLogs _ _).bind fun _ =>
    (Flow.OnlyLogs.log _ _).bind fun _ => .pure _

end Catalog

/-! ## Writing -/

/-- The document of a content has its text. -/
theorem text_of_documentOf {content : Option Text} {d : Document}
    (read : documentOf content = .ok d) : d.text = content.getD [] := by
  cases content with
  | none =>
    cases read
    rfl
  | some t =>
    obtain ⟨all, -, rfl⟩ := Document.items_of_parse read
    rfl

namespace Credentials

variable {store : Store} {profile : Text} {c : Credentials} {d : Disk}

/-- A file that is missed is missing. -/
theorem find_of_retrieving_missing {path : Text}
    (missed : retrieving store profile d = .error (.missingFile path)) :
    store.find d = .error (.missingFile path) := by
  rw [retrieving, Store.finding_willing] at missed
  split at missed
  · rename_i found
    cases missed
    exact found
  · split at missed <;> cases missed

/-- A profile without a pair is one of a file that can be loaded. -/
theorem find_of_retrieving_notFound {subject : Text}
    (unknown : retrieving store profile d = .error (.notFound subject)) :
    ∃ keys, store.find d = .ok keys ∧ ofDocument? keys profile = none := by
  rw [retrieving, Store.finding_willing] at unknown
  split at unknown
  · rename_i found
    cases unknown
    exact absurd found Store.find_ne_notFound
  · rename_i keys found
    split at unknown
    · cases unknown
    · rename_i unstored
      exact ⟨keys, found, unstored⟩

/-- A pair is added to the document that is found. -/
theorem adding_of_find {keys : Document} (found : store.find d = .ok keys) (profile : Text)
    (c : Credentials) :
    adding store profile c d = store.writing (c.storeIn profile keys).text d := by
  rw [adding, Store.finding_willing, found]

/-- A pair is added to a file that was made for it. -/
theorem adding_of_read_nil (read : d.read store.path = .ok []) (profile : Text) (c : Credentials) :
    adding store profile c d = store.writing (c.storeIn profile .empty).text d :=
  adding_of_find (Store.find_of_finds read parse_nil) profile c

/-- Storing a pair fails and makes directories at most, or it puts the pair into what a reader
found, where there was none. -/
theorem saving_cases (store : Store) (profile : Text) (c : Credentials) (d : Disk) :
    (∃ fault, (saving store profile c d).1 = .error fault ∧
      d.MakesWay store.path (saving store profile c d).2) ∨
    (saving store profile c d).1 = .ok () ∧ ∃ content keys, d.Finds store.path content ∧
      documentOf content = .ok keys ∧ ofDocument? keys profile = none ∧
      d.Puts store.path (c.storeIn profile keys).text (saving store profile c d).2 := by
  rw [saving]
  split
  · exact .inl ⟨_, rfl, .refl d _⟩
  · rename_i path missed
    have finds := Store.finds_of_find_missing (find_of_retrieving_missing missed)
    rcases store.writing_cases [] d with ⟨fault, failed, way⟩ | ⟨made, first⟩
    · rw [making_of_error failed]
      exact .inl ⟨fault, rfl, way⟩
    · have second := Store.writing_ok first.read (c.storeIn profile .empty).text
      rw [making_of_ok made, adding_of_read_nil first.read]
      exact .inr ⟨second, none, .empty, finds, rfl, rfl,
        first.trans (Store.puts_of_writing second)⟩
  · rename_i subject unknown
    obtain ⟨keys, found, unstored⟩ := find_of_retrieving_notFound unknown
    obtain ⟨t, holds, read⟩ := Store.parse_of_find found
    rw [adding_of_find found]
    rcases store.writing_cases (c.storeIn profile keys).text d with failed | ⟨done, puts⟩
    · exact .inl failed
    · exact .inr ⟨done, some t, keys, holds.finds, read, unstored, puts⟩
  · exact .inl ⟨_, rfl, .refl d _⟩

end Credentials

namespace Region

variable {store : Store} {prompt : Prompt} {s s' : Session} {suggested profile : Text}

/-- The text of a document with a region depends on the text of the file alone. -/
theorem text_storeIn {content : Option Text} {region : Text} {d : Document}
    (read : documentOf content = .ok d) : (storeIn region profile d).text =
      Ini.setLine (content.getD []) (Naming.prefixed.sectionFor profile) key region := by
  rw [← text_of_documentOf read]
  rfl

/-- The second half of resolving a region, once the user has answered. -/
def storing (store : Store) (profile : Text) (d : Document) (region : Text) : Flow Text := do
  if !d.has (Naming.prefixed.sectionFor profile) then
    Flow.info ("adding section [" ++ Naming.prefixed.sectionFor profile ++ "] to " ++ store.path)
  store.save (storeIn region profile d)
  Flow.info ("region for profile " ++ profile.quoted ++ " set to " ++ region)
  return region

/-- It writes the region, and returns it if that succeeds. -/
theorem outcome_storing (store : Store) (profile : Text) (d : Document) (region : Text)
    (prompt : Prompt) (s : Session) (host : Host) :
    ∃ log, (storing store profile d region).outcome prompt s host =
      ((store.writing (storeIn region profile d).text s.disk host).1.map fun _ => region,
        ⟨(store.writing (storeIn region profile d).text s.disk host).2, s.asked, log⟩) := by
  have saves : ∀ log, ∃ log', Flow.outcome (do
      store.save (storeIn region profile d)
      Flow.info ("region for profile " ++ profile.quoted ++ " set to " ++ region)
      return region) prompt { s with log := log } host =
      ((store.writing (storeIn region profile d).text s.disk host).1.map fun _ => region,
        ⟨(store.writing (storeIn region profile d).text s.disk host).2, s.asked, log'⟩) := by
    intro log
    obtain ⟨log', saved⟩ := store.outcome_save (storeIn region profile d) prompt
      { s with log := log } host
    rw [Flow.outcome_bind, saved]
    cases (store.writing (storeIn region profile d).text s.disk host).1 with
    | error fault => exact ⟨log', rfl⟩
    | ok done => exact ⟨_, rfl⟩
  rw [storing]
  cases d.has (Naming.prefixed.sectionFor profile) with
  | true => exact saves s.log
  | false =>
    obtain ⟨log, saved⟩ := saves _
    exact ⟨log, (Flow.outcome_bind_of_ok prompt s (Flow.outcome_info prompt s _) _).trans saved⟩

/-- A region is asked for, and the answer is stored unless it is blank. -/
theorem resolve_eq (store : Store) (suggested profile : Text) :
    resolve store suggested profile = (do
      let d ← store.loadOrEmpty
      let typed ← Flow.ask (question d suggested profile)
      if (Text.trim typed).isEmpty then throw emptyRegion
      storing store profile d (Text.trim typed)) := rfl

end Region

end ProfilePicker
