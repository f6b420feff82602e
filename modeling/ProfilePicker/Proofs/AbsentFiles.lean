import ProfilePicker.Proofs.Mirrors
import ProfilePicker.Proofs.SavedKeys
import ProfilePicker.Proofs.Secrecy

/-!
# Files that do not exist

A file that does not exist is as good as an empty one. Two runs of the selection that start from the
same disk, but for files that are missing on one side and empty on the other, return the same or
fail in the same way, and ask the same. Each file that one of them writes is written by the other
with the same text, and all others stay missing or empty as they were.
-/
namespace ProfilePicker

open Ini (Document)
open ProfilePicker.Flow (Alike Along)

/-! ## Runs on two disks -/

/-- Two states in which the same has been asked, on disks that are related. -/
def Session.Beside (D : Disk → Disk → Prop) (s t : Session) : Prop :=
  s.asked = t.asked ∧ D s.disk t.disk

namespace Session.Beside

variable {D D' : Disk → Disk → Prop}

/-- To be beside another state lasts, whatever is logged. -/
theorem lasting : Session.Lasting (Beside D) where
  asked related := related.1
  log _ related := related
  ask _ related := ⟨by rw [related.1], related.2⟩

/-- A wider relation holds between the same states. -/
theorem mono (wider : ∀ e e', D e e' → D' e e') (s t : Session) (related : Beside D s t) :
    Beside D' s t :=
  ⟨related.1, wider _ _ related.2⟩

end Session.Beside

open Session (Beside)

section Beside

variable {α : Type} {prompt : Prompt} {D D' F : Disk → Disk → Prop}

/-- The same question is asked alike, for the same user. -/
theorem ask_beside (wider : ∀ e e', D e e' → F e e') (question : Question) :
    Alike prompt prompt (Beside F) (Beside D) (Along (Beside D)) (Flow.ask question)
      (Flow.ask question) :=
  .ask Beside.lasting (Beside.mono wider) fun _ => rfl

/-- A flow that only reads goes alike where it comes to the same on both disks. -/
theorem Flow.Alike.of_reads {f : Flow α} (result : Disk → Except Fault α)
    (reads : ∀ s, ∃ log, f.outcome prompt s = (result s.disk, { s with log := log }))
    (wider : ∀ e e', D e e' → F e e') (same : ∀ e e', D e e' → result e' = result e) :
    Alike prompt prompt (Beside F) (Beside D) (Along (Beside D)) f f := by
  intro s t related
  obtain ⟨log, ran⟩ := reads s
  obtain ⟨log', ran'⟩ := reads t
  rw [ran, ran', same _ _ related.2]
  cases result s.disk with
  | error fault => exact .error fault ⟨related.1, wider _ _ related.2⟩
  | ok a => exact .ok ⟨rfl, related⟩

/-- Asking for a pair is a matter of questions. -/
theorem Credentials.ask_beside (wider : ∀ e e', D e e' → F e e') :
    Alike prompt prompt (Beside F) (Beside D) (Along (Beside D)) Credentials.ask
      Credentials.ask := by
  refine (ProfilePicker.ask_beside wider _).bindSame fun agreed => ?_
  cases agreed with
  | false => exact .same none
  | true =>
    refine (ProfilePicker.ask_beside wider _).bindSame fun id =>
      (ProfilePicker.ask_beside wider _).bindSame fun secret => ?_
    cases ofTyped id secret with
    | error fault => exact .throw fault (Beside.mono wider)
    | ok c => exact .same (some c)

end Beside

/-! ## One file at the end of two runs -/

namespace Disk

variable {d d' e e' f f' : Disk} {path other : Text}

/-- One file at the end of two runs: both have written the same text into it, or both have spared
it. -/
inductive EndsAlike (path : Text) (d e d' e' : Disk) : Prop
  /-- The text is the same, and it is not empty. -/
  | written {t : Text} (filled : t ≠ []) (first : e.read path = .ok t)
      (second : e'.read path = .ok t)
  /-- The file is as it was in each run. -/
  | spared (first : d.Spares path e) (second : d'.Spares path e')

/-- To do nothing is to spare all files. -/
theorem Spares.refl (d : Disk) (path : Text) : d.Spares path d :=
  ⟨rfl, rfl, fun _ => rfl, fun _ => id⟩

/-- What spares a file later does not change how it ended. -/
theorem EndsAlike.trans (ends : EndsAlike path d e d' e') (first : e.Spares path f)
    (second : e'.Spares path f') : EndsAlike path d f d' f' := by
  cases ends with
  | written filled read read' => exact .written filled (first.read read) (second.read read')
  | spared spares spares' => exact .spared (spares.trans first) (spares'.trans second)

/-- A file that is mirrored still is after the same write of a file that does not meet it. -/
theorem Mirrors.puts {s t : Text} (mirrors : d.Mirrors other d')
    (directory : d'.directory = d.directory) (apart : Path.Apart d.directory path other)
    (first : d.Puts path s e) (second : d'.Puts path t e') : e.Mirrors other e' := by
  have apart' : Path.Apart d'.directory path other := directory ▸ apart
  have place : d'.place path = d.place path := congrArg (Path.place · path) directory
  cases mirrors with
  | blank blank blank' =>
    obtain ⟨content, holds, empty⟩ := blank
    obtain ⟨content', holds', empty'⟩ := blank'
    exact .blank ⟨content, first.holds_other apart holds, empty⟩
      ⟨content', second.holds_other apart' holds', empty'⟩
  | same agrees =>
    -- On the way of the written file directories stand, and all other places are as they were.
    have clear := (accepts_of_read first.read).2.1
    have clear' := (accepts_of_read second.read).2.1
    rw [first.directory] at clear
    rw [second.directory, directory] at clear'
    have same : ∀ p, p ≠ d.place path → d'.node p = d.node p → e'.node p = e.node p := by
      intro p away same
      by_cases member : p ∈ Path.way d.directory path
      · rw [clear p member, clear' p member]
      · have here := (first.node p away).resolve_right fun made => member made.1
        have there := (second.node p (place ▸ away)).resolve_right fun made =>
          member (directory ▸ made.1)
        rw [here, there, same]
    refine .same ⟨?_, fun p member => ?_, ?_⟩
    · rw [first.directory, second.directory, directory]
    · rw [first.directory] at member
      refine same p (fun here => ?_) (agrees.way p member)
      rw [here] at member
      exact apart.first member
    · have leads : e.place other = d.place other := congrArg (Path.place · other) first.directory
      rw [leads]
      exact same _ apart.ne.symm agrees.node

end Disk

/-- An edited text is not empty. -/
theorem Ini.setLine_ne_nil (s name key value : Text) : Ini.setLine s name key value ≠ [] := by
  rw [Ini.setLine_eq]
  simp [Ini.entryLine]

namespace Credentials

variable {store : Store} {d d' : Disk}

/-- A pair can be stored in a blank file. -/
theorem saving_blank (blank : d.Blank store.path) (profile : Text) (c : Credentials) :
    (saving store profile c d).1 = .ok () := by
  obtain ⟨content, holds, empty⟩ := blank
  obtain ⟨written, -, saved⟩ :=
    saving_of_unstored store profile holds (documentOf_of_empty empty) rfl c
  rw [saved]

/-- A pair is added with the same success where the disks have the same. -/
theorem adding_agrees (agrees : d.Agrees store.path d') (profile : Text) (c : Credentials) :
    (adding store profile c d').1 = (adding store profile c d).1 := by
  have same : store.finding d' = store.finding d := Store.find_agrees agrees
  rw [adding, adding, same]
  cases store.finding d with
  | error fault => rfl
  | ok keys => exact Store.writing_agrees agrees _

/-- A file is made for a pair with the same success. -/
theorem making_agrees (agrees : d.Agrees store.path d') (profile : Text) (c : Credentials) :
    (making store profile c d').1 = (making store profile c d).1 := by
  have made := Store.writing_agrees agrees []
  cases done : (store.writing [] d).1 with
  | error fault => rw [making_of_error done, making_of_error (made.trans done)]
  | ok _ =>
    rw [making_of_ok done, making_of_ok (made.trans done), adding_of_made done,
      adding_of_made (made.trans done)]

/-- So is a pair stored. -/
theorem saving_agrees (agrees : d.Agrees store.path d') (profile : Text) (c : Credentials) :
    (saving store profile c d').1 = (saving store profile c d).1 := by
  have found : store.finding d' = store.finding d := Store.find_agrees agrees
  have same : retrieving store profile d' = retrieving store profile d := by
    rw [retrieving, retrieving, found]
  rw [saving, saving, same]
  split
  · rfl
  · exact making_agrees agrees profile c
  · exact adding_agrees agrees profile c
  · rfl

/-- So it is where the file is mirrored. -/
theorem saving_eq_of_mirrors (mirrors : d.Mirrors store.path d') (profile : Text)
    (c : Credentials) : (saving store profile c d').1 = (saving store profile c d).1 := by
  cases mirrors with
  | blank first second => rw [saving_blank first, saving_blank second]
  | same agrees => exact saving_agrees agrees profile c

/-- Storing a pair fails alike on two disks, or it puts the same text into the file on both. -/
theorem saving_mirrors (mirrors : d.Mirrors store.path d') (profile : Text) (c : Credentials) :
    (∃ fault, (saving store profile c d).1 = .error fault ∧
      (saving store profile c d').1 = .error fault ∧
      d.MakesWay store.path (saving store profile c d).2 ∧
      d'.MakesWay store.path (saving store profile c d').2) ∨
    (saving store profile c d).1 = .ok () ∧ (saving store profile c d').1 = .ok () ∧
      ∃ t, t ≠ [] ∧ d.Puts store.path t (saving store profile c d).2 ∧
        d'.Puts store.path t (saving store profile c d').2 := by
  have same := saving_eq_of_mirrors mirrors profile c
  rcases saving_cases store profile c d with
    ⟨fault, failed, makes⟩ | ⟨done, content, keys, finds, read, -, puts⟩
  · rcases saving_cases store profile c d' with ⟨fault', failed', makes'⟩ | ⟨done, -⟩
    · exact .inl ⟨fault, failed, same.trans failed, makes, makes'⟩
    · rw [same, failed] at done
      cases done
  · rcases saving_cases store profile c d' with
      ⟨fault, failed, -⟩ | ⟨done', content', keys', finds', read', -, puts'⟩
    · rw [same, done] at failed
      cases failed
    · have taken := Store.taken_mirrors mirrors
      rw [Store.taken_of_finds finds read, Store.taken_of_finds finds' read'] at taken
      cases taken
      exact .inr ⟨done, done', _, Ini.setLine_ne_nil _ _ _ _, puts, puts'⟩

end Credentials

namespace Selection

variable {l : Locations} {prompt : Prompt} {d d' e e' : Disk}

/-! ## The disks of two runs -/

/-- Two disks that are the same but for files that are missing on one and empty on the other. -/
structure Mirrored (l : Locations) (d d' : Disk) : Prop where
  /-- The program runs in the same directory. -/
  directory : d'.directory = d.directory
  /-- The two files do not meet. -/
  apart : Path.Apart d.directory l.credentials l.config
  /-- The file of the keys is mirrored. -/
  credentials : d.Mirrors l.credentials d'
  /-- So is the file of the regions. -/
  config : d.Mirrors l.config d'

/-- To be mirrored is mutual. -/
theorem Mirrored.symm (mirrored : Mirrored l d d') : Mirrored l d' d where
  directory := mirrored.directory.symm
  apart := mirrored.directory ▸ mirrored.apart
  credentials := mirrored.credentials.symm
  config := mirrored.config.symm

/-- Neither run has written anything. -/
def Begun (d d' e e' : Disk) : Prop := e = d ∧ e' = d'

/-- Neither run has written anything, or both have written the same into the file of the keys. -/
inductive PastKeys (l : Locations) (d d' : Disk) : Disk → Disk → Prop
  /-- Nothing has been written. -/
  | begun : PastKeys l d d' d d'
  /-- A pair has been stored in both runs. -/
  | stored {t : Text} {e e' : Disk} (filled : t ≠ []) (first : d.Puts l.credentials t e)
      (second : d'.Puts l.credentials t e') : PastKeys l d d' e e'

/-- Both files have ended alike. -/
structure Ended (l : Locations) (d d' e e' : Disk) : Prop where
  /-- The file of the keys has. -/
  credentials : Disk.EndsAlike l.credentials d e d' e'
  /-- So has the file of the regions. -/
  config : Disk.EndsAlike l.config d e d' e'

/-- Runs that have not written anything are past the keys. -/
theorem Begun.pastKeys (begun : Begun d d' e e') : PastKeys l d d' e e' := by
  obtain ⟨rfl, rfl⟩ := begun
  exact .begun

section Mirrored

variable (mirrored : Mirrored l d d')

include mirrored

/-- Both runs still work in the same directory, and what they have left of the config file is
mirrored. -/
theorem PastKeys.mirrors (past : PastKeys l d d' e e') :
    e.directory = d.directory ∧ e'.directory = d.directory ∧ e.Mirrors l.config e' := by
  cases past with
  | begun => exact ⟨rfl, mirrored.directory, mirrored.config⟩
  | stored filled first second =>
    exact ⟨first.directory, second.directory.trans mirrored.directory,
      mirrored.config.puts mirrored.directory mirrored.apart first second⟩

/-- Both files would have ended alike. -/
theorem PastKeys.ended (past : PastKeys l d d' e e') : Ended l d d' e e' := by
  have apart' : Path.Apart d'.directory l.credentials l.config :=
    mirrored.directory ▸ mirrored.apart
  cases past with
  | begun => exact ⟨.spared (.refl _ _) (.refl _ _), .spared (.refl _ _) (.refl _ _)⟩
  | stored filled first second =>
    exact ⟨.written filled first.read second.read,
      .spared (first.spares_other mirrored.apart) (second.spares_other apart')⟩

/-! ## The steps of two runs -/

/-- Profiles are discovered. -/
theorem discover_beside :
    Alike prompt prompt (Beside (Ended l d d')) (Beside (Begun d d')) (Along (Beside (Begun d d')))
      (Catalog.discover l) (Catalog.discover l) := by
  refine .of_reads (Catalog.taken l) (Catalog.outcome_discover l prompt)
    (fun e e' begun => begun.pastKeys.ended mirrored) ?_
  rintro e e' ⟨rfl, rfl⟩
  exact Catalog.taken_mirrors mirrored.credentials mirrored.config

/-- A pair is stored. -/
theorem save_beside (profile : Text) (c : Credentials) :
    Alike prompt prompt (Beside (Ended l d d')) (Beside (Begun d d'))
      (Along (Beside (PastKeys l d d'))) (Credentials.save l.credentialsStore profile c)
      (Credentials.save l.credentialsStore profile c) := by
  have apart' : Path.Apart d'.directory l.credentials l.config :=
    mirrored.directory ▸ mirrored.apart
  rintro s t ⟨asked, rfl, rfl⟩
  obtain ⟨log, saved⟩ := Credentials.outcome_save l.credentialsStore profile c prompt s .willing
  obtain ⟨log', saved'⟩ := Credentials.outcome_save l.credentialsStore profile c prompt t .willing
  rw [saved, saved']
  have mirrors : s.disk.Mirrors l.credentialsStore.path t.disk := mirrored.credentials
  rcases Credentials.saving_mirrors mirrors profile c with
    ⟨fault, failed, failed', makes, makes'⟩ | ⟨done, done', u, filled, puts, puts'⟩
  · rw [failed, failed']
    exact .error fault ⟨asked, .spared makes.spares makes'.spares,
      .spared (makes.spares_other mirrored.apart) (makes'.spares_other apart')⟩
  · rw [done, done']
    exact .ok ⟨rfl, asked, .stored filled puts puts'⟩

/-- The keys of a profile are made. -/
theorem createProfile_beside (profile : Text) :
    Alike prompt prompt (Beside (Ended l d d')) (Beside (Begun d d'))
      (Along (Beside (PastKeys l d d'))) (Credentials.createProfile l.credentialsStore profile)
      (Credentials.createProfile l.credentialsStore profile) := by
  refine (Credentials.ask_beside fun e e' begun => begun.pastKeys.ended mirrored).bindSame
    fun answer => ?_
  cases answer with
  | none =>
    exact fun s t related => Alike.log Beside.lasting _ _ s t
      (Beside.mono (fun e e' begun => begun.pastKeys) s t related)
  | some c => exact save_beside mirrored profile c

/-- A profile is settled on. -/
theorem settleProfile_beside (catalog : Catalog) (wish : Option Text) :
    Alike prompt prompt (Beside (Ended l d d')) (Beside (Begun d d'))
      (Along (Beside (PastKeys l d d'))) (settleProfile l catalog wish)
      (settleProfile l catalog wish) := by
  have wider : ∀ e e', Begun d d' e e' → Ended l d d' e e' :=
    fun e e' begun => begun.pastKeys.ended mirrored
  have asks : ∀ question : Question, (∀ title, question ≠ .password title) →
      Alike prompt prompt (Beside (Ended l d d')) (Beside (Begun d d'))
        (Along (Beside (Begun d d'))) (Flow.ask question) (Flow.ask question) :=
    fun question _ => ask_beside wider question
  exact settleProfile_alike_of (Beside.mono wider) asks wish
    (Beside.mono fun e e' begun => begun.pastKeys)
    (create_alike_of Beside.lasting (Beside.mono wider) asks catalog
      (createProfile_beside mirrored))

/-- A text is written into the config file. -/
theorem write_beside {text : Text} (filled : text ≠ []) :
    Alike prompt prompt (Beside (Ended l d d')) (Beside (PastKeys l d d'))
      (Along (Beside (Ended l d d'))) (l.configStore.write text) (l.configStore.write text) := by
  refine Store.write_alike fun s t ⟨asked, past⟩ => ?_
  obtain ⟨directory, directory', mirrors⟩ := past.mirrors mirrored
  obtain ⟨keys, settings⟩ := past.ended mirrored
  have apart : Path.Apart s.disk.directory l.config l.credentials :=
    directory ▸ mirrored.apart.symm
  have apart' : Path.Apart t.disk.directory l.config l.credentials :=
    directory' ▸ mirrored.apart.symm
  have same : (l.configStore.writing text t.disk).1 = (l.configStore.writing text s.disk).1 :=
    Store.writing_mirrors mirrors text
  rcases l.configStore.writing_cases text s.disk with ⟨fault, failed, makes⟩ | ⟨done, puts⟩
  · have failed' := same.trans failed
    have makes' := Store.makesWay_of_writing failed'
    exact .inl ⟨fault, failed, failed', asked,
      keys.trans (makes.spares_other apart) (makes'.spares_other apart'),
      settings.trans makes.spares makes'.spares⟩
  · have done' := same.trans done
    have puts' := Store.puts_of_writing done'
    exact .inr ⟨done, done', asked,
      keys.trans (puts.spares_other apart) (puts'.spares_other apart'),
      .written filled puts.read puts'.read⟩

/-- A region is settled on. -/
theorem settleRegion_beside (suggested profile : Text) (wish : Option Text) :
    Alike prompt prompt (Beside (Ended l d d')) (Beside (PastKeys l d d'))
      (Along (Beside (Ended l d d'))) (settleRegion l suggested profile wish)
      (settleRegion l suggested profile wish) := by
  have wider : ∀ e e', PastKeys l d d' e e' → Ended l d d' e e' :=
    fun e e' past => past.ended mirrored
  rw [settleRegion]
  split
  · exact .pure fun s t related => ⟨rfl, Beside.mono wider s t related⟩
  · have asks : ∀ question : Question, (∀ title, question ≠ .password title) →
        Alike prompt prompt (Beside (Ended l d d')) (Beside (PastKeys l d d'))
          (Along (Beside (PastKeys l d d'))) (Flow.ask question) (Flow.ask question) :=
      fun question _ => ask_beside wider question
    have loads : Alike prompt prompt (Beside (Ended l d d')) (Beside (PastKeys l d d'))
        (Along (Beside (PastKeys l d d'))) l.configStore.loadOrEmpty l.configStore.loadOrEmpty :=
      .of_reads l.configStore.taken (fun s => (l.configStore.outcome_loadOrEmpty s .willing).imp
        fun _ ran => ran prompt) wider fun e e' past =>
          Store.taken_mirrors (past.mirrors mirrored).2.2
    exact Region.resolve_alike_of Beside.lasting (Beside.mono wider) asks suggested profile
      Beside.lasting loads fun settings region =>
        write_beside mirrored (Ini.setLine_ne_nil _ _ _ _)

/-- The selection is run. -/
theorem run_beside (prompt : Prompt) (suggested : Text) (wishes : Wishes) :
    Alike prompt prompt (Beside (Ended l d d')) (Beside (Begun d d'))
      (Along (Beside (Ended l d d'))) (run l suggested wishes) (run l suggested wishes) :=
  (discover_beside mirrored).bindSame fun catalog =>
    (settleProfile_beside mirrored catalog wishes.profile).bindSame fun profile =>
      (settleRegion_beside mirrored suggested profile wishes.region).bindSame fun _ => .same _

/-- What one run stores the other one does. -/
theorem Stores.of_mirrored {wishes : Wishes} {name : Text} {c : Credentials}
    (stores : Stores l prompt wishes d name c) : Stores l prompt wishes d' name c := by
  obtain ⟨unnamed, ⟨catalog, found, makes⟩, saved⟩ := stores
  refine ⟨unnamed, ⟨catalog, ?_, makes⟩, ?_⟩
  · obtain ⟨log, ran⟩ := Catalog.outcome_discover l prompt (.start d)
    obtain ⟨log', ran'⟩ := Catalog.outcome_discover l prompt (.start d')
    rw [ran] at found
    rw [ran']
    exact (Catalog.taken_mirrors mirrored.credentials mirrored.config).trans found
  · obtain ⟨log, ran⟩ :=
      Credentials.outcome_save l.credentialsStore name c prompt (.start d) .willing
    obtain ⟨log', ran'⟩ :=
      Credentials.outcome_save l.credentialsStore name c prompt (.start d') .willing
    have mirrors : d.Mirrors l.credentialsStore.path d' := mirrored.credentials
    rw [ran] at saved
    rw [ran']
    exact (Credentials.saving_eq_of_mirrors mirrors name c).trans saved

end Mirrored

/-! ## Two runs as a whole -/

/-- Two runs cannot be told apart, except that a file may be missing after one and empty after the
other. -/
structure RunAlike (l : Locations) (prompt : Prompt) (wishes : Wishes) (d d' : Disk)
    (run run' : Except Fault (Context × Text) × Session) : Prop where
  /-- They return the same, or fail in the same way. -/
  result : run.1 = run'.1
  /-- They have asked the same questions, with the same options and suggestions. -/
  asked : run.2.asked = run'.2.asked
  /-- Both have written the same into the file of the keys, or both have spared it. -/
  credentials : Disk.EndsAlike l.credentials d run.2.disk d' run'.2.disk
  /-- Both have written the same into the file of the regions, or both have spared it. -/
  config : Disk.EndsAlike l.config d run.2.disk d' run'.2.disk
  /-- They store the same pair, if any. -/
  stores : ∀ name c, Stores l prompt wishes d name c ↔ Stores l prompt wishes d' name c

/-- **A file that does not exist behaves as an empty one**, in every stage of a run, for all that is
asked for and whatever the user does. -/
theorem run_alike_of_mirrored (prompt : Prompt) (suggested : Text) (wishes : Wishes)
    (mirrored : Mirrored l d d') :
    RunAlike l prompt wishes d d' ((run l suggested wishes).outcome prompt (.start d))
      ((run l suggested wishes).outcome prompt (.start d')) := by
  have stores : ∀ name c, Stores l prompt wishes d name c ↔ Stores l prompt wishes d' name c :=
    fun name c => ⟨fun stores => stores.of_mirrored mirrored,
      fun stores => stores.of_mirrored mirrored.symm⟩
  have ends := run_beside mirrored prompt suggested wishes (.start d) (.start d') ⟨rfl, rfl, rfl⟩
  generalize (run l suggested wishes).outcome prompt (.start d) = first at ends ⊢
  generalize (run l suggested wishes).outcome prompt (.start d') = second at ends ⊢
  cases ends with
  | error fault related =>
    obtain ⟨asked, keys, settings⟩ := related
    exact ⟨rfl, asked, keys, settings, stores⟩
  | ok related =>
    obtain ⟨rfl, asked, keys, settings⟩ := related
    exact ⟨rfl, asked, keys, settings, stores⟩

/-- A new profile is made in the same way whether the files are missing or empty. -/
theorem runAlike_keyed :
    Mirrored atRoot (.ofFiles none none) (.ofFiles (some []) (some [])) ∧
      RunAlike atRoot (keyed "abcd") ⟨none, none, []⟩ (.ofFiles none none)
        (.ofFiles (some []) (some []))
        ((run atRoot [] ⟨none, none, []⟩).outcome (keyed "abcd") (.start (.ofFiles none none)))
        ((run atRoot [] ⟨none, none, []⟩).outcome (keyed "abcd")
          (.start (.ofFiles (some []) (some [])))) := by
  have mirrored : Mirrored atRoot (.ofFiles none none) (.ofFiles (some []) (some [])) :=
    ⟨rfl, Disk.apart_ofFiles none none,
      .blank ⟨none, Disk.holds_credentials_ofFiles none none, rfl⟩
        ⟨some [], Disk.holds_credentials_ofFiles _ _, rfl⟩,
      .blank ⟨none, Disk.holds_config_ofFiles none none, rfl⟩
        ⟨some [], Disk.holds_config_ofFiles _ _, rfl⟩⟩
  exact ⟨mirrored, run_alike_of_mirrored (keyed "abcd") [] ⟨none, none, []⟩ mirrored⟩

end Selection

end ProfilePicker
