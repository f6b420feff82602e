import ProfilePicker.Locations
import ProfilePicker.Proofs.Keeping
import ProfilePicker.Proofs.PlainEdits

/-!
# The two files as one store

The credentials file and the config file together work like a table with one line for each
profile: perhaps a key, perhaps a secret, perhaps a region. Calls that retrieve and save keys
and resolve regions can be answered from the table alone, and over any run of calls the files
give the same answers, ask the same questions and keep standing for the same table.
-/
namespace ProfilePicker

open Ini (Document Edit PlainName PlainValue PlainKey PlainText NoIndented)

/-! ## The table -/

/-- What is stored for a profile. -/
structure Account where
  /-- The name of the access key. -/
  id : Option Text
  /-- The secret. -/
  secret : Option Text
  /-- The region. -/
  region : Option Text
deriving DecidableEq

/-- The keys of an account, if both halves are there. -/
def Account.pair? (a : Account) : Option Credentials := do
  let id ← a.id
  let secret ← a.secret
  return ⟨id, secret⟩

/-- A line for each profile. -/
structure Ledger where
  /-- Whether there is a place for keys yet. -/
  opened : Bool
  /-- What is stored for each profile. -/
  account : Text → Account

/-- The ledger with something else stored for one profile. -/
def Ledger.put (g : Ledger) (profile : Text) (a : Account) : Ledger :=
  { g with account := fun other => if other = profile then a else g.account other }

/-- A call to one of the two files. -/
inductive Call where
  /-- Retrieve the keys of a profile. -/
  | retrieve (profile : Text)
  /-- Save keys for a profile. -/
  | save (profile : Text) (keys : Credentials)
  /-- Resolve the region of a profile. -/
  | resolve (suggested profile : Text)

/-- What a call returns. -/
inductive Reply where
  /-- The keys. -/
  | keys (c : Credentials)
  /-- Nothing, since the keys are saved. -/
  | saved
  /-- The region. -/
  | region (name : Text)
deriving DecidableEq

/-- What comes of a call that is answered from a ledger. -/
structure Ledger.Answer where
  /-- What it returns. -/
  result : Except Fault Reply
  /-- All questions asked so far. -/
  asked : List Question
  /-- The ledger afterwards. -/
  ledger : Ledger

/-- What comes of the reply to the question for the region of a profile. -/
def Ledger.settle (asked : List Question) (g : Ledger) (profile : Text) :
    Except Fault Text → Answer
  | .error fault => ⟨.error fault, asked, g⟩
  | .ok typed =>
    if typed.trim = [] then ⟨.error Region.emptyRegion, asked, g⟩
    else
      ⟨.ok (.region typed.trim), asked,
        g.put profile { g.account profile with region := some typed.trim }⟩

/-- The reply does not change which questions were asked. -/
theorem Ledger.asked_settle (asked : List Question) (g : Ledger) (profile : Text)
    (reply : Except Fault Text) : (g.settle asked profile reply).asked = asked := by
  cases reply with
  | error fault => rfl
  | ok typed =>
    rw [settle]
    split <;> rfl

/-- The answer to a call, from a ledger alone. -/
def Ledger.answer (l : Locations) (prompt : Prompt) (asked : List Question) (g : Ledger) :
    Call → Answer
  | .retrieve profile =>
    if g.opened then
      match (g.account profile).pair? with
      | some c => ⟨.ok (.keys c), asked, g⟩
      | none => ⟨.error (.notFound (Fault.keysOf profile)), asked, g⟩
    else ⟨.error (.missingFile l.credentials), asked, g⟩
  | .save profile c =>
    match (g.account profile).pair? with
    | some _ => ⟨.error (.alreadyExists (Fault.keysOf profile)), asked, g⟩
    | none =>
      let a := { g.account profile with id := some c.id, secret := some c.secret }
      ⟨.ok .saved, asked, { g.put profile a with opened := true }⟩
  | .resolve suggested profile =>
    let suggestion := (g.account profile).region.getD suggested
    g.settle (asked ++ [.input "Region" suggestion]) profile
      (prompt.answer asked (.input "Region" suggestion))

/-- What comes of a run of calls that are answered from a ledger. -/
structure Ledger.Answers where
  /-- What the calls return. -/
  results : List (Except Fault Reply)
  /-- All questions asked so far. -/
  asked : List Question
  /-- The ledger afterwards. -/
  ledger : Ledger

/-- The answers to a run of calls, each from the ledger that the one before it leaves. -/
def Ledger.answerAll (l : Locations) (prompt : Prompt) (asked : List Question) (g : Ledger) :
    List Call → Answers
  | [] => ⟨[], asked, g⟩
  | call :: calls =>
    let one := g.answer l prompt asked call
    let rest := one.ledger.answerAll l prompt one.asked calls
    ⟨one.result :: rest.results, rest.asked, rest.ledger⟩

/-! ## The files -/

/-- A call as a flow. -/
def Call.flow (l : Locations) : Call → Flow Reply
  | .retrieve profile => do return .keys (← Credentials.retrieve l.credentialsStore profile)
  | .save profile c => do
    Credentials.save l.credentialsStore profile c
    return .saved
  | .resolve suggested profile => do
    return .region (← Region.resolve l.configStore suggested profile)

/-- The results of a run of calls on the files, and the state it leaves. A call that fails ends
nothing but itself. -/
def runCalls (l : Locations) (prompt : Prompt) (s : Session) :
    List Call → List (Except Fault Reply) × Session
  | [] => ([], s)
  | call :: calls =>
    let (result, s') := (call.flow l).outcome prompt s
    let (results, s'') := runCalls l prompt s' calls
    (result :: results, s'')

/-- The ledger that the two files stand for. -/
def Ledger.ofDisk (l : Locations) (disk : Disk) : Ledger where
  opened := l.credentialsStore.exists? disk
  account profile :=
    let keys := l.credentialsStore.contents disk
    let settings := l.configStore.contents disk
    { id := keys.get? (Naming.verbatim.sectionFor profile) Credentials.idKey
      secret := keys.get? (Naming.verbatim.sectionFor profile) Credentials.secretKey
      region := settings.get? (Naming.prefixed.sectionFor profile) Region.key }

/-- A file that is absent or plain, and in which no indented line sets one of some keys. -/
def Disk.Tidy (disk : Disk) (path : Text) (keys : List Text) : Prop :=
  ∃ content, disk.Holds path content ∧ ∀ t, content = some t →
    PlainText t ∧ ∀ key ∈ keys, NoIndented key t.lines

/-- The keys that the program writes into a credentials file. -/
def credentialKeys : List Text := [Credentials.idKey, Credentials.secretKey]

/-- The keys that the program writes into a config file. -/
def configKeys : List Text := [Region.key]

/-- Two tidy files that do not meet. -/
structure Locations.Tidy (l : Locations) (disk : Disk) : Prop where
  /-- Neither file is in the way of the other. -/
  apart : Path.Apart disk.directory l.credentials l.config
  /-- The credentials file is tidy. -/
  credentials : disk.Tidy l.credentials credentialKeys
  /-- So is the config file. -/
  config : disk.Tidy l.config configKeys

/-- A call whose profile and keys can be written as they are. -/
def Call.Plain : Call → Prop
  | .retrieve profile => PlainName profile
  | .save profile c => PlainName profile ∧ PlainValue c.id ∧ PlainValue c.secret
  | .resolve _ profile => PlainName profile

/-! ## Tidy documents -/

/-- A document in step with its text, in which no indented line sets one of some keys. -/
structure TidyDocument (keys : List Text) (d : Document) : Prop where
  /-- Text and contents agree. -/
  inStep : d.InStep
  /-- No indented line sets one of the keys. -/
  free : ∀ key ∈ keys, NoIndented key d.text.lines

namespace TidyDocument

variable {keys : List Text} {d : Document}

/-- What a tidy file holds is a tidy document. -/
theorem of_content {content : Option Text}
    (tidy : ∀ t, content = some t → PlainText t ∧ ∀ key ∈ keys, NoIndented key t.lines) :
    ∃ d, documentOf content = .ok d ∧ TidyDocument keys d := by
  cases content with
  | some t =>
    obtain ⟨plain, free⟩ := tidy t rfl
    exact ⟨_, plain.closed.parse_eq, plain.inStep, free⟩
  | none =>
    refine ⟨.empty, rfl, ⟨Ini.plainText_nil, fun _ _ => rfl, rfl⟩, fun key _ => ?_⟩
    simp [Document.empty, Text.lines, NoIndented]

/-- A plain edit of one of the keys leaves a document tidy. -/
theorem set (tidy : TidyDocument keys d) {name key value : Text} (plainName : PlainName name)
    (plainKey : PlainKey key) (plainValue : PlainValue value) (known : key ∈ keys) :
    TidyDocument keys (d.set name key value) := by
  have plain : Edit.Plain ⟨name, key, value⟩ := ⟨plainName, plainKey, plainValue⟩
  have closed : d.text.lineEnding = Text.shortEnding → Ini.leavesOpen value = false :=
    fun _ => Ini.leavesOpen_eq_false plainValue.noBackslash
  have lines : (d.set name key value).text.lines = Ini.setInLines name key value d.text.lines :=
    (tidy.inStep.plain.closed.setLine_lines plainName plainKey plainValue.oneLine closed).1
  refine ⟨tidy.inStep.set plain fun line member => tidy.free key known line
    (Ini.mem_of_mem_firstBlock member), fun other member => ?_⟩
  rw [lines]
  exact Ini.noIndented_lines_setInLines plainKey value (tidy.free other member)

/-- Reading the text of a tidy document gives a tidy document with the same look-ups. -/
theorem reread (tidy : TidyDocument keys d) :
    ∃ again, Document.parse d.text = .ok again ∧ TidyDocument keys again ∧
      ∀ name key, again.get? name key = d.get? name key := by
  have plain := tidy.inStep.plain
  refine ⟨_, plain.closed.parse_eq, ⟨plain.inStep, tidy.free⟩, fun name key => ?_⟩
  rw [tidy.inStep.reads]
  exact Ini.get?_ofItems name key _

end TidyDocument

/-! ## What the files stand for -/

/-- Two tidy files that do not meet, with what they hold and the documents it makes up. -/
structure Opened (l : Locations) (disk : Disk) (keysContent settingsContent : Option Text)
    (keys settings : Document) : Prop where
  /-- Neither file is in the way of the other. -/
  apart : Path.Apart disk.directory l.credentials l.config
  /-- The credentials file holds this. -/
  holdsKeys : disk.Holds l.credentials keysContent
  /-- The config file holds that. -/
  holdsSettings : disk.Holds l.config settingsContent
  /-- What the credentials file holds makes up a document. -/
  readKeys : documentOf keysContent = .ok keys
  /-- So does what the config file holds. -/
  readSettings : documentOf settingsContent = .ok settings
  /-- The document of the credentials file is tidy. -/
  tidyKeys : TidyDocument credentialKeys keys
  /-- So is the one of the config file. -/
  tidySettings : TidyDocument configKeys settings

/-- Tidy files hold tidy documents. -/
theorem Locations.Tidy.opened {l : Locations} {disk : Disk} (tidy : l.Tidy disk) :
    ∃ keysContent settingsContent keys settings,
      Opened l disk keysContent settingsContent keys settings := by
  obtain ⟨keysContent, holdsKeys, plainKeys⟩ := tidy.credentials
  obtain ⟨settingsContent, holdsSettings, plainSettings⟩ := tidy.config
  obtain ⟨keys, readKeys, tidyKeys⟩ := TidyDocument.of_content plainKeys
  obtain ⟨settings, readSettings, tidySettings⟩ := TidyDocument.of_content plainSettings
  exact ⟨keysContent, settingsContent, keys, settings, tidy.apart, holdsKeys, holdsSettings,
    readKeys, readSettings, tidyKeys, tidySettings⟩

namespace Opened

variable {l : Locations} {disk disk' : Disk} {keysContent settingsContent : Option Text}
  {keys settings : Document} (opened : Opened l disk keysContent settingsContent keys settings)

/-- The account that two documents hold for a profile. -/
def accountOf (keys settings : Document) (profile : Text) : Account where
  id := keys.get? (Naming.verbatim.sectionFor profile) Credentials.idKey
  secret := keys.get? (Naming.verbatim.sectionFor profile) Credentials.secretKey
  region := settings.get? (Naming.prefixed.sectionFor profile) Region.key

include opened in
/-- The files stand for the ledger of the accounts that their documents hold. -/
theorem ofDisk_eq : Ledger.ofDisk l disk = ⟨keysContent.isSome, accountOf keys settings⟩ := by
  have exist := Store.exists?_eq l.credentialsStore opened.holdsKeys
  have first := Store.contents_eq l.credentialsStore opened.holdsKeys opened.readKeys
  have second := Store.contents_eq l.configStore opened.holdsSettings
    opened.readSettings
  rw [Ledger.ofDisk, exist, first, second]
  rfl

include opened in
/-- The files after the credentials file has been written with a tidy document. -/
theorem writeKeys {edited : Document} (tidy : TidyDocument credentialKeys edited)
    (rewrites : disk.Rewrites l.credentials edited.text disk') :
    ∃ again, Opened l disk' (some edited.text) settingsContent again settings ∧
      ∀ name key, again.get? name key = edited.get? name key := by
  obtain ⟨again, read, tidyAgain, same⟩ := tidy.reread
  exact ⟨again, ⟨rewrites.directory ▸ opened.apart, rewrites.holds,
    rewrites.others opened.apart opened.holdsSettings, read, opened.readSettings, tidyAgain,
    opened.tidySettings⟩, same⟩

include opened in
/-- The files after the config file has been written with a tidy document. -/
theorem writeSettings {edited : Document} (tidy : TidyDocument configKeys edited)
    (rewrites : disk.Rewrites l.config edited.text disk') :
    ∃ again, Opened l disk' keysContent (some edited.text) keys again ∧
      ∀ name key, again.get? name key = edited.get? name key := by
  obtain ⟨again, read, tidyAgain, same⟩ := tidy.reread
  exact ⟨again, ⟨rewrites.directory ▸ opened.apart,
    rewrites.others opened.apart.symm opened.holdsKeys, rewrites.holds, opened.readKeys, read,
    opened.tidyKeys, tidyAgain⟩, same⟩

/-- Saving keys for a profile changes its account and no other one. -/
theorem accountOf_storeKeys (settings : Document) {again : Document} {profile : Text}
    {c : Credentials}
    (same : ∀ name key, again.get? name key = (c.storeIn profile keys).get? name key) :
    accountOf again settings = fun other =>
      if other = profile then
        { accountOf keys settings profile with id := some c.id, secret := some c.secret }
      else accountOf keys settings other := by
  have differ : Credentials.idKey ≠ Credentials.secretKey := by decide
  have id : ∀ other, again.get? other Credentials.idKey =
      if other = profile then some c.id else keys.get? other Credentials.idKey := by
    intro other
    rw [same, Credentials.storeIn, Document.get?_set, Document.get?_set]
    simp [Naming.sectionFor, differ]
  have secret : ∀ other, again.get? other Credentials.secretKey =
      if other = profile then some c.secret else keys.get? other Credentials.secretKey := by
    intro other
    rw [same, Credentials.storeIn, Document.get?_set, Document.get?_set]
    simp [Naming.sectionFor, differ.symm]
  funext other
  rw [accountOf, Naming.sectionFor, id, secret]
  by_cases own : other = profile
  · rw [if_pos own, if_pos own, if_pos own, own]
    rfl
  · rw [if_neg own, if_neg own, if_neg own]
    rfl

/-- Storing a region for a profile changes its account and no other one, since two profiles never
share a section. -/
theorem accountOf_storeRegion (keys : Document) {again : Document} {region profile : Text}
    (same : ∀ name key, again.get? name key = (Region.storeIn region profile settings).get? name
      key) :
    accountOf keys again = fun other =>
      if other = profile then { accountOf keys settings profile with region := some region }
      else accountOf keys settings other := by
  funext other
  have stored : again.get? (Naming.prefixed.sectionFor other) Region.key =
      if other = profile then some region
      else settings.get? (Naming.prefixed.sectionFor other) Region.key := by
    rw [same, Region.storeIn, Document.get?_set]
    by_cases own : other = profile
    · rw [if_pos own, own, if_pos ⟨rfl, rfl⟩]
    · rw [if_neg own, if_neg fun both => own (Naming.prefixed.sectionFor_injective both.1)]
  rw [accountOf, stored]
  by_cases own : other = profile
  · rw [if_pos own, if_pos own, own]
    rfl
  · rw [if_neg own, if_neg own]
    rfl

end Opened

/-! ## One call -/

/-- The outcome of a call on the files is the answer from the ledger that they stand for. -/
structure Ledger.Answer.Matches (l : Locations) (a : Answer)
    (outcome : Except Fault Reply × Session) : Prop where
  /-- The results are the same. -/
  result : outcome.1 = a.result
  /-- The same questions were asked. -/
  asked : outcome.2.asked = a.asked
  /-- The files stand for the ledger again. -/
  ledger : Ledger.ofDisk l outcome.2.disk = a.ledger
  /-- They are as tidy as before. -/
  opened : ∃ keysContent settingsContent keys settings,
    Opened l outcome.2.disk keysContent settingsContent keys settings

section OneCall

variable {l : Locations} {prompt : Prompt} {s : Session} {keysContent settingsContent : Option Text}
  {keys settings : Document} (opened : Opened l s.disk keysContent settingsContent keys settings)

include opened in
/-- Keys are retrieved as from the ledger. -/
theorem retrieve_matches (profile : Text) :
    ((Ledger.ofDisk l s.disk).answer l prompt s.asked (.retrieve profile)).Matches l
      (((Call.retrieve profile).flow l).outcome prompt s) := by
  have ledger := opened.ofDisk_eq
  have pair : (Opened.accountOf keys settings profile).pair? =
      Credentials.ofDocument? keys profile := rfl
  cases keysContent with
  | none =>
    have missing := Credentials.retrieve_missing l.credentialsStore prompt profile
      opened.holdsKeys
    rw [Call.flow, Flow.outcome_bind_of_error prompt s missing, Ledger.answer, ledger]
    exact ⟨rfl, rfl, ledger, _, _, _, _, opened⟩
  | some t =>
    obtain ⟨log, retrieved⟩ := Credentials.outcome_retrieve_of_holds l.credentialsStore prompt
      profile opened.holdsKeys opened.readKeys
    rw [Call.flow, Flow.outcome_bind, retrieved, Ledger.answer, ledger]
    simp only [Option.isSome_some, if_true, pair]
    cases Credentials.ofDocument? keys profile with
    | none => exact ⟨rfl, rfl, ledger, _, _, _, _, opened⟩
    | some c => exact ⟨rfl, rfl, ledger, _, _, _, _, opened⟩

include opened in
/-- Keys are saved as in the ledger. -/
theorem save_matches {profile : Text} {c : Credentials} (plainName : PlainName profile)
    (plainId : PlainValue c.id) (plainSecret : PlainValue c.secret) :
    ((Ledger.ofDisk l s.disk).answer l prompt s.asked (.save profile c)).Matches l
      (((Call.save profile c).flow l).outcome prompt s) := by
  have ledger := opened.ofDisk_eq
  have pair : (Opened.accountOf keys settings profile).pair? =
      Credentials.ofDocument? keys profile := rfl
  rw [Call.flow, Ledger.answer, ledger]
  simp only [pair]
  cases stored : Credentials.ofDocument? keys profile with
  | some old =>
    cases keysContent with
    | none =>
      cases opened.readKeys
      cases stored
    | some t =>
      obtain ⟨log, refused⟩ := Credentials.save_stored l.credentialsStore prompt profile
        opened.holdsKeys opened.readKeys stored c
      rw [Flow.outcome_bind_of_error prompt s refused]
      exact ⟨rfl, rfl, ledger, _, _, _, _, opened⟩
  | none =>
    obtain ⟨written, log, rewrites, done⟩ := Credentials.outcome_save_of_unstored
      l.credentialsStore prompt profile opened.holdsKeys opened.readKeys stored c
    have first : TidyDocument credentialKeys (keys.set profile Credentials.idKey c.id) :=
      opened.tidyKeys.set plainName (by decide) plainId (by decide)
    have second : TidyDocument credentialKeys (c.storeIn profile keys) :=
      first.set plainName (by decide) plainSecret (by decide)
    obtain ⟨again, reopened, same⟩ := opened.writeKeys second rewrites
    rw [Flow.outcome_bind_of_ok prompt s done]
    refine ⟨rfl, rfl, ?_, _, _, _, _, reopened⟩
    rw [Flow.outcome_pure, reopened.ofDisk_eq, Opened.accountOf_storeKeys settings same]
    rfl

include opened in
/-- The suggestion from the ledger is the one from the document, so both ask the same question. -/
theorem answer_resolve (suggested profile : Text) :
    (Ledger.ofDisk l s.disk).answer l prompt s.asked (.resolve suggested profile) =
      (Ledger.ofDisk l s.disk).settle (s.asked ++ [Region.question settings suggested profile])
        profile (prompt.answer s.asked (Region.question settings suggested profile)) := by
  rw [opened.ofDisk_eq]
  rfl

include opened in
/-- A region is resolved as from the ledger. -/
theorem resolve_matches (suggested : Text) {profile : Text} (plainName : PlainName profile)
    (plain : ∀ typed : Text,
      prompt.answer s.asked (Region.question settings suggested profile) = .ok typed →
      typed.trim = [] ∨ PlainValue typed.trim) :
    ((Ledger.ofDisk l s.disk).answer l prompt s.asked (.resolve suggested profile)).Matches l
      (((Call.resolve suggested profile).flow l).outcome prompt s) := by
  have ledger := opened.ofDisk_eq
  obtain ⟨reply, answered⟩ : ∃ reply : Except Fault Text,
      prompt.answer s.asked (Region.question settings suggested profile) = reply := ⟨_, rfl⟩
  rw [Call.flow, answer_resolve opened, answered]
  cases reply with
  | error fault =>
    obtain ⟨log, done⟩ := Region.resolve_unanswered l.configStore prompt suggested profile
      opened.holdsSettings opened.readSettings answered
    rw [Flow.outcome_bind_of_error prompt s done]
    exact ⟨rfl, rfl, rfl, _, _, _, _, opened⟩
  | ok typed =>
    by_cases blank : typed.trim = []
    · obtain ⟨log, done⟩ := Region.resolve_blank l.configStore prompt suggested profile
        opened.holdsSettings opened.readSettings answered blank
      rw [Flow.outcome_bind_of_error prompt s done, Ledger.settle, if_pos blank]
      exact ⟨rfl, rfl, rfl, _, _, _, _, opened⟩
    · obtain ⟨written, log, rewrites, done⟩ := Region.resolve_answered l.configStore prompt
        suggested profile opened.holdsSettings opened.readSettings answered blank
      have plainValue : PlainValue typed.trim := (plain typed answered).resolve_left blank
      have edited : TidyDocument configKeys (Region.storeIn typed.trim profile settings) :=
        opened.tidySettings.set (Naming.prefixed.plainName_sectionFor plainName) (by decide)
          plainValue (by decide)
      obtain ⟨again, reopened, same⟩ := opened.writeSettings edited rewrites
      rw [Flow.outcome_bind_of_ok prompt s done, Ledger.settle, if_neg blank]
      refine ⟨rfl, rfl, ?_, _, _, _, _, reopened⟩
      rw [Flow.outcome_pure, reopened.ofDisk_eq, Opened.accountOf_storeRegion keys same, ledger]
      rfl

end OneCall

/-! ## Any number of calls -/

section Asked

variable (l : Locations) (prompt : Prompt)

/-- A call adds to the questions asked. -/
theorem Ledger.asked_answer (asked : List Question) (g : Ledger) (call : Call) :
    asked <+: (g.answer l prompt asked call).asked := by
  cases call with
  | retrieve profile =>
    rw [answer]
    split
    · split <;> exact List.prefix_rfl
    · exact List.prefix_rfl
  | save profile c =>
    rw [answer]
    split <;> exact List.prefix_rfl
  | resolve suggested profile =>
    rw [answer, asked_settle]
    exact List.prefix_append _ _

/-- A run of calls adds to the questions asked. -/
theorem Ledger.asked_answerAll (asked : List Question) (g : Ledger) (calls : List Call) :
    asked <+: (g.answerAll l prompt asked calls).asked := by
  induction calls generalizing asked g with
  | nil => exact List.prefix_rfl
  | cons call calls ih => exact (g.asked_answer l prompt asked call).trans (ih _ _)

end Asked

section Calls

variable {l : Locations} {prompt : Prompt}

/-- All replies to questions for a region are blank or plain after trimming. -/
def Prompt.RepliesPlainly (prompt : Prompt) (asked : List Question) : Prop :=
  ∀ suggestion typed : Text, prompt.Replied asked (.input "Region" suggestion) typed →
    typed.trim = [] ∨ PlainValue typed.trim

/-- A call on the files is answered as from the ledger that they stand for. -/
theorem call_matches {s : Session} {call : Call} {keysContent settingsContent : Option Text}
    {keys settings : Document} (opened : Opened l s.disk keysContent settingsContent keys settings)
    (plain : call.Plain)
    (replies :
      prompt.RepliesPlainly ((Ledger.ofDisk l s.disk).answer l prompt s.asked call).asked) :
    ((Ledger.ofDisk l s.disk).answer l prompt s.asked call).Matches l
      ((call.flow l).outcome prompt s) := by
  cases call with
  | retrieve profile => exact retrieve_matches opened profile
  | save profile c => exact save_matches opened plain.1 plain.2.1 plain.2.2
  | resolve suggested profile =>
    refine resolve_matches opened suggested plain fun typed answered => ?_
    have asked : ((Ledger.ofDisk l s.disk).answer l prompt s.asked
        (.resolve suggested profile)).asked =
        s.asked ++ [Region.question settings suggested profile] := by
      rw [opened.ofDisk_eq]
      exact Ledger.asked_settle _ _ profile _
    exact replies _ typed ⟨s.asked, [], asked, answered⟩

/-- What holds of the replies in a run holds of those in a part of it. -/
theorem Prompt.RepliesPlainly.later {asked more : List Question} (part : asked <+: more)
    (replies : prompt.RepliesPlainly more) : prompt.RepliesPlainly asked := by
  obtain ⟨later, rfl⟩ := part
  rintro suggestion typed ⟨before, after, rfl, answered⟩
  exact replies suggestion typed ⟨before, after ++ later, by simp, answered⟩

/-- A run of calls on open files is answered as from the ledger that they stand for. -/
theorem runCalls_opened {s : Session} {calls : List Call}
    (opened : ∃ keysContent settingsContent keys settings,
      Opened l s.disk keysContent settingsContent keys settings)
    (plain : ∀ call ∈ calls, call.Plain)
    (replies : prompt.RepliesPlainly
      ((Ledger.ofDisk l s.disk).answerAll l prompt s.asked calls).asked) :
    (runCalls l prompt s calls).1 =
        ((Ledger.ofDisk l s.disk).answerAll l prompt s.asked calls).results ∧
      (runCalls l prompt s calls).2.asked =
        ((Ledger.ofDisk l s.disk).answerAll l prompt s.asked calls).asked ∧
      Ledger.ofDisk l (runCalls l prompt s calls).2.disk =
        ((Ledger.ofDisk l s.disk).answerAll l prompt s.asked calls).ledger := by
  induction calls generalizing s with
  | nil => exact ⟨rfl, rfl, rfl⟩
  | cons call calls ih =>
    obtain ⟨keysContent, settingsContent, keys, settings, opened⟩ := opened
    rw [Ledger.answerAll] at replies ⊢
    have first := call_matches opened (plain call List.mem_cons_self)
      (replies.later (Ledger.asked_answerAll l prompt _ _ calls))
    have rest := ih first.opened (fun other member => plain other (.tail call member))
    rw [first.asked, first.ledger] at rest
    obtain ⟨results, asked, ledger⟩ := rest replies
    exact ⟨congrArg₂ List.cons first.result results, asked, ledger⟩

/-- **The two files work like one ledger.** Whatever calls are made, in whatever order and with
whatever replies: on tidy files that do not meet, every call returns what it returns on the
ledger, every question asked is the one that the ledger asks, and at the end the files stand
for the ledger that the calls leave. -/
theorem runCalls_eq_answerAll {d : Disk} (tidy : l.Tidy d) {calls : List Call}
    (plain : ∀ call ∈ calls, call.Plain)
    (replies : prompt.RepliesPlainly ((Ledger.ofDisk l d).answerAll l prompt [] calls).asked) :
    (runCalls l prompt (.start d) calls).1 =
        ((Ledger.ofDisk l d).answerAll l prompt [] calls).results ∧
      (runCalls l prompt (.start d) calls).2.asked =
        ((Ledger.ofDisk l d).answerAll l prompt [] calls).asked ∧
      Ledger.ofDisk l (runCalls l prompt (.start d) calls).2.disk =
        ((Ledger.ofDisk l d).answerAll l prompt [] calls).ledger :=
  runCalls_opened (s := .start d) tidy.opened plain replies

/-- Keys for a new profile in a file that is made for them, and a region in a file where another
profile has one. -/
theorem runCalls_new_profile :
    let l : Locations := ⟨"/credentials", "/config"⟩
    let prompt : Prompt := .entering " eu-west-1 "
    let d := Disk.ofFiles none (some "[default]\nregion = us-east-1\n")
    let calls : List Call := [.retrieve "work", .save "work" ⟨"AKIA", "abcd"⟩, .retrieve "work",
      .resolve "" "work", .resolve "" "default"]
    l.Tidy d ∧ (runCalls l prompt (.start d) calls).1 =
      [.error (.missingFile "/credentials"), .ok .saved, .ok (.keys ⟨"AKIA", "abcd"⟩),
        .ok (.region "eu-west-1"), .ok (.region "eu-west-1")] := by
  intro l prompt d calls
  have plain : PlainText "[default]\nregion = us-east-1\n" := by
    refine ⟨Text.shortEnding, [Ini.headerLine "default", Ini.entryLine "region" "us-east-1"],
      .inl rfl, ?_, rfl⟩
    simp only [List.forall_mem_cons, List.not_mem_nil, false_implies, implies_true, and_true]
    exact ⟨.header (by decide), Ini.plainLine_entryLine (by decide) (by decide)⟩
  have free : ∀ key ∈ configKeys,
      NoIndented key (Text.lines "[default]\nregion = us-east-1\n") := by decide
  have tidy : l.Tidy d := ⟨Disk.apart_ofFiles _ _,
    ⟨_, Disk.holds_credentials_ofFiles _ _, by simp⟩,
    ⟨_, Disk.holds_config_ofFiles _ _, by simpa using ⟨plain, free⟩⟩⟩
  have plainCalls : ∀ call ∈ calls, call.Plain := by
    have known : PlainName "work" := by decide
    have first : PlainName "default" := by decide
    simp only [calls, List.forall_mem_cons, List.not_mem_nil, false_implies, implies_true,
      and_true]
    exact ⟨known, ⟨known, by decide, by decide⟩, known, known, first⟩
  have replies : ∀ asked, prompt.RepliesPlainly asked := by
    rintro asked suggestion typed ⟨before, after, -, answered⟩
    cases answered
    decide
  have opened : Opened l d none _ .empty _ := ⟨Disk.apart_ofFiles _ _,
    Disk.holds_credentials_ofFiles _ _, Disk.holds_config_ofFiles _ _, rfl, plain.closed.parse_eq,
    ⟨Ini.plainText_nil.inStep, by simp [Document.empty, Text.lines, NoIndented]⟩,
    plain.inStep, free⟩
  refine ⟨tidy, (runCalls_eq_answerAll tidy plainCalls (replies _)).1.trans ?_⟩
  rw [opened.ofDisk_eq]
  rfl

/-- Both files are absent, at two places. Plain calls with plain replies come to something that the
ledger does not answer. -/
def Strays (l : Locations) (calls : List Call) : Prop :=
  let d := Disk.ofFiles none none
  let prompt := Prompt.entering "us-east-1"
  d.place l.credentials ≠ d.place l.config ∧
    d.read l.credentials = .error .missing ∧ d.read l.config = .error .missing ∧
    (∀ call ∈ calls, call.Plain) ∧ (∀ asked, prompt.RepliesPlainly asked) ∧
    (runCalls l prompt (.start d) calls).1 ≠
      ((Ledger.ofDisk l d).answerAll l prompt [] calls).results

/-- This happens where the config file lies below the place of the credentials file: this becomes a
directory, from which no keys are missing. It also happens where the credentials file can never be
made, since its name is longer than the disk allows. -/
theorem not_runCalls_eq_answerAll :
    Strays ⟨"/a", "/a/b"⟩ [.resolve "" "default", .retrieve "work"] ∧
      Strays ⟨"/a/" ++ List.replicate 256 'b', "/c"⟩ [.save "work" ⟨"AKIA", "abcd"⟩] := by
  have name : PlainName "work" := by decide
  have first : PlainName "default" := by decide
  have replies : ∀ asked, (Prompt.entering "us-east-1").RepliesPlainly asked := by
    rintro asked suggestion typed ⟨before, after, -, answered⟩
    cases answered
    decide
  refine ⟨⟨by decide +kernel, by decide +kernel, by decide +kernel, ?_, replies,
      by decide +kernel⟩,
    ⟨by decide +kernel, by decide +kernel, by decide +kernel, ?_, replies, by decide +kernel⟩⟩
  · simp only [List.forall_mem_cons, List.not_mem_nil, false_implies, implies_true, and_true]
    exact ⟨first, name⟩
  · simp only [List.forall_mem_cons, List.not_mem_nil, false_implies, implies_true, and_true]
    exact ⟨name, by decide, by decide⟩

end Calls

end ProfilePicker
