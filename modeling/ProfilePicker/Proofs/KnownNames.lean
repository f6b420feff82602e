import ProfilePicker.Proofs.CompletedSteps
import ProfilePicker.Proofs.SmallLetters

/-!
# The names that are known

A run of the selection neither makes up nor loses the name of a profile. Where both files are plain
or absent and what is typed can be written as it is, the profiles can be discovered after a run that
succeeds. Their names are the ones from before and, if the run has written to a file, the name of
its profile in small letters. A write adds one section at most, under a name that belongs to this
profile, and a profile that comes from the catalog can be written as the catalog spells it.
-/
namespace ProfilePicker

open Ini (Document PlainName PlainKey PlainValue PlainText closedDocument)

/-! ## Sections that are added -/

/-- An edit of a plain text adds the section that it is about, unless it is there. -/
theorem Ini.PlainText.mem_sections_setLine {t name key value n : Text} (plain : PlainText t)
    (plainName : PlainName name) (plainKey : PlainKey key) (plainValue : PlainValue value) :
    n ∈ (closedDocument (Ini.setLine t name key value)).sections ↔
      n ∈ (closedDocument t).sections ∨ n = name := by
  have lines := (plain.closed.setLine_lines plainName plainKey plainValue.oneLine
    fun _ => leavesOpen_eq_false plainValue.noBackslash).1
  rw [mem_sections_closedDocument, mem_sections_closedDocument, lines,
    plain.closed.headersIn_setInLines plainName plainKey value]
  split
  · rename_i there
    exact (or_iff_left_of_imp fun same => same ▸ there).symm
  · rw [List.mem_append, List.mem_singleton]

/-- Storing a pair adds the section of its profile at most. -/
theorem Credentials.plainText_textIn {c : Credentials} {t profile : Text} (plain : PlainText t)
    (plainName : PlainName profile) (id : PlainValue c.id) (secret : PlainValue c.secret) :
    PlainText (c.textIn profile t) ∧ ∀ n, n ∈ (closedDocument (c.textIn profile t)).sections ↔
      n ∈ (closedDocument t).sections ∨ n = profile := by
  have plainId : PlainKey idKey := by decide
  have plainSecret : PlainKey secretKey := by decide
  have between := plain.setLine plainName plainId id
  refine ⟨between.setLine plainName plainSecret secret, fun n => ?_⟩
  rw [textIn, Naming.sectionFor, between.mem_sections_setLine plainName plainSecret secret,
    plain.mem_sections_setLine plainName plainId id, or_assoc, or_self]

/-- Storing a region does so too. -/
theorem Region.plainText_textIn {t profile region : Text} (plain : PlainText t)
    (plainName : PlainName (Naming.prefixed.sectionFor profile)) (plainRegion : PlainValue region) :
    PlainText (textIn region profile t) ∧
      ∀ n, n ∈ (closedDocument (textIn region profile t)).sections ↔
        n ∈ (closedDocument t).sections ∨ n = Naming.prefixed.sectionFor profile := by
  have plainKey : PlainKey key := by decide
  exact ⟨plain.setLine plainName plainKey plainRegion,
    fun n => plain.mem_sections_setLine plainName plainKey plainRegion⟩

/-- After a run, the file of a store can be read, and its sections are those from before and perhaps
another one. -/
structure Store.Gains (store : Store) (added : Prop) (name : Text) (d d' : Disk) : Prop where
  /-- The file can be read, or it is absent. -/
  opens : ∃ content document, d'.Holds store.path content ∧ documentOf content = .ok document
  /-- One section is added at most. -/
  sections : ∀ n, n ∈ (store.contents d').sections ↔
    n ∈ (store.contents d).sections ∨ added ∧ n = name

namespace Store

variable {store : Store} {d d' : Disk} {added : Prop} {name : Text}

/-- A file that holds what it did gains nothing. -/
theorem gains_of_holds {content : Option Text} {document : Document}
    (before : d.Holds store.path content) (read : documentOf content = .ok document)
    (after : d'.Holds store.path content) (without : ¬added) : store.Gains added name d d' where
  opens := ⟨content, document, after, read⟩
  sections n := by
    rw [contents_eq store before read, contents_eq store after read]
    simp [without]

/-- A file that holds a plain text with one more section gains this section. -/
theorem gains_of_text {t : Text} (after : d'.Holds store.path (some t)) (plain : PlainText t)
    (sections : ∀ n, n ∈ (closedDocument t).sections ↔
      n ∈ (store.contents d).sections ∨ n = name) (there : added) :
    store.Gains added name d d' where
  opens := ⟨some t, _, after, plain.closed.parse_closedDocument⟩
  sections n := by
    rw [contents_eq store after plain.closed.parse_closedDocument, sections]
    simp [there]

/-- What is gained stays when the file holds what it did. -/
theorem Gains.stays {d'' : Disk} (gains : store.Gains added name d d')
    (holds : ∀ {content}, d'.Holds store.path content → d''.Holds store.path content) :
    store.Gains added name d d'' := by
  obtain ⟨content, document, opened, read⟩ := gains.opens
  have same : store.contents d'' = store.contents d' := by
    rw [contents_eq store (holds opened) read, contents_eq store opened read]
  exact ⟨⟨content, document, holds opened, read⟩, by rw [same]; exact gains.sections⟩

end Store

/-! ## Names that are added -/

namespace Catalog

/-- Sections of one profile that are added to both documents add its name. -/
theorem mem_ofDocuments_of_gains {keys settings keys' settings' : Document} {stored asked : Prop}
    {profile name : Text}
    (gainsKeys : ∀ n, n ∈ keys'.sections ↔ n ∈ keys.sections ∨ stored ∧ n = profile)
    (gainsSettings : ∀ n, n ∈ settings'.sections ↔
      n ∈ settings.sections ∨ asked ∧ n = Naming.prefixed.sectionFor profile) :
    name ∈ (ofDocuments keys' settings').names ↔
      name ∈ (ofDocuments keys settings).names ∨ (stored ∨ asked) ∧ name = profile.toLower := by
  have belongs := Naming.prefixed.profileFor?_sectionFor profile
  rw [mem_ofDocuments, mem_ofDocuments]
  constructor
  · rintro ⟨other, member | ⟨section_, member, leads⟩, rfl⟩
    · rcases (gainsKeys other).1 member with old | ⟨there, rfl⟩
      · exact .inl ⟨other, .inl old, rfl⟩
      · exact .inr ⟨.inl there, rfl⟩
    · rcases (gainsSettings section_).1 member with old | ⟨there, rfl⟩
      · exact .inl ⟨other, .inr ⟨section_, old, leads⟩, rfl⟩
      · cases leads.symm.trans belongs
        exact .inr ⟨.inr there, rfl⟩
  · rintro (⟨other, old | ⟨section_, old, leads⟩, rfl⟩ | ⟨there | there, rfl⟩)
    · exact ⟨other, .inl ((gainsKeys other).2 (.inl old)), rfl⟩
    · exact ⟨other, .inr ⟨section_, (gainsSettings section_).2 (.inl old), leads⟩, rfl⟩
    · exact ⟨profile, .inl ((gainsKeys profile).2 (.inr ⟨there, rfl⟩)), rfl⟩
    · exact ⟨profile, .inr ⟨_, (gainsSettings _).2 (.inr ⟨there, rfl⟩), belongs⟩, rfl⟩

/-- Profiles are discovered among the contents of two files that can be read. -/
theorem discover_of_gains {l : Locations} {added added' : Prop} {name name' : Text} {d d' : Disk}
    (keys : l.credentialsStore.Gains added name d d')
    (settings : l.configStore.Gains added' name' d d') (prompt : Prompt) {s : Session}
    (here : s.disk = d') : ((discover l).outcome prompt s).1 =
      .ok (ofDocuments (l.credentialsStore.contents d') (l.configStore.contents d')) := by
  obtain ⟨_, _, holdsKeys, readKeys⟩ := keys.opens
  obtain ⟨_, _, holdsSettings, readSettings⟩ := settings.opens
  subst here
  obtain ⟨log, found⟩ : (discover l).Logs prompt s _ :=
    discover_logs holdsKeys.finds readKeys holdsSettings.finds readSettings
  rw [found, Store.contents_eq _ holdsKeys readKeys,
    Store.contents_eq _ holdsSettings readSettings]

/-- A known profile has a section whose name a header can hold, spelled as the catalog spells it. -/
theorem plainName_of_mem {keys settings : Document} {profile : Text}
    (plainKeys : ∀ n ∈ keys.sections, PlainName n)
    (plainSettings : ∀ n ∈ settings.sections, PlainName n)
    (known : profile ∈ (ofDocuments keys settings).names) :
    PlainName (Naming.prefixed.sectionFor profile) := by
  obtain ⟨other, member | ⟨section_, member, leads⟩, rfl⟩ := mem_ofDocuments.1 known
  · have plain : PlainName ([] ++ other) := plainKeys other member
    exact Naming.prefixed.plainName_sectionFor plain.append_toLower
  · have plain := plainSettings section_ member
    rw [Naming.profileFor?] at leads
    split at leads
    · cases leads
      have front : PlainName ([] ++ other) := plain
      exact Naming.prefixed.plainName_sectionFor front.append_toLower
    · obtain rfl := Text.dropStart?_eq_some_iff.1 leads
      rw [Naming.sectionFor]
      split
      · rename_i bare
        rw [bare]
        decide
      · exact plain.append_toLower

end Catalog

/-! ## Runs in which everything is typed plainly -/

/-- What a user types in a run can be written as it is: names and regions without the blanks around
them, keys with all that is typed. -/
structure Prompt.TypesPlainly (prompt : Prompt) (asked : List Question) : Prop where
  /-- The name of a new profile is plain. -/
  name : ∀ suggestion typed : Text,
    prompt.Replied asked (.input "profile name" suggestion) typed → PlainName typed.trim
  /-- The name of its key is. -/
  id : ∀ typed : Text, prompt.Replied asked Credentials.idQuestion typed → PlainValue typed
  /-- The secret is. -/
  secret : ∀ typed : Text,
    prompt.Replied asked Credentials.secretQuestion typed → PlainValue typed
  /-- The region is. -/
  region : ∀ suggestion typed : Text,
    prompt.Replied asked (.input "Region" suggestion) typed → PlainValue typed.trim

/-- What holds of all that is typed in a run holds in a part of it. -/
theorem Prompt.TypesPlainly.later {prompt : Prompt} {asked more : List Question}
    (part : asked <+: more) (plainly : prompt.TypesPlainly more) : prompt.TypesPlainly asked where
  name suggestion typed replied := plainly.name suggestion typed (replied.later part)
  id typed replied := plainly.id typed (replied.later part)
  secret typed replied := plainly.secret typed (replied.later part)
  region suggestion typed replied := plainly.region suggestion typed (replied.later part)

namespace Selection

variable {l : Locations} {prompt : Prompt} {d : Disk} {s s' : Session} {wishes : Wishes}
  {suggested profile region : Text} {context : Context} {description : Text}

/-- A run that succeeds writes to a file: it stores the pair of a new profile, or it asks for a
region, which it stores. -/
def Writes (l : Locations) (prompt : Prompt) (wishes : Wishes) (d : Disk) : Prop :=
  (∃ name c, Stores l prompt wishes d name c) ∨ wishes.region.filter (· ≠ []) = none

/-- A run has added the name of its profile to the catalog if it has written to a file, and nothing
else. -/
structure KnowsNames (l : Locations) (prompt : Prompt) (wishes : Wishes) (d : Disk)
    (context : Context) (s' : Session) (before after : Catalog) : Prop where
  /-- The catalog before the run. -/
  known : ((Catalog.discover l).outcome prompt (.start d)).1 = .ok before
  /-- The catalog that is discovered after it, whoever looks. -/
  discovered : ∀ (other : Prompt) (s : Session), s.disk = s'.disk →
    ((Catalog.discover l).outcome other s).1 = .ok after
  /-- No name is repeated. -/
  once : after.names.Nodup
  /-- All names are old but that of the profile, which is there if a file was written. -/
  names : ∀ name, name ∈ after.names ↔
    name ∈ before.names ∨ Writes l prompt wishes d ∧ name = context.name.toLower
  /-- A file that was written holds the pair or the region of the profile. -/
  written : Writes l prompt wishes d →
    (∃ c : Credentials, s'.disk.read l.credentials =
      .ok (c.textIn context.name (l.credentialsStore.text d))) ∨
    s'.disk.read l.config =
      .ok (Region.textIn context.region context.name (l.configStore.text d))
  /-- Without a write, both files are as they were. -/
  spared : ¬Writes l prompt wishes d →
    d.Spares l.credentials s'.disk ∧ d.Spares l.config s'.disk

/-- The profile that is settled on has a section whose name a header can hold. -/
theorem Chosen.plainName {keys settings : Document} {asked : List Question}
    (chosen : Chosen prompt (.ofDocuments keys settings) asked profile)
    (plainKeys : ∀ n ∈ keys.sections, PlainName n)
    (plainSettings : ∀ n ∈ settings.sections, PlainName n)
    (plainly : prompt.TypesPlainly asked) : PlainName (Naming.prefixed.sectionFor profile) := by
  cases chosen with
  | bare => decide
  | known member => exact Catalog.plainName_of_mem plainKeys plainSettings member
  | typed replied visible =>
    exact Naming.prefixed.plainName_sectionFor (plainly.name _ _ replied)

/-- What a run has made of the credentials file when it comes to the region: the pair that it stores
was typed and adds the section of its profile. -/
theorem keys_gain (plain : d.Plain l.credentials)
    (settles : Settles l prompt wishes d profile s) (plainly : prompt.TypesPlainly s.asked) :
    l.credentialsStore.Gains (∃ name c, Stores l prompt wishes d name c) profile d s.disk ∧
      ∀ {name c}, Stores l prompt wishes d name c → s.disk.read l.credentials =
        .ok (c.textIn profile (l.credentialsStore.text d)) := by
  obtain ⟨plainText, contents, content, holds, -, read⟩ := l.credentialsStore.plain_cases plain
  obtain ⟨stored, unstored⟩ := keys_of_settles settles
  have stored' : ∀ {name c}, Stores l prompt wishes d name c → s.disk.read l.credentials =
      .ok (c.textIn profile (l.credentialsStore.text d)) := by
    intro name c stores
    obtain ⟨old, finds, puts⟩ := stored stores
    obtain ⟨_, settles', -⟩ := stores.settles
    obtain ⟨rfl, -⟩ := settles.unique settles'
    obtain rfl := finds.unique holds.finds
    rw [puts.read, ← text_of_documentOf read]
    rfl
  refine ⟨?_, stored'⟩
  by_cases storing : ∃ name c, Stores l prompt wishes d name c
  · obtain ⟨name, c, stores⟩ := storing
    have text := stored' stores
    obtain ⟨_, settles', -, catalog, makes, asked⟩ := stores.settles
    obtain ⟨rfl, rfl⟩ := settles.unique settles'
    rw [asked] at plainly
    obtain ⟨typed, replied, rfl⟩ := makes.replied
    obtain ⟨plainText', sections⟩ := Credentials.plainText_textIn plainText
      (plainly.name _ _ replied) (plainly.id _ makes.typed.id) (plainly.secret _ makes.typed.secret)
    exact Store.gains_of_text (.text text) plainText' (by rwa [contents]) ⟨_, c, stores⟩
  · exact Store.gains_of_holds holds read ((unstored storing).holds holds) storing

/-- What it makes of the config file: the region that it stores was typed and adds the section of
its profile. -/
theorem region_gains (plain : d.Plain l.config)
    (holds : ∀ {content}, d.Holds l.config content → s.disk.Holds l.config content)
    (plainName : PlainName (Naming.prefixed.sectionFor profile))
    (written : RegionWritten l prompt (closedDocument (l.configStore.text d)) profile
      wishes.region s s' region)
    (plainly : prompt.TypesPlainly s'.asked) :
    l.configStore.Gains (wishes.region.filter (· ≠ []) = none)
      (Naming.prefixed.sectionFor profile) d s'.disk := by
  obtain ⟨plainText, contents, content, before, -, read⟩ := l.configStore.plain_cases plain
  cases written with
  | named wished same =>
    refine Store.gains_of_holds before read (same ▸ holds before) fun unnamed => ?_
    rw [wished] at unnamed
    cases unnamed
  | @typed suggestion typed unnamed replied rewrites =>
    obtain ⟨plainText', sections⟩ := Region.plainText_textIn plainText plainName
      (plainly.region suggestion typed replied)
    exact Store.gains_of_text rewrites.holds plainText' (by rwa [contents]) unnamed

/-- A run that succeeds has settled on the profile of its context and then on the region. -/
theorem settles_of_run
    (ran : (run l suggested wishes).outcome prompt (.start d) = (.ok (context, description), s')) :
    ∃ profile s₁, Settles l prompt wishes d profile s₁ ∧
      (settleRegion l suggested profile wishes.region).outcome prompt s₁ =
        (.ok context.region, s') ∧ context = .of profile context.region := by
  rcases run_cases ran with ⟨fault, failed, -⟩ | ⟨profile, s₁, reply, settles, ended, same⟩
  · cases failed
  · cases reply with
    | error fault => cases same
    | ok region =>
      cases same
      exact ⟨profile, s₁, settles, ended, rfl⟩

/-- The profile that is settled on comes from the documents in both files, and the config file is
left alone. -/
theorem chosen_of_settles {keysContent settingsContent : Option Text} {keys settings : Document}
    (holdsKeys : d.Holds l.credentials keysContent) (readKeys : documentOf keysContent = .ok keys)
    (holdsSettings : d.Holds l.config settingsContent)
    (readSettings : documentOf settingsContent = .ok settings)
    (apart : Path.Apart d.directory l.credentials l.config)
    (settles : Settles l prompt wishes d profile s) :
    ((Catalog.discover l).outcome prompt (.start d)).1 = .ok (.ofDocuments keys settings) ∧
      Chosen prompt (.ofDocuments keys settings) s.asked profile ∧
      s.disk.directory = d.directory ∧
      ∀ {content}, d.Holds l.config content → s.disk.Holds l.config content := by
  obtain ⟨catalog, s₀, discovered, settled⟩ := settles
  obtain ⟨log, known⟩ : (Catalog.discover l).Logs prompt (.start d) _ :=
    Catalog.discover_logs holdsKeys.finds readKeys holdsSettings.finds readSettings
  cases known.symm.trans discovered
  obtain ⟨chosen, -, written⟩ := ok_of_settleProfile (by exact holdsKeys) readKeys settled
  exact ⟨by rw [known], chosen, (written.stays apart holdsSettings).1,
    fun holds => (written.stays apart holds).2⟩

/-- **A run neither makes up nor loses a name.** Both files are plain, or absent and can be made,
and do not meet. After a run that succeeds, and in which everything was typed plainly, profiles can
be discovered. Each name is there once: those from before and, if the run has written to a file,
that of its profile in small letters. -/
theorem run_knows_names (apart : Path.Apart d.directory l.credentials l.config)
    (plainKeys : d.Plain l.credentials) (plainSettings : d.Plain l.config)
    (ran : (run l suggested wishes).outcome prompt (.start d) = (.ok (context, description), s'))
    (plainly : prompt.TypesPlainly s'.asked) :
    ∃ before after, KnowsNames l prompt wishes d context s' before after := by
  obtain ⟨profile, s₁, settles, ended, same⟩ := settles_of_run ran
  obtain ⟨keysText, keysContents, keysContent, holdsKeys, -, readKeys⟩ :=
    l.credentialsStore.plain_cases plainKeys
  obtain ⟨settingsText, settingsContents, settingsContent, holdsSettings, -, readSettings⟩ :=
    l.configStore.plain_cases plainSettings
  obtain ⟨known, chosen, directory, stays⟩ :=
    chosen_of_settles holdsKeys readKeys holdsSettings readSettings apart settles
  obtain ⟨part, regionWritten⟩ := ok_of_settleRegion (stays holdsSettings) readSettings ended
  have apart₁ : Path.Apart s₁.disk.directory l.config l.credentials := directory ▸ apart.symm
  -- The profile has a name, and its section can be written.
  have plainSections : ∀ n ∈ (closedDocument (l.credentialsStore.text d)).sections, PlainName n :=
    fun n member => plainName_of_mem_sections keysText member
  have plainSections' : ∀ n ∈ (closedDocument (l.configStore.text d)).sections, PlainName n :=
    fun n member => plainName_of_mem_sections settingsText member
  have name : context.name = profile := by
    rw [same]
    exact Context.name_of (chosen.nonempty fun n member =>
      Catalog.name_ne_nil_of_mem plainSections plainSections' member) _
  have plainName := chosen.plainName plainSections plainSections' (plainly.later part)
  -- So each file gains this section at most.
  obtain ⟨gains, stored⟩ := keys_gain plainKeys settles (plainly.later part)
  have keys := gains.stays fun holds => regionWritten.stays apart₁ holds
  have settings := region_gains plainSettings stays plainName regionWritten plainly
  refine ⟨_, _, known, fun other s here => Catalog.discover_of_gains keys settings other here,
    nodup_distinct _, fun n => ?_, ?_, fun without => ?_⟩
  · rw [name, ← keysContents, ← settingsContents]
    exact Catalog.mem_ofDocuments_of_gains keys.sections settings.sections
  · rw [name]
    rintro (⟨_, c, stores⟩ | unnamed)
    · exact .inl ⟨c, (regionWritten.stays apart₁ (.text (stored stores))).read⟩
    · exact .inr (regionWritten.read unnamed)
  · obtain ⟨unstored, named⟩ := not_or.1 without
    have makes := (keys_of_settles settles).2 unstored
    rw [regionWritten.disk_eq named]
    exact ⟨makes.spares, makes.spares_other apart⟩

/-- The user who makes a profile whose name is the default one but for a capital letter. -/
def capitalizing : Prompt where
  answer _ q :=
    match q with
    | .select _ _ => .ok (0 : Nat)
    | .input title _ =>
      .ok (if title = ("profile name" : Text) then "Default"
        else if title = ("Region" : Text) then "eu-west-1" else "AKIA")
    | .password _ => .ok "abcd"
    | .confirm _ _ => .ok true

/-- The default profile is added to a profile whose name begins like a section. -/
theorem run_knows_names_default :
    let d := Disk.ofFiles none (some "[profile profile Work]\noutput = json\n")
    Path.Apart [] atRoot.credentials atRoot.config ∧ d.Plain atRoot.credentials ∧
      d.Plain atRoot.config ∧
      ∃ s' before after, (run atRoot [] ⟨none, none, []⟩).outcome capitalizing (.start d) =
          (.ok (⟨"Default", "eu-west-1"⟩, "(eu-west-1)"), s') ∧
        capitalizing.TypesPlainly s'.asked ∧
        KnowsNames atRoot capitalizing ⟨none, none, []⟩ d ⟨"Default", "eu-west-1"⟩ s' before
          after ∧
        before.names = ["profile work"] ∧
        ∀ name, name ∈ after.names ↔ name = ("profile work" : Text) ∨ name = defaultProfile := by
  intro d
  have apart : Path.Apart [] atRoot.credentials atRoot.config := by decide
  have plainText : PlainText "[profile profile Work]\noutput = json\n" := by
    refine ⟨Text.shortEnding, [Ini.headerLine "profile profile Work",
      Ini.entryLine "output" "json"], .inl rfl, ?_, rfl⟩
    simp only [List.forall_mem_cons, List.not_mem_nil, false_implies, implies_true, and_true]
    exact ⟨.header (by decide), Ini.plainLine_entryLine (by decide) (by decide)⟩
  have plainKeys : d.Plain atRoot.credentials :=
    ⟨none, Disk.holds_credentials_ofFiles _ _, by simp⟩
  have plainSettings : d.Plain atRoot.config :=
    ⟨_, Disk.holds_config_ofFiles _ _, by simpa using plainText⟩
  have ran : (run atRoot [] ⟨none, none, []⟩).outcome capitalizing (.start d) =
      (.ok (⟨"Default", "eu-west-1"⟩, "(eu-west-1)"),
        ((run atRoot [] ⟨none, none, []⟩).outcome capitalizing (.start d)).2) :=
    Prod.ext (by decide +kernel) rfl
  have plainly : ∀ asked, capitalizing.TypesPlainly asked := by
    have name : PlainName (Text.trim "Default") := by decide
    have region : PlainValue (Text.trim "eu-west-1") := by decide
    refine fun asked => ⟨?_, ?_, ?_, ?_⟩
    · rintro suggestion typed ⟨before, after, -, answered⟩
      cases answered
      exact name
    · rintro typed ⟨before, after, -, answered⟩
      cases answered
      decide
    · rintro typed ⟨before, after, -, answered⟩
      cases answered
      decide
    · rintro suggestion typed ⟨before, after, -, answered⟩
      cases answered
      exact region
  obtain ⟨before, after, knows⟩ := run_knows_names apart plainKeys plainSettings ran (plainly _)
  have first : ((Catalog.discover atRoot).outcome capitalizing (.start d)).1 =
      .ok ⟨["profile work"]⟩ := by decide +kernel
  cases first.symm.trans knows.known
  refine ⟨apart, plainKeys, plainSettings, _, _, after, ran, plainly _, knows, rfl, fun name => ?_⟩
  have small : (Context.name ⟨"Default", "eu-west-1"⟩).toLower = defaultProfile := by
    decide +kernel
  have writes : Writes atRoot capitalizing ⟨none, none, []⟩ d := .inr rfl
  rw [knows.names, small, and_iff_right writes, List.mem_singleton]

/-- Profiles cannot be discovered any more after a run that asks for the region of the default
profile, though both files are absent at two places and the region is plain. -/
def LosesSight (l : Locations) : Prop :=
  let d := Disk.ofFiles none none
  d.place l.credentials ≠ d.place l.config ∧
    d.read l.credentials = .error .missing ∧ d.read l.config = .error .missing ∧
    ∃ result s' fault, (run l [] ⟨some defaultProfile, none, []⟩).outcome (.entering "us-east-1")
        (.start d) = (.ok result, s') ∧
      (Prompt.entering "us-east-1").TypesPlainly s'.asked ∧
      ((Catalog.discover l).outcome (.entering "us-east-1") s').1 = .error fault

/-- It is enough that the run succeeds and that profiles cannot be discovered then. -/
theorem losesSight_of_outcome {l : Locations} (result : Context × Text) (fault : Fault)
    (places : (Disk.ofFiles none none).place l.credentials ≠
      (Disk.ofFiles none none).place l.config)
    (missing : (Disk.ofFiles none none).read l.credentials = .error .missing ∧
      (Disk.ofFiles none none).read l.config = .error .missing)
    (ran : ((run l [] ⟨some defaultProfile, none, []⟩).outcome (.entering "us-east-1")
      (.start (.ofFiles none none))).1 = .ok result)
    (failed : ((Catalog.discover l).outcome (.entering "us-east-1")
      ((run l [] ⟨some defaultProfile, none, []⟩).outcome (.entering "us-east-1")
        (.start (.ofFiles none none))).2).1 = .error fault) : LosesSight l := by
  refine ⟨places, missing.1, missing.2, result, _, fault, Prod.ext ran rfl,
    ⟨?_, ?_, ?_, ?_⟩, failed⟩
  · rintro suggestion typed ⟨before, after, -, answered⟩
    cases answered
    decide
  · rintro typed ⟨before, after, -, answered⟩
    cases answered
    decide
  · rintro typed ⟨before, after, -, answered⟩
    cases answered
  · rintro suggestion typed ⟨before, after, -, answered⟩
    cases answered
    decide

/-- This happens where the config file lies below the place of the credentials file, which becomes a
directory. It also happens where the name of the credentials file is longer than the disk allows,
which shows only when the run has made its directory. -/
theorem not_run_knows_names :
    LosesSight ⟨"/a", "/a/b"⟩ ∧ LosesSight ⟨"/a/" ++ List.replicate 256 'b', "/a/c"⟩ := by
  constructor
  · exact losesSight_of_outcome (⟨[], "us-east-1"⟩, "(us-east-1)") (.disk .isDirectory)
      (by decide +kernel) (by decide +kernel) (by decide +kernel) (by decide +kernel)
  · exact losesSight_of_outcome (⟨[], "us-east-1"⟩, "(us-east-1)") (.disk .longName)
      (by decide +kernel) (by decide +kernel) (by decide +kernel) (by decide +kernel)

end Selection

end ProfilePicker
