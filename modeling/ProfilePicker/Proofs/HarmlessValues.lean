import ProfilePicker.Proofs.OpenValues
import ProfilePicker.Proofs.TypedLines

/-!
# Values that do no harm

What a user types is written down as it is. On one line, three values do no harm to anything else
in plain files exactly when none of them leaves its line open. Where one does, whatever the other
two are, there are plain files and a run that loses a section.
-/
namespace ProfilePicker

open Ini (Document PlainName PlainText closedDocument Passes bareComment headerLine entryLine
  leavesOpen)
open Text (OneLine shortEnding)

/-- In a run, the name of a key, a secret and a region were typed whenever they were asked for. -/
structure Prompt.Types (prompt : Prompt) (id secret region : Text) (asked : List Question) :
    Prop where
  /-- The name of the key was. -/
  id : ∀ typed : Text, prompt.Replied asked Credentials.idQuestion typed → typed = id
  /-- The secret was. -/
  secret : ∀ typed : Text, prompt.Replied asked Credentials.secretQuestion typed → typed = secret
  /-- The region was. -/
  region : ∀ suggestion typed : Text,
    prompt.Replied asked (.input "Region" suggestion) typed → typed = region

namespace Selection

/-- Values with which every run that succeeds on plain files keeps everything else. -/
def Harmless (id secret region : Text) : Prop :=
  ∀ (l : Locations) (d : Disk) (prompt : Prompt) (suggested : Text) (wishes : Wishes)
    (result : Context × Text) (s' : Session),
    Path.Apart d.directory l.credentials l.config → d.Plain l.credentials → d.Plain l.config →
    (run l suggested wishes).outcome prompt (.start d) = (.ok result, s') →
    PlainName result.1.name → prompt.Types id secret region s'.asked →
    KeepsRest l result.1.name d s'.disk

/-- Values that stay within their lines do no harm. -/
theorem harmless_of_closed {id secret region : Text} (idLine : OneLine id)
    (idClosed : leavesOpen id = false) (secretLine : OneLine secret)
    (secretClosed : leavesOpen secret = false) (regionLine : OneLine region.trim)
    (regionClosed : leavesOpen region.trim = false) : Harmless id secret region := by
  intro l d prompt suggested wishes result s' apart plainKeys plainSettings ran plainName types
  refine keeps_of_run apart plainKeys plainSettings ran plainName (fun typed replied => ?_)
    (fun typed replied => ?_) fun suggestion typed replied => ?_
  · rw [types.id typed replied]
    exact ⟨idLine, fun _ => idClosed⟩
  · rw [types.secret typed replied]
    exact ⟨secretLine, fun _ => secretClosed⟩
  · rw [types.region suggestion typed replied]
    exact ⟨regionLine, fun _ => regionClosed⟩

/-- At a terminal, where replies stand on one line, a run keeps everything else when none of them
leaves its line open. -/
theorem keeps_of_typing {l : Locations} {d : Disk} {entries : List Text} {suggested : Text}
    {wishes : Wishes} {result : Context × Text} {s' : Session}
    (apart : Path.Apart d.directory l.credentials l.config) (plainKeys : d.Plain l.credentials)
    (plainSettings : d.Plain l.config)
    (ran : (run l suggested wishes).outcome (Terminal.typing entries) (.start d) =
      (.ok result, s'))
    (plainName : PlainName result.1.name)
    (suggestions : ∀ suggestion : Text, .input "Region" suggestion ∈ s'.asked →
      OneLine suggestion)
    (idClosed : ∀ typed : Text,
      (Terminal.typing entries).Replied s'.asked Credentials.idQuestion typed →
      leavesOpen typed = false)
    (secretClosed : ∀ typed : Text,
      (Terminal.typing entries).Replied s'.asked Credentials.secretQuestion typed →
      leavesOpen typed = false)
    (regionClosed : ∀ suggestion typed : Text,
      (Terminal.typing entries).Replied s'.asked (.input "Region" suggestion) typed →
      leavesOpen typed.trim = false) :
    KeepsRest l result.1.name d s'.disk := by
  refine keeps_of_run apart plainKeys plainSettings ran plainName (fun typed replied => ?_)
    (fun typed replied => ?_) fun suggestion typed replied => ?_
  · exact ⟨Terminal.oneLine_id replied, fun _ => idClosed typed replied⟩
  · exact ⟨Terminal.oneLine_secret replied, fun _ => secretClosed typed replied⟩
  · have asked : .input "Region" suggestion ∈ s'.asked := by
      obtain ⟨before, after, whole, -⟩ := replied
      rw [whole]
      exact List.mem_append_right before List.mem_cons_self
    exact ⟨Terminal.oneLine_region (suggestions suggestion asked) replied,
      fun _ => regionClosed suggestion typed replied⟩

/-! ## A user who sets up the default profile -/

/-- The replies of a user who makes the default profile and types these values. -/
def setsUp (id secret region : Text) : Prompt where
  answer _ q :=
    match q with
    | .select _ _ => .ok (0 : Nat)
    | .input title _ =>
      .ok (if title = ("profile name" : Text) then defaultProfile
        else if title = ("Region" : Text) then region else id)
    | .password _ => .ok secret
    | .confirm _ _ => .ok true

/-- Such a user types these values. -/
theorem types_setsUp (id secret region : Text) (asked : List Question) :
    (setsUp id secret region).Types id secret region asked := by
  refine ⟨fun typed replied => ?_, fun typed replied => ?_, fun suggestion typed replied => ?_⟩
  · obtain ⟨before, after, -, answered⟩ := replied
    cases answered
    rfl
  · obtain ⟨before, after, -, answered⟩ := replied
    cases answered
    rfl
  · obtain ⟨before, after, -, answered⟩ := replied
    cases answered
    rfl

variable {l : Locations} {d : Disk} {keysContent settingsContent : Option Text}
  {keys settings : Document} {id secret region : Text}

/-- A run for the default profile that asks for its region. -/
theorem run_default_region (l : Locations) (holdsKeys : d.Holds l.credentials keysContent)
    (readKeys : documentOf keysContent = .ok keys)
    (holdsSettings : d.Holds l.config settingsContent)
    (readSettings : documentOf settingsContent = .ok settings) (id secret region : Text)
    (visible : region.trim ≠ []) :
    ∃ result s', (run l [] ⟨some defaultProfile, none, []⟩).outcome (setsUp id secret region)
        (.start d) = (.ok result, s') ∧ result.1.name = defaultProfile ∧
      d.Rewrites l.config (Region.storeIn region.trim defaultProfile settings).text s'.disk := by
  let prompt := setsUp id secret region
  have discovered : (Catalog.discover l).Logs prompt (.start d) (.ofDocuments keys settings) :=
    Catalog.discover_logs holdsKeys.finds readKeys holdsSettings.finds readSettings
  obtain ⟨log, after⟩ := discovered.outcome_bind fun catalog => do
    let profile ← settleProfile l catalog (some defaultProfile)
    let region ← settleRegion l [] profile none
    return (Context.of profile region, Context.describe region [])
  let discovering : Session := { Session.start d with log := log }
  have settled : (settleProfile l (.ofDocuments keys settings) (some defaultProfile)).outcome
      prompt discovering = (.ok defaultProfile, discovering) := rfl
  have answered : prompt.answer [] (Region.question settings [] defaultProfile) = .ok region := rfl
  obtain ⟨written, log', rewrites, resolved⟩ := Region.resolve_answered l.configStore prompt
    (s := discovering) [] defaultProfile holdsSettings readSettings answered visible
  refine ⟨(.of defaultProfile region.trim, Context.describe region.trim []),
    ⟨written, [Region.question settings [] defaultProfile], log'⟩, ?_, rfl, rewrites⟩
  rw [run]
  apply after.trans
  rw [Flow.outcome_bind_of_ok prompt _ settled, settleRegion]
  exact Flow.outcome_bind_of_ok prompt _ resolved _

/-- Such a user gives a pair that is accepted. -/
theorem gives_setsUp (accepted : Credentials.ofTyped id secret = .ok ⟨id, secret⟩) (region : Text)
    (asked : List Question) :
    Credentials.Gives (setsUp id secret region) asked ⟨id, secret⟩ where
  agreed := rfl
  id := rfl
  secret := rfl
  long := (Credentials.ofTyped_eq_ok_iff.1 accepted).2

/-- Such a user makes the default profile with the keys that were typed. -/
theorem create_setsUp {s : Session} (catalog : Catalog)
    (holds : s.disk.Holds l.credentials keysContent) (read : documentOf keysContent = .ok keys)
    (accepted : Credentials.ofTyped id secret = .ok ⟨id, secret⟩)
    (unstored : Credentials.ofDocument? keys defaultProfile = none) (region : Text) :
    ∃ s', (create l catalog).outcome (setsUp id secret region) s = (.ok defaultProfile, s') ∧
      s.disk.Rewrites l.credentials (Credentials.storeIn ⟨id, secret⟩ defaultProfile keys).text
        s'.disk := by
  let prompt := setsUp id secret region
  let suggestion : Text := if catalog.contains defaultProfile then [] else defaultProfile
  have named : (Flow.ask (.input "profile name" suggestion)).outcome prompt s =
      (.ok defaultProfile, { s with asked := s.asked ++ [.input "profile name" suggestion] }) :=
    Flow.outcome_ask _ _ _
  let asking : Session := ⟨s.disk, s.asked ++ [.input "profile name" suggestion],
    s.log ++ [⟨.info, "creating profile " ++ defaultProfile.quoted⟩]⟩
  have found : asking.disk.Holds l.credentialsStore.path keysContent := holds
  have gives := gives_setsUp accepted region asking.asked
  obtain ⟨written, log, rewrites, made⟩ :=
    gives.outcome_createProfile_of_unstored found read unstored
  refine ⟨⟨written, asking.asked ++ [Credentials.agreement] ++ [Credentials.idQuestion] ++
    [Credentials.secretQuestion], log⟩, ?_, rewrites⟩
  rw [create]
  apply (Flow.outcome_bind_of_ok _ s named _).trans
  exact Flow.outcome_bind_of_ok _ asking made _

/-- A run that makes the default profile. -/
theorem run_makes_default (l : Locations) (holdsKeys : d.Holds l.credentials keysContent)
    (readKeys : documentOf keysContent = .ok keys)
    (holdsSettings : d.Holds l.config settingsContent)
    (readSettings : documentOf settingsContent = .ok settings)
    (accepted : Credentials.ofTyped id secret = .ok ⟨id, secret⟩)
    (unstored : Credentials.ofDocument? keys defaultProfile = none) (region : Text) :
    ∃ result s', (run l [] ⟨none, some ['r'], []⟩).outcome (setsUp id secret region)
        (.start d) = (.ok result, s') ∧ result.1.name = defaultProfile ∧
      d.Rewrites l.credentials (Credentials.storeIn ⟨id, secret⟩ defaultProfile keys).text
        s'.disk := by
  let prompt := setsUp id secret region
  let catalog : Catalog := .ofDocuments keys settings
  have discovered : (Catalog.discover l).Logs prompt (.start d) catalog :=
    Catalog.discover_logs holdsKeys.finds readKeys holdsSettings.finds readSettings
  obtain ⟨log, after⟩ := discovered.outcome_bind fun catalog => do
    let profile ← settleProfile l catalog none
    let region ← settleRegion l [] profile (some ['r'])
    return (Context.of profile region, Context.describe region [])
  let choice : Question := .select "Select AWS Profile" (options catalog)
  let discovering : Session := { Session.start d with log := log }
  let selecting : Session := { discovering with asked := [choice] }
  have selected : (Flow.ask choice).outcome prompt discovering = (.ok (0 : Nat), selecting) :=
    Flow.outcome_ask _ _ _
  obtain ⟨s', created, rewrites⟩ := create_setsUp (s := selecting) catalog holdsKeys readKeys
    accepted unstored region
  have settled : (settleProfile l catalog none).outcome prompt discovering =
      (.ok defaultProfile, s') := by
    rw [settleProfile]
    exact (Flow.outcome_bind_of_ok _ _ selected _).trans created
  refine ⟨(.of defaultProfile ['r'], Context.describe ['r'] []), s', ?_, rfl, rewrites⟩
  rw [run]
  apply after.trans
  rw [Flow.outcome_bind_of_ok _ _ settled]
  rfl

/-! ## Runs that lose a section -/

/-- The lines of a file with a setting in front of a section. -/
def beforeSection (key value : Text) : List Text :=
  [headerLine defaultProfile, entryLine key value, headerLine ['x']]

/-- The lines of a file with a setting and a comment in front of a section. -/
def beforeComment (key value : Text) : List Text :=
  [headerLine defaultProfile, entryLine key value, bareComment, headerLine ['x']]

/-- The lines of a file with a setting, a comment and another setting in front of a section. -/
def behindComment (key value other next : Text) : List Text :=
  [headerLine defaultProfile, entryLine key value, bareComment, entryLine other next,
    headerLine ['x']]

/-- Such lines are plain when their values are. -/
theorem plainText_beforeSection {key value : Text} (plainKey : Ini.PlainKey key)
    (plainValue : Ini.PlainValue value) :
    PlainText (Text.joinLines shortEnding (beforeSection key value)) := by
  refine ⟨_, _, .inl rfl, ?_, rfl⟩
  simp only [beforeSection, List.forall_mem_cons, List.not_mem_nil, false_implies, implies_true,
    and_true]
  exact ⟨.header (by decide), Ini.plainLine_entryLine plainKey plainValue, .header (by decide)⟩

/-- So are those with a comment. -/
theorem plainText_beforeComment {key value : Text} (plainKey : Ini.PlainKey key)
    (plainValue : Ini.PlainValue value) :
    PlainText (Text.joinLines shortEnding (beforeComment key value)) := by
  refine ⟨_, _, .inl rfl, ?_, rfl⟩
  simp only [beforeComment, List.forall_mem_cons, List.not_mem_nil, false_implies, implies_true,
    and_true]
  exact ⟨.header (by decide), Ini.plainLine_entryLine plainKey plainValue,
    .comment rfl (by decide), .header (by decide)⟩

section Lost

variable {disk : Disk} {key value : Text} (plainKey : Ini.PlainKey key)
  (oneLine : OneLine value) (opened : leavesOpen value = true)

include plainKey oneLine opened in
/-- A value that leaves its line open takes in the header of the section behind it. -/
theorem passes_openSection :
    Passes (Text.joinLines shortEnding [entryLine key value, headerLine ['x']])
      [.entry key (Text.trim (value.dropLast ++ headerLine ['x']))] :=
  Ini.passes_openLine plainKey oneLine opened (by decide) (by decide)

/-- The header of the default profile yields itself. -/
theorem passes_default :
    Passes (Text.joinLines shortEnding [headerLine defaultProfile]) [.header defaultProfile] := by
  apply Ini.passes_closedLines
  simp only [List.forall_mem_singleton]
  exact .header (by decide)

include plainKey oneLine opened in
/-- So the section is lost. -/
theorem sections_beforeSection (store : Store) (holds : disk.Holds store.path
    (some (Text.joinLines shortEnding (beforeSection key value)))) :
    (store.contents disk).sections = [defaultProfile] := by
  have passes := passes_default.append (passes_openSection plainKey oneLine opened)
  rw [← Text.joinLines_append] at passes
  exact store.sections_of_passes holds passes

include plainKey oneLine opened in
/-- It is lost whatever the value in front of the comment is. -/
theorem sections_behindComment (store : Store) {other before : Text}
    (plainOther : Ini.PlainKey other) (beforeLine : OneLine before) (holds : disk.Holds store.path
      (some (Text.joinLines shortEnding (behindComment other before key value)))) :
    (store.contents disk).sections = [defaultProfile] := by
  obtain ⟨said, commented⟩ := Ini.passes_beforeComment plainOther beforeLine
  have passes := (passes_default.append commented).append
    (passes_openSection plainKey oneLine opened)
  rw [← Text.joinLines_append, ← Text.joinLines_append] at passes
  exact store.sections_of_passes holds passes

end Lost

/-- A region that leaves its line open does harm, whatever the keys are. -/
theorem not_harmless_of_region (id secret : Text) (oneLine : OneLine region.trim)
    (opened : leavesOpen region.trim = true) : ¬ Harmless id secret region := by
  intro harmless
  have plainKey : Ini.PlainKey Region.key := by decide
  have plain := plainText_beforeSection plainKey (by decide : Ini.PlainValue ['a'])
  have read := plain.closed.parse_closedDocument
  have visible : region.trim ≠ [] := by
    intro nothing
    rw [nothing] at opened
    cases opened
  let settings := Text.joinLines shortEnding (beforeSection Region.key ['a'])
  have holdsKeys := Disk.holds_credentials_ofFiles none (some settings)
  have holdsSettings := Disk.holds_config_ofFiles none (some settings)
  obtain ⟨result, s', ran, name, rewrites⟩ :=
    run_default_region atRoot holdsKeys rfl holdsSettings read id secret region visible
  have kept := harmless atRoot _ (setsUp id secret region) [] _ result s' (Disk.apart_ofFiles _ _)
    ⟨none, holdsKeys, by simp⟩ ⟨_, holdsSettings, by simpa using plain⟩ ran
    (by rw [name]; decide) (types_setsUp id secret region _)
  have after := sections_beforeSection plainKey oneLine opened atRoot.configStore rewrites.holds
  have lost := kept.settings.kept.sections ['x']
  rw [after, Store.contents_eq atRoot.configStore holdsSettings read] at lost
  exact absurd (lost (by decide)) (by decide)

/-- Keys do harm when they are written behind a comment and the last one leaves its line open. -/
theorem not_harmless_of_keys {key value other before : Text} (plainKey : Ini.PlainKey key)
    (oneLine : OneLine value) (opened : leavesOpen value = true) (plainOther : Ini.PlainKey other)
    (beforeLine : OneLine before)
    (accepted : Credentials.ofTyped id secret = .ok ⟨id, secret⟩)
    (unstored : Credentials.ofDocument? (closedDocument
      (Text.joinLines shortEnding (beforeComment other ['a']))) defaultProfile = none)
    (written : (Credentials.storeIn ⟨id, secret⟩ defaultProfile
      (closedDocument (Text.joinLines shortEnding (beforeComment other ['a'])))).text =
        Text.joinLines shortEnding (behindComment other before key value))
    (there : ['x'] ∈ (closedDocument
      (Text.joinLines shortEnding (beforeComment other ['a']))).sections)
    (region : Text) : ¬ Harmless id secret region := by
  intro harmless
  have plain := plainText_beforeComment plainOther (by decide : Ini.PlainValue ['a'])
  have read := plain.closed.parse_closedDocument
  let keys := Text.joinLines shortEnding (beforeComment other ['a'])
  have holdsKeys := Disk.holds_credentials_ofFiles (some keys) none
  have holdsSettings := Disk.holds_config_ofFiles (some keys) none
  obtain ⟨result, s', ran, name, rewrites⟩ :=
    run_makes_default atRoot holdsKeys read holdsSettings rfl accepted unstored region
  have kept := harmless atRoot _ (setsUp id secret region) [] _ result s' (Disk.apart_ofFiles _ _)
    ⟨_, holdsKeys, by simpa using plain⟩ ⟨none, holdsSettings, by simp⟩ ran
    (by rw [name]; decide) (types_setsUp id secret region _)
  have holds := rewrites.holds
  rw [written] at holds
  have after := sections_behindComment plainKey oneLine opened atRoot.credentialsStore plainOther
    beforeLine holds
  have lost := kept.keys.kept.sections ['x']
  rw [after, Store.contents_eq atRoot.credentialsStore holdsKeys read] at lost
  exact absurd (lost there) (by decide)

/-! ## Keys on both sides of a comment -/

/-- A name of a key that leaves its line open does harm, whatever the secret is. -/
theorem not_harmless_of_id (accepted : Credentials.ofTyped id secret = .ok ⟨id, secret⟩)
    (idLine : OneLine id) (secretLine : OneLine secret) (opened : leavesOpen id = true)
    (region : Text) : ¬ Harmless id secret region := by
  have plainId : Ini.PlainKey Credentials.idKey := by decide
  have plainSecret : Ini.PlainKey Credentials.secretKey := by decide
  have oneLines : ∀ line ∈ behindComment Credentials.secretKey ['a'] Credentials.idKey id,
      OneLine line := by
    simp only [behindComment, List.forall_mem_cons, List.not_mem_nil, false_implies,
      implies_true, and_true]
    exact ⟨by decide, by decide, by decide, Ini.oneLine_entryLine plainId idLine, by decide⟩
  have written : (Credentials.storeIn ⟨id, secret⟩ defaultProfile (closedDocument
      (Text.joinLines shortEnding (beforeComment Credentials.secretKey ['a'])))).text =
      Text.joinLines shortEnding (behindComment Credentials.secretKey secret
        Credentials.idKey id) := by
    change Ini.setLine (Text.joinLines shortEnding (behindComment Credentials.secretKey ['a']
      Credentials.idKey id)) defaultProfile Credentials.secretKey secret = _
    rw [Ini.setLine_joinLines (.inl rfl) (fun line member => (oneLines line member).isLine _)
      (by simp [behindComment])]
    exact congrArg _ (Ini.setInLines_first rfl rfl rfl secret _)
  exact not_harmless_of_keys plainId idLine opened plainSecret secretLine accepted rfl written
    (by decide) region

/-- A secret that leaves its line open does harm, whatever the name of the key is. -/
theorem not_harmless_of_secret (accepted : Credentials.ofTyped id secret = .ok ⟨id, secret⟩)
    (idLine : OneLine id) (secretLine : OneLine secret) (opened : leavesOpen secret = true)
    (region : Text) : ¬ Harmless id secret region := by
  have plainId : Ini.PlainKey Credentials.idKey := by decide
  have plainSecret : Ini.PlainKey Credentials.secretKey := by decide
  have oneLines : ∀ line ∈ beforeComment Credentials.idKey id, OneLine line := by
    simp only [beforeComment, List.forall_mem_cons, List.not_mem_nil, false_implies,
      implies_true, and_true]
    exact ⟨by decide, Ini.oneLine_entryLine plainId idLine, by decide, by decide⟩
  have sets : Ini.keyName? (entryLine Credentials.idKey id) = some Credentials.idKey := by
    rw [Ini.entryLine_eq]
    exact Ini.keyName?_settingLine plainId (by decide) _
  have others : Ini.keyName? (entryLine Credentials.idKey id) ≠ some Credentials.secretKey := by
    rw [sets]
    decide
  have written : (Credentials.storeIn ⟨id, secret⟩ defaultProfile (closedDocument
      (Text.joinLines shortEnding (beforeComment Credentials.idKey ['a'])))).text =
      Text.joinLines shortEnding (behindComment Credentials.idKey id
        Credentials.secretKey secret) := by
    change Ini.setLine (Text.joinLines shortEnding (beforeComment Credentials.idKey id))
      defaultProfile Credentials.secretKey secret = _
    rw [Ini.setLine_joinLines (.inl rfl) (fun line member => (oneLines line member).isLine _)
      (by simp [beforeComment])]
    exact congrArg _ (Ini.setInLines_comment rfl (Ini.isHeader_entryLine plainId id) others rfl
      secret [])
  exact not_harmless_of_keys plainSecret secretLine opened plainId idLine accepted rfl written
    (by decide) region

/-! ## The condition -/

/-- **Values do no harm exactly when none leaves its line open.** Let a user type a name of a key
and a secret that are accepted, and a region, each on one line. Every run that succeeds for a
plain name on plain files leaves both files loadable, loses no section and changes no look-up but
those of the values that it writes, if and only if none of the three ends with a backslash that
no other one protects. -/
theorem harmless_iff {id secret region : Text}
    (accepted : Credentials.ofTyped id secret = .ok ⟨id, secret⟩) (idLine : OneLine id)
    (secretLine : OneLine secret) (regionLine : OneLine region.trim) :
    Harmless id secret region ↔
      leavesOpen id = false ∧ leavesOpen secret = false ∧ leavesOpen region.trim = false := by
  constructor
  · intro harmless
    refine ⟨?_, ?_, ?_⟩
    · by_contra opened
      exact not_harmless_of_id accepted idLine secretLine (by simpa using opened) region harmless
    · by_contra opened
      exact not_harmless_of_secret accepted idLine secretLine (by simpa using opened) region
        harmless
    · by_contra opened
      exact not_harmless_of_region id secret regionLine (by simpa using opened) harmless
  · rintro ⟨idClosed, secretClosed, regionClosed⟩
    exact harmless_of_closed idLine idClosed secretLine secretClosed regionLine regionClosed

/-- A backslash at the end of a secret does no harm when another one protects it. -/
theorem harmless_protected : Credentials.ofTyped "AKIA" "a/b\\\\" = .ok ⟨"AKIA", "a/b\\\\"⟩ ∧
    Harmless "AKIA" "a/b\\\\" "us-west-2" :=
  ⟨rfl, (harmless_iff rfl (by decide) (by decide) (by decide)).2 ⟨by decide, by decide, by decide⟩⟩

/-- The config file of a user with two profiles. -/
def workFile : Text := "[default]\nregion = us-east-1\n[profile work]\noutput = json\n"

/-- A region that ends with a backslash takes the next header out of such a file. -/
theorem loses_work : ∃ result s',
    (run atRoot [] ⟨some defaultProfile, none, []⟩).outcome
      (setsUp "AKIA" "abcd" "us-west-2\\") (.start (.ofFiles none (some workFile))) =
        (.ok result, s') ∧ PlainText workFile ∧
      (atRoot.configStore.contents (.ofFiles none (some workFile))).sections =
        ["default", "profile work"] ∧
      (atRoot.configStore.contents s'.disk).sections = ["default"] := by
  have plainKey : Ini.PlainKey Region.key := by decide
  have holdsKeys := Disk.holds_credentials_ofFiles none (some workFile)
  have holdsSettings := Disk.holds_config_ofFiles none (some workFile)
  have plain : PlainText workFile := by
    refine ⟨shortEnding, [headerLine defaultProfile, entryLine Region.key "us-east-1",
      headerLine "profile work", entryLine "output" "json"], .inl rfl, ?_, rfl⟩
    simp only [List.forall_mem_cons, List.not_mem_nil, false_implies, implies_true, and_true]
    exact ⟨.header (by decide), Ini.plainLine_entryLine plainKey (by decide), .header (by decide),
      Ini.plainLine_entryLine (by decide) (by decide)⟩
  have read := plain.closed.parse_closedDocument
  obtain ⟨result, s', ran, -, rewrites⟩ := run_default_region atRoot holdsKeys rfl
    holdsSettings read "AKIA" "abcd" "us-west-2\\" (by decide)
  refine ⟨result, s', ran, plain, ?_, ?_⟩
  · rw [Store.contents_eq atRoot.configStore holdsSettings read]
    decide
  · have rest : ∀ line ∈ [entryLine "output" "json"], Ini.ClosedLine shortEnding line := by
      simp only [List.forall_mem_singleton]
      exact Ini.closedLine_entryLine (by decide) (by decide) fun _ => by decide
    have taken := Ini.passes_openLine plainKey (by decide : OneLine "us-west-2\\") (by decide)
      (by decide : OneLine (headerLine "profile work")) (by decide)
    have passes := (passes_default.append taken).append (Ini.passes_closedLines rest)
    rw [← Text.joinLines_append, ← Text.joinLines_append] at passes
    exact Store.sections_of_passes atRoot.configStore rewrites.holds passes

end Selection

end ProfilePicker
