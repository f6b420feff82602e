import ProfilePicker.Proofs.Effects
import ProfilePicker.Proofs.FoldedNames
import ProfilePicker.Proofs.Taken
import ProfilePicker.Proofs.TwoParts

/-!
# The section of a profile that is picked

A section of the config file puts a profile into the catalog under its name in small letters, and
a profile that is picked leads back to the section of that name. For a section that is spelled so,
the way there and back ends where it began: its region is the one that is suggested, and whoever
accepts it changes no section, as long as the line that is written takes nothing in that the reader
has seen behind it and brings nothing out. A section that is spelled in another way is not found
again.
-/
namespace ProfilePicker

open Ini (Document setLine sectionsInParts textBefore trial)

/-! ## Picking a profile -/

namespace Selection

variable {l : Locations} {prompt : Prompt} {s : Session} {catalog : Catalog} {wish : Option Text}
  {profile name region suggested : Text} {index : Nat} {asked more : List Question}

/-- The ways to pick a profile that is known, with the questions that are asked for it. -/
inductive Picks (prompt : Prompt) (catalog : Catalog) (asked : List Question)
    (wish : Option Text) (profile : Text) : List Question → Prop
  /-- It is named, in whatever letter case. -/
  | named {spelling : Text} (wished : wish = some spelling)
      (same : spelling.toLower = profile.toLower) : Picks prompt catalog asked wish profile []
  /-- Its entry of the catalog is chosen. -/
  | chosen {index : Nat} (unnamed : wish.filter (· ≠ []) = none)
      (answered : prompt.answer asked (.select "Select AWS Profile" (options catalog)) =
        .ok (index + 1 : Nat))
      (entry : catalog.names[index]? = some profile.toLower) :
      Picks prompt catalog asked wish profile [choice catalog]

/-- A spelling is taken for its name in small letters, if this is the default profile or the catalog
knows it. -/
theorem validate_eq_ok_iff {spelling : Text} : validate catalog spelling = .ok name ↔
    name = spelling.toLower ∧ (name = defaultProfile ∨ name ∈ catalog.names) := by
  rw [validate]
  by_cases bare : spelling.toLower = defaultProfile
  · rw [if_pos (Text.toLower_eq_defaultProfile_iff.1 bare), bare, Except.ok.injEq]
    exact ⟨fun same => ⟨same.symm, .inl same.symm⟩, fun found => found.1.symm⟩
  · rw [if_neg (mt Text.toLower_eq_defaultProfile_iff.2 bare), Catalog.find?]
    cases found : catalog.names.find? (· = spelling.toLower) with
    | none =>
      refine iff_of_false (by simp) ?_
      rintro ⟨rfl, same | known⟩
      · exact bare same
      · simpa using List.find?_eq_none.1 found _ known
    | some known =>
      obtain rfl : known = spelling.toLower := by simpa using List.find?_some found
      have member := List.mem_of_find?_eq_some found
      simp only [Except.ok.injEq]
      exact ⟨fun same => same ▸ ⟨rfl, .inr member⟩, fun found => found.1.symm⟩

/-- A profile that is known is found in whatever letter case it is named. -/
theorem validate_of_mem {spelling : Text} (same : spelling.toLower = profile.toLower)
    (known : profile.toLower ∈ catalog.names) :
    validate catalog spelling = .ok profile.toLower :=
  validate_eq_ok_iff.2 ⟨same.symm, .inr known⟩

/-- A name that is valid is settled on. -/
theorem settleProfile_named {spelling : Text} (valid : validate catalog spelling = .ok name)
    (filled : spelling ≠ []) (l : Locations) (prompt : Prompt) (s : Session) :
    (settleProfile l catalog (some spelling)).outcome prompt s = (.ok name, s) := by
  have kept : (some spelling).filter (· ≠ []) = some spelling := by simp [filled]
  rw [settleProfile, kept]
  simp only [valid]
  rfl

/-- An entry behind the first one is a name of the catalog. -/
theorem choose_entry (answered : prompt.answer s.asked (choice catalog) = .ok (index + 1 : Nat))
    (entry : catalog.names[index]? = some name) (l : Locations) :
    (choose l catalog).outcome prompt s =
      (.ok name, { s with asked := s.asked ++ [choice catalog] }) := by
  have selected : (Flow.ask (choice catalog)).outcome prompt s =
      (.ok (index + 1 : Nat), { s with asked := s.asked ++ [choice catalog] }) := by
    rw [Flow.outcome_ask, answered]
  have listed : (options catalog)[index + 1]? = some name := by
    rw [options, List.getElem?_cons_succ]
    exact entry
  apply (Flow.outcome_bind_of_ok prompt s selected _).trans
  simp only [listed]
  rfl

/-- The profile that is picked is the one that is settled on, as the catalog spells it. -/
theorem Picks.settleProfile (picks : Picks prompt catalog s.asked wish profile more)
    (known : profile.toLower ∈ catalog.names) (nonempty : profile ≠ []) (l : Locations) :
    (settleProfile l catalog wish).outcome prompt s =
      (.ok profile.toLower, { s with asked := s.asked ++ more }) := by
  cases picks with
  | @named spelling wished same =>
    have filled : spelling ≠ [] := by
      rintro rfl
      exact Catalog.toLower_ne_nil nonempty same.symm
    rw [wished, List.append_nil]
    exact settleProfile_named (validate_of_mem same known) filled l prompt s
  | chosen unnamed answered entry =>
    rw [Selection.settleProfile, unnamed]
    exact choose_entry answered entry l

/-- A section of the config file puts its profile into the catalog. -/
theorem mem_names_of_belongs {keys settings : Document} (there : name ∈ settings.sections)
    (belongs : Naming.prefixed.profileFor? name = some profile) :
    profile.toLower ∈ (Catalog.ofDocuments keys settings).names :=
  Catalog.mem_ofDocuments.2 ⟨profile, .inr ⟨name, there, belongs⟩, rfl⟩

end Selection

/-! ## The region that is suggested -/

namespace Region

variable {s : Session} {t profile region : Text} {settings : Document}

/-- A region that is stored is suggested. An answer that accepts it is stored in its place. -/
theorem resolve_stored (store : Store) (prompt : Prompt) (suggested : Text)
    (holds : s.disk.Holds store.path (some t)) (read : Document.parse t = .ok settings)
    (stored : settings.get? (Naming.prefixed.sectionFor profile) key = some region)
    (nonempty : region ≠ []) :
    ∃ reply s', (resolve store suggested profile).outcome prompt s = (reply, s') ∧
      s'.asked = s.asked ++ [.input "Region" region] ∧
      (prompt.answer s.asked (.input "Region" region) = .ok region → reply = .ok region ∧
        s.disk.Rewrites store.path (storeIn region profile settings).text s'.disk) := by
  have offered : suggestionFor settings suggested profile = region := by
    rw [suggestionFor, stored]
    rfl
  have asked := resolve_asked store prompt suggested profile holds read
  rw [question, offered] at asked
  rcases ran : (resolve store suggested profile).outcome prompt s with ⟨reply, s'⟩
  rw [ran] at asked
  refine ⟨reply, s', rfl, asked, fun accepted => ?_⟩
  -- A value that was read has no blanks around it, so the answer is stored as it is.
  have trimmed : region.trim = region := (Document.trimmed_of_get? read stored).2.2
  have answered : prompt.answer s.asked
      (.input "Region" (suggestionFor settings suggested profile)) = .ok region := by
    rw [offered]
    exact accepted
  obtain ⟨written, log, rewrites, done⟩ := resolve_answered store prompt suggested profile holds
    read answered (by rwa [trimmed])
  rw [trimmed] at rewrites done
  cases ran.symm.trans done
  exact ⟨rfl, rewrites⟩

/-- A region that is stored leaves the same sections if its line is there already. Otherwise it does
so exactly when the text has the sections of the two parts before the line and from it on, unless
the reader is inside a header there. -/
theorem sections_of_rewrites {store : Store} {d d' : Disk} {name : Text}
    (read : Document.parse t = .ok settings)
    (rewrites : d.Rewrites store.path (storeIn region profile settings).text d')
    (leads : Naming.prefixed.sectionFor profile = name) :
    (setLine t name key region = t →
        (store.find d').map Document.sections = .ok settings.sections) ∧
      ((∃ front, Ini.items (textBefore t name key ++ trial) = .ok front) →
        ((store.find d').map Document.sections = .ok settings.sections ↔
          sectionsInParts t name key region = .ok settings.sections)) := by
  subst leads
  have parsed : documentOf (some t) = .ok settings := read
  have text : (storeIn region profile settings).text =
      setLine t (Naming.prefixed.sectionFor profile) key region := text_storeIn parsed
  rw [Store.sections_find_iff rewrites.holds.finds, text]
  constructor
  · intro same
    rw [same, read]
    rfl
  · rintro ⟨front, before⟩
    exact Ini.sections_setLine_iff (by decide) before region settings.sections

end Region

/-! ## From a section to its profile and back -/

namespace Selection

variable {l : Locations} {prompt : Prompt} {s : Session} {profile name region : Text}
  {more : List Question} {keysContent settingsContent : Option Text} {keys settings : Document}

/-- A run that settles on a profile goes on with its region. -/
theorem outcome_run_of_settled {catalog : Catalog} (wishes : Wishes)
    (discovered : (Catalog.discover l).Logs prompt s catalog)
    (settled : ∀ log, (settleProfile l catalog wishes.profile).outcome prompt
      { s with log := log } = (.ok profile, { s with asked := s.asked ++ more, log := log }))
    (suggested : Text) :
    ∃ log, (run l suggested wishes).outcome prompt s = Flow.outcome (do
        let region ← settleRegion l suggested profile wishes.region
        return (Context.of profile region, Context.describe region wishes.description))
      prompt { s with asked := s.asked ++ more, log := log } := by
  obtain ⟨log, after⟩ := discovered.outcome_bind fun catalog => do
    let profile ← settleProfile l catalog wishes.profile
    let region ← settleRegion l suggested profile wishes.region
    return (Context.of profile region, Context.describe region wishes.description)
  exact ⟨log, after.trans (Flow.outcome_bind_of_ok prompt _ (settled log) _)⟩

/-- A run for a profile that is picked goes on with its region, unless one is named. -/
theorem outcome_run_of_picks {wishes : Wishes} (findsKeys : s.disk.Finds l.credentials keysContent)
    (readKeys : documentOf keysContent = .ok keys)
    (findsSettings : s.disk.Finds l.config settingsContent)
    (readSettings : documentOf settingsContent = .ok settings)
    (known : profile.toLower ∈ (Catalog.ofDocuments keys settings).names)
    (nonempty : profile ≠ []) (noRegion : wishes.region.filter (· ≠ []) = none)
    (picks : Picks prompt (.ofDocuments keys settings) s.asked wishes.profile profile more)
    (suggested : Text) :
    ∃ log, (run l suggested wishes).outcome prompt s = Flow.outcome (do
        let region ← Region.resolve l.configStore suggested profile.toLower
        return (Context.of profile.toLower region, Context.describe region wishes.description))
      prompt { s with asked := s.asked ++ more, log := log } := by
  have discovered : (Catalog.discover l).Logs prompt s (.ofDocuments keys settings) :=
    Catalog.discover_logs findsKeys readKeys findsSettings readSettings
  obtain ⟨log, after⟩ := outcome_run_of_settled wishes discovered
    (fun log => Picks.settleProfile (s := { s with log := log }) picks known nonempty l) suggested
  rw [settleRegion, noRegion] at after
  exact ⟨log, after⟩

/-- The sections of a config file, and the region that one of them stores. -/
def beforeAccepting (config name : Text) : Except Ini.Problem (List Text × Option Text) :=
  (Document.parse config).map fun d => (d.sections, d.get? name Region.key)

/-- The questions to a user who names a profile and accepts what is suggested, and the sections of
the config file after that. -/
def afterAccepting (config profile : Text) : List Question × Except Fault (List Text) :=
  let s' := ((run atRoot "us-east-1" ⟨some profile, none, []⟩).outcome .accepting
    (.start (.ofFiles none (some config)))).2
  (s'.asked, (atRoot.configStore.find s'.disk).map Document.sections)

end Selection

end ProfilePicker
