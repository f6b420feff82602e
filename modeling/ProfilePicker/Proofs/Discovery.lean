import ProfilePicker.Proofs.FoldedNames
import ProfilePicker.Proofs.Mirrors

/-!
# What is discovered

The catalog is a merge of two files: the sections of the credentials file and then the profiles of
the config file, in small letters, each where it occurs first. Only a file that is there and cannot
be loaded keeps it from being made. So the order of sections, their repetitions and the letter case
of their names have no influence on which profiles are known.
-/
namespace ProfilePicker

open Ini (Document Block)

/-! ## Members where they occur first -/

/-- The members of a list, each once, in the order in which they occur first. -/
structure FirstSeen {α : Type} [DecidableEq α] (l seen : List α) : Prop where
  /-- They are the members of the list. -/
  members : ∀ a, a ∈ seen ↔ a ∈ l
  /-- One that stands before another occurs before it. -/
  ordered : seen.Pairwise fun a b => l.idxOf a < l.idxOf b

section Lists

variable {α : Type} [DecidableEq α] {l seen : List α}

/-- Leaving out repetitions leaves each member where it occurs first. -/
theorem firstSeen_distinct (l : List α) : FirstSeen l (distinct l) := by
  refine ⟨fun a => mem_distinct, ?_⟩
  induction l with
  | nil => exact .nil
  | cons a rest ih =>
    rw [distinct, List.pairwise_cons]
    constructor
    · intro b member
      have differs : b ≠ a := by simpa using (List.mem_filter.1 member).2
      rw [List.idxOf_cons_self, List.idxOf_cons_ne rest differs.symm]
      omega
    · have kept := ih.filter (· ≠ a)
      refine kept.imp_of_mem fun {b c} first second before => ?_
      have differs : b ≠ a := by simpa using (List.mem_filter.1 first).2
      have differs' : c ≠ a := by simpa using (List.mem_filter.1 second).2
      rw [List.idxOf_cons_ne rest differs.symm, List.idxOf_cons_ne rest differs'.symm]
      omega

/-- No member is seen twice. -/
theorem FirstSeen.nodup (first : FirstSeen l seen) : seen.Nodup :=
  first.ordered.imp fun before same => by
    subst same
    exact absurd before (Nat.lt_irrefl _)

end Lists

/-! ## What the files are loaded as -/

/-- What loading a store comes to. -/
def Store.loaded (store : Store) (prompt : Prompt) (s : Session) : Except Fault Document :=
  (store.load.outcome prompt s).1

/-- A file that is there cannot be loaded. -/
def Obstructs (loaded : Except Fault Document) (fault : Fault) : Prop :=
  loaded = .error fault ∧ ∀ path, fault ≠ .missingFile path

/-- The names of the sections of a file, or none if it is not loaded. -/
def sectionsOf : Except Fault Document → List Text
  | .ok d => d.sections
  | .error _ => []

/-- The names in the headers of a file with all their repetitions, or none if it is not loaded. -/
def headersOf : Except Fault Document → List Text
  | .ok d => d.contents.blocks.map Block.name
  | .error _ => []

/-- The sections of a config file that belong to profiles. -/
def profileSections (sections : List Text) : List Text :=
  sections.filter fun name => name = defaultProfile ∨ profileWord <+: name

namespace Store

variable {store : Store} {d : Disk} {prompt : Prompt} {s : Session}

/-- Loading a store comes to what is found there. -/
theorem loaded_eq (store : Store) (prompt : Prompt) (s : Session) :
    store.loaded prompt s = store.find s.disk := by
  obtain ⟨log, loaded⟩ := store.outcome_load s .willing
  rw [Store.loaded, loaded, finding_willing]

/-- A store is taken for no document exactly when its file cannot be loaded although it is there. -/
theorem taken_eq_error_iff {fault : Fault} :
    store.taken d = .error fault ↔ Obstructs (store.find d) fault := by
  rw [taken, finding_willing, Obstructs]
  rcases store.find d with (_ | _ | _ | _ | path | _ | _ | _ | _ | _) | document
  case error.missingFile =>
    refine iff_of_false (fun same => by cases same) fun obstructs => ?_
    cases obstructs.1
    exact obstructs.2 path rfl
  case ok => exact iff_of_false (fun same => by cases same) fun obstructs => by cases obstructs.1
  all_goals
    refine ⟨fun same => ⟨same, ?_⟩, fun obstructs => obstructs.1⟩
    cases same
    simp

/-- The document that a store is taken for has the sections and the headers of its file. -/
theorem sections_of_taken {document : Document} (taken : store.taken d = .ok document) :
    document.sections = sectionsOf (store.find d) ∧
      document.contents.blocks.map Block.name = headersOf (store.find d) := by
  rw [Store.taken, finding_willing] at taken
  rcases found : store.find d with (_ | _ | _ | _ | path | _ | _ | _ | _ | _) | document'
  all_goals
    rw [found] at taken
    cases taken
  all_goals exact ⟨rfl, rfl⟩

end Store

/-! ## Sections and profiles -/

/-- A section of a config file has a profile when it is the default one or begins with the word. -/
theorem Naming.exists_profileFor?_iff (name : Text) :
    (∃ profile, prefixed.profileFor? name = some profile) ↔
      name = defaultProfile ∨ profileWord <+: name := by
  rw [profileFor?]
  split
  · rename_i bare
    exact iff_of_true ⟨name, rfl⟩ (.inl bare)
  · rename_i other
    rw [or_iff_right other]
    exact exists_congr fun profile => Text.dropStart?_eq_some_iff.trans eq_comm

/-- The sections that belong to profiles are those that have one. -/
theorem forall₂_profileSections (sections : List Text) :
    List.Forall₂ (fun name profile => Naming.prefixed.profileFor? name = some profile)
      (profileSections sections) (sections.filterMap Naming.prefixed.profileFor?) := by
  induction sections with
  | nil => exact .nil
  | cons name sections ih =>
    have belongs := Naming.exists_profileFor?_iff name
    rw [profileSections, List.filter_cons, List.filterMap_cons]
    cases leads : Naming.prefixed.profileFor? name with
    | some profile =>
      rw [if_pos (by simpa using belongs.1 ⟨profile, leads⟩)]
      exact .cons leads ih
    | none =>
      have foreign : ¬(name = defaultProfile ∨ profileWord <+: name) := by
        rw [← belongs, leads]
        simp
      rw [if_neg (by simpa using foreign)]
      exact ih

/-- Ways to change the headers of a file that change no profile but for letter case. -/
inductive Varies (naming : Naming) : List Text → List Text → Prop
  /-- The headers change places. -/
  | permuted {l l' : List Text} (perm : l.Perm l') : Varies naming l l'
  /-- A header is repeated. -/
  | repeated {name : Text} {l : List Text} (member : name ∈ l) : Varies naming l (name :: l)
  /-- A header is spelled in another way that comes to the same profile in small letters. -/
  | recased {name name' : Text} {l : List Text}
      (same : (naming.profileFor? name).map Text.toLower =
        (naming.profileFor? name').map Text.toLower) : Varies naming (name :: l) (name' :: l)
  /-- A change is taken back. -/
  | symm {l l' : List Text} (varies : Varies naming l l') : Varies naming l' l
  /-- One change follows another. -/
  | trans {l l' l'' : List Text} (first : Varies naming l l') (second : Varies naming l' l'') :
      Varies naming l l''

/-- The profiles that some headers belong to, in small letters. -/
def foldedProfiles (naming : Naming) (headers : List Text) : List Text :=
  headers.filterMap fun name => (naming.profileFor? name).map Text.toLower

/-- Headers that vary belong to the same profiles. -/
theorem Varies.mem_foldedProfiles {naming : Naming} {l l' : List Text} (varies : Varies naming l l')
    (n : Text) : n ∈ foldedProfiles naming l ↔ n ∈ foldedProfiles naming l' := by
  unfold foldedProfiles
  induction varies with
  | permuted perm => exact (perm.filterMap _).mem_iff
  | @repeated name l member =>
    rw [List.mem_filterMap, List.mem_filterMap]
    exact exists_congr fun other => and_congr_left' (by simp; grind)
  | recased same => rw [List.filterMap_cons, List.filterMap_cons, same]
  | symm _ ih => exact ih.symm
  | trans _ _ ih ih' => exact ih.trans ih'

/-! ## The merge of two files -/

/-- A result is the merge of two files: the catalog of their profiles, or the fault of the first one
that cannot be loaded. -/
structure Merges (keys settings : Except Fault Document) (result : Except Fault Catalog) :
    Prop where
  /-- It fails with the fault of the credentials file, or else with that of the config file. A file
  that is missing is no fault. -/
  fails : ∀ fault, result = .error fault ↔
    Obstructs keys fault ∨ (∀ other, ¬Obstructs keys other) ∧ Obstructs settings fault
  /-- Its names are the sections of the credentials file and then the profiles of those sections of
  the config file that belong to one, in small letters, each where it occurs first. -/
  names : ∀ catalog, result = .ok catalog → ∃ profiles,
    List.Forall₂ (fun name profile => Naming.prefixed.profileFor? name = some profile)
      (profileSections (sectionsOf settings)) profiles ∧
    FirstSeen ((sectionsOf keys ++ profiles).map Text.toLower) catalog.names
  /-- Small letters do not make two of them the same. -/
  apart : ∀ catalog, result = .ok catalog →
    catalog.names.Pairwise fun name other => name.toLower ≠ other.toLower

namespace Catalog

variable {l : Locations} {d : Disk} {keys settings : Document} {catalog : Catalog}

/-- A catalog cannot be made when the credentials file cannot be loaded, or else the config file. -/
theorem taken_eq_error_iff {fault : Fault} : taken l d = .error fault ↔
    Obstructs (l.credentialsStore.find d) fault ∨
      (∀ other, ¬Obstructs (l.credentialsStore.find d) other) ∧
        Obstructs (l.configStore.find d) fault := by
  simp only [← Store.taken_eq_error_iff]
  unfold taken
  cases l.credentialsStore.taken d with
  | error other => simp [bind, Except.bind]
  | ok keys =>
    cases l.configStore.taken d with
    | error other => simp [bind, Except.bind]
    | ok settings => simp [bind, Except.bind, pure, Except.pure]

/-- A catalog that is made is the one of the two documents that the files are taken for. -/
theorem exists_of_taken (taken : taken l d = .ok catalog) :
    ∃ keys settings, l.credentialsStore.taken d = .ok keys ∧ l.configStore.taken d = .ok settings ∧
      catalog = ofDocuments keys settings := by
  unfold Catalog.taken at taken
  cases first : l.credentialsStore.taken d with
  | error other =>
    rw [first] at taken
    cases taken
  | ok keys =>
    cases second : l.configStore.taken d with
    | error other =>
      rw [first, second] at taken
      cases taken
    | ok settings =>
      rw [first, second] at taken
      cases taken
      exact ⟨keys, settings, rfl, rfl, rfl⟩

/-- A name of a catalog is its own in small letters. -/
theorem toLower_of_mem {names : List Text} {name : Text} (known : name ∈ (ofNames names).names) :
    name.toLower = name := by
  rw [ofNames, mem_distinct, List.mem_map] at known
  obtain ⟨spelling, -, rfl⟩ := known
  exact Text.toLower_toLower spelling

/-- Two names of a catalog differ in small letters. -/
theorem pairwise_toLower_ne (names : List Text) :
    (ofNames names).names.Pairwise fun name other => name.toLower ≠ other.toLower := by
  have nodup : (ofNames names).names.Nodup := nodup_distinct _
  refine List.Pairwise.imp_of_mem (fun {name other} first second differ => ?_) nodup
  rw [toLower_of_mem first, toLower_of_mem second]
  exact differ

/-- The names of two documents, each where it occurs first. -/
theorem firstSeen_ofDocuments (keys settings : Document) :
    FirstSeen ((keys.sections ++ settings.sections.filterMap Naming.prefixed.profileFor?).map
      Text.toLower) (ofDocuments keys settings).names := by
  have all : keys.sections.filterMap Naming.verbatim.profileFor? = keys.sections :=
    List.filterMap_some
  have first := firstSeen_distinct ((keys.sections.filterMap Naming.verbatim.profileFor? ++
    settings.sections.filterMap Naming.prefixed.profileFor?).map Text.toLower)
  rw [ofDocuments, ofNames]
  rwa [all] at first ⊢

/-- The names of two documents are the profiles that their headers belong to. -/
theorem mem_names_iff {name : Text} : name ∈ (ofDocuments keys settings).names ↔
    name ∈ foldedProfiles .verbatim (keys.contents.blocks.map Block.name) ++
      foldedProfiles .prefixed (settings.contents.blocks.map Block.name) := by
  have headers : ∀ (d : Document) (n : Text),
      n ∈ d.sections ↔ n ∈ d.contents.blocks.map Block.name := fun d n => mem_distinct
  rw [mem_ofDocuments, List.mem_append, foldedProfiles, foldedProfiles, List.mem_filterMap,
    List.mem_filterMap]
  simp only [headers, Naming.profileFor?, Option.map_some, Option.some.injEq,
    Option.map_eq_some_iff]
  constructor
  · rintro ⟨profile, member | ⟨section_, member, leads⟩, rfl⟩
    · exact .inl ⟨profile, member, rfl⟩
    · exact .inr ⟨section_, member, profile, leads, rfl⟩
  · rintro (⟨profile, member, rfl⟩ | ⟨section_, member, profile, leads, rfl⟩)
    · exact ⟨profile, .inl member, rfl⟩
    · exact ⟨profile, .inr ⟨section_, member, leads⟩, rfl⟩

/-- **Discovering profiles merges the two files.** It fails with the fault of the first file that is
there and cannot be loaded. Otherwise the catalog has the sections of the credentials file and then
the profiles of the config file in small letters, each once and where it occurs first, and no two
of them come to the same in small letters. Two files whose headers are permuted, repeated or
spelled in other letter case give the same names in some order. -/
theorem discover_merges (l : Locations) (prompt : Prompt) (s : Session) :
    Merges (l.credentialsStore.loaded prompt s) (l.configStore.loaded prompt s)
      ((discover l).outcome prompt s).1 ∧
    ∀ (l' : Locations) (prompt' : Prompt) (s' : Session),
      Varies .verbatim (headersOf (l.credentialsStore.loaded prompt s))
        (headersOf (l'.credentialsStore.loaded prompt' s')) →
      Varies .prefixed (headersOf (l.configStore.loaded prompt s))
        (headersOf (l'.configStore.loaded prompt' s')) →
      (∀ fault, ¬Obstructs (l'.credentialsStore.loaded prompt' s') fault) →
      (∀ fault, ¬Obstructs (l'.configStore.loaded prompt' s') fault) →
      ∀ catalog, ((discover l).outcome prompt s).1 = .ok catalog →
        ∃ catalog', ((discover l').outcome prompt' s').1 = .ok catalog' ∧
          catalog.names.Perm catalog'.names := by
  have ends : ∀ (l : Locations) (prompt : Prompt) (s : Session),
      ((discover l).outcome prompt s).1 = taken l s.disk := by
    intro l prompt s
    obtain ⟨log, ran⟩ := outcome_discover l prompt s
    rw [ran]
  simp only [Store.loaded_eq, ends]
  refine ⟨⟨fun fault => taken_eq_error_iff, fun catalog made => ?_, fun catalog made => ?_⟩, ?_⟩
  · obtain ⟨keys, settings, takenKeys, takenSettings, rfl⟩ := exists_of_taken made
    have first := firstSeen_ofDocuments keys settings
    rw [(Store.sections_of_taken takenKeys).1] at first
    rw [← (Store.sections_of_taken takenSettings).1]
    exact ⟨_, forall₂_profileSections settings.sections, first⟩
  · obtain ⟨keys, settings, -, -, rfl⟩ := exists_of_taken made
    exact pairwise_toLower_ne _
  · intro l' _ s' varyKeys varySettings freeKeys freeSettings catalog made
    have free : ∀ fault, taken l' s'.disk ≠ .error fault := by
      intro fault failed
      rcases taken_eq_error_iff.1 failed with obstructs | ⟨-, obstructs⟩
      · exact freeKeys fault obstructs
      · exact freeSettings fault obstructs
    cases made' : taken l' s'.disk with
    | error fault => exact absurd made' (free fault)
    | ok catalog' =>
      refine ⟨catalog', rfl, ?_⟩
      obtain ⟨keys, settings, takenKeys, takenSettings, rfl⟩ := exists_of_taken made
      obtain ⟨keys', settings', takenKeys', takenSettings', rfl⟩ := exists_of_taken made'
      rw [← (Store.sections_of_taken takenKeys).2, ← (Store.sections_of_taken takenKeys').2]
        at varyKeys
      rw [← (Store.sections_of_taken takenSettings).2,
        ← (Store.sections_of_taken takenSettings').2] at varySettings
      have nodup := (firstSeen_ofDocuments keys settings).nodup
      have nodup' := (firstSeen_ofDocuments keys' settings').nodup
      rw [List.perm_ext_iff_of_nodup nodup nodup']
      intro name
      rw [mem_names_iff, mem_names_iff, List.mem_append, List.mem_append,
        varyKeys.mem_foldedProfiles, varySettings.mem_foldedProfiles]

/-- The headers of both files change places, one is repeated and one is spelled in other letters,
among them the two small forms of the sigma. A section that belongs to no profile adds none. -/
theorem discover_merges_recased :
    let s := Session.start (.ofFiles (some "[Work]\n[ΟΔΟΣ]\n")
      (some "[default]\n[sso-session dev]\n[profile WORK]\n"))
    let s' := Session.start (.ofFiles (some "[οδος]\n[wORK]\n[οδος]\n")
      (some "[profile work]\n[sso-session dev]\n[default]\n"))
    ((discover Selection.atRoot).outcome .accepting s).1 = .ok ⟨["work", "οδος", "default"]⟩ ∧
      ∃ catalog', ((discover Selection.atRoot).outcome .accepting s').1 = .ok catalog' ∧
        (["work", "οδος", "default"] : List Text).Perm catalog'.names := by
  intro s s'
  have keys : headersOf (Selection.atRoot.credentialsStore.loaded .accepting s) =
      ["Work", "ΟΔΟΣ"] := by decide +kernel
  have keys' : headersOf (Selection.atRoot.credentialsStore.loaded .accepting s') =
      ["οδος", "wORK", "οδος"] := by decide +kernel
  have settings : headersOf (Selection.atRoot.configStore.loaded .accepting s) =
      ["default", "sso-session dev", "profile WORK"] := by decide +kernel
  have settings' : headersOf (Selection.atRoot.configStore.loaded .accepting s') =
      ["profile work", "sso-session dev", "default"] := by decide +kernel
  have readsKeys : (Selection.atRoot.credentialsStore.loaded .accepting s').isOk = true := by
    decide +kernel
  have readsSettings : (Selection.atRoot.configStore.loaded .accepting s').isOk = true := by
    decide +kernel
  have made : ((discover Selection.atRoot).outcome .accepting s).1 =
      .ok ⟨["work", "οδος", "default"]⟩ := by decide +kernel
  have varyKeys : Varies .verbatim ["Work", "ΟΔΟΣ"] ["οδος", "wORK", "οδος"] := by
    have work : Varies .verbatim ["Work", "ΟΔΟΣ"] ["wORK", "ΟΔΟΣ"] := .recased (by decide +kernel)
    have swapped : Varies .verbatim ["wORK", "ΟΔΟΣ"] ["ΟΔΟΣ", "wORK"] := .permuted (.swap _ _ _)
    have small : Varies .verbatim ["ΟΔΟΣ", "wORK"] ["οδος", "wORK"] := .recased (by decide +kernel)
    have again : Varies .verbatim ["οδος", "wORK"] ["οδος", "οδος", "wORK"] :=
      .repeated List.mem_cons_self
    have moved : Varies .verbatim ["οδος", "οδος", "wORK"] ["οδος", "wORK", "οδος"] :=
      .permuted (.cons _ (.swap _ _ _))
    exact work.trans (swapped.trans (small.trans (again.trans moved)))
  have varySettings : Varies .prefixed ["default", "sso-session dev", "profile WORK"]
      ["profile work", "sso-session dev", "default"] := by
    have turned : Varies .prefixed ["default", "sso-session dev", "profile WORK"]
        ["profile WORK", "sso-session dev", "default"] := .permuted (List.reverse_perm _).symm
    have small : Varies .prefixed ["profile WORK", "sso-session dev", "default"]
        ["profile work", "sso-session dev", "default"] := .recased (by decide +kernel)
    exact turned.trans small
  obtain ⟨-, steady⟩ := discover_merges Selection.atRoot .accepting s
  refine ⟨made, steady Selection.atRoot .accepting s' (by rwa [keys, keys'])
    (by rwa [settings, settings']) (fun fault obstructs => ?_) (fun fault obstructs => ?_) _ made⟩
  · rw [obstructs.1] at readsKeys
    cases readsKeys
  · rw [obstructs.1] at readsSettings
    cases readsSettings

end Catalog

end ProfilePicker
